import Mathlib.Data.Set.List
import Routing.Proofs.Regex.Room

/-!
# Alternatives in normal form

In normal form the branches of an alternation share what they all begin with, and single characters become one
set. The ways through them stay the same, but for ways that one branch repeats after another.

* `SameFirst`: two lists agree on the first member of any kind
* `Node.through`: the ways through one node after the other
* `Node.Keyed`: parts without a group are single characters
* `Node.sameFirst_settled`: the ways through an alternation in normal form
-/
namespace Routing.Regex

open Routing.Unicode

/-- Whatever is searched for, the same is found first in both lists. -/
def SameFirst {α : Type} (l l' : List α) : Prop :=
  ∀ p : α → Bool, l.find? p = l'.find? p

namespace SameFirst

variable {α β : Type} {l l' : List α}

theorem refl (l : List α) : SameFirst l l :=
  fun _ => rfl

theorem map (h : SameFirst l l') (f : α → β) : SameFirst (l.map f) (l'.map f) := by
  intro p
  rw [List.find?_map, List.find?_map, h]

theorem flatMap (h : SameFirst l l') (f : α → List β) : SameFirst (l.flatMap f) (l'.flatMap f) := by
  have first (l : List α) (p : β → Bool) : (l.flatMap f).find? p =
      (l.find? fun x => ((f x).find? p).isSome).bind fun x => (f x).find? p := by
    induction l with
    | nil => rfl
    | cons x l ih =>
      rw [List.flatMap_cons, List.find?_append, ih, List.find?_cons]
      cases here : (f x).find? p with
      | none => rfl
      | some y => exact here.symm
  intro p
  rw [first, first, h]

end SameFirst

namespace Node

/-! ## Ways through parts -/

/-- The ways through one node after the other. -/
def through : List Node → Thread → List Thread
  | [], t => [t]
  | a :: rest, t => (a.ways t).flatMap (through rest)

theorem through_append (as bs : List Node) (t : Thread) :
    through (as ++ bs) t = (through as t).flatMap (through bs) := by
  induction as generalizing t with
  | nil => simp [through]
  | cons a as ih =>
    rw [List.cons_append, through, through, List.flatMap_assoc]
    exact List.flatMap_congr fun u _ => ih u

theorem through_factors (a : Node) (t : Thread) : through a.factors t = a.ways t := by
  induction a generalizing t with
  | seq a b ihA ihB =>
    rw [factors, through_append, ihA, ways]
    exact List.flatMap_congr fun u _ => ihB u
  | _ => simp [factors, through, ways]

theorem factors_append (a b : Node) : (a.append b).factors = a.factors ++ b.factors := by
  fun_induction append a b with
  | case1 a => simp [factors]
  | case2 a b c ih => simp only [factors, ih, List.append_assoc]
  | case3 b => simp [factors]
  | case4 => rfl

theorem factors_ofFactors (parts : List Node) : (ofFactors parts).factors = parts.flatMap factors := by
  have along (a : Node) : (parts.foldl append a).factors = a.factors ++ parts.flatMap factors := by
    induction parts generalizing a with
    | nil => simp
    | cons b rest ih =>
      rw [List.foldl_cons, ih, factors_append, List.flatMap_cons, List.append_assoc]
  exact along .empty

theorem factors_of_mem_factors {a b : Node} (hb : b ∈ a.factors) : b.factors = [b] := by
  induction a with
  | empty => cases hb
  | seq x y ihx ihy => exact (List.mem_append.1 hb).elim ihx ihy
  | _ =>
    obtain rfl := List.mem_singleton.1 hb
    rfl

/-- Parts of a node make a sequence of just these parts. -/
theorem factors_ofFactors_of_subset {a : Node} {parts : List Node} (part : ∀ b ∈ parts, b ∈ a.factors) :
    (ofFactors parts).factors = parts := by
  rw [factors_ofFactors]
  conv_rhs => rw [← List.flatMap_singleton' parts]
  exact List.flatMap_congr fun b hb => factors_of_mem_factors (part b hb)

theorem ways_ofFactors_of_subset {a : Node} {parts : List Node} (part : ∀ b ∈ parts, b ∈ a.factors)
    (t : Thread) : (ofFactors parts).ways t = through parts t := by
  rw [← through_factors, factors_ofFactors_of_subset part]

theorem ways_ofBranches (bs : List Node) (t : Thread) :
    (ofBranches bs).ways t = bs.flatMap (·.ways t) := by
  have along (a : Node) (rest : List Node) :
      (rest.foldl alt a).ways t = a.ways t ++ rest.flatMap (·.ways t) := by
    induction rest generalizing a with
    | nil => simp
    | cons b rest ih => rw [List.foldl_cons, ih, ways, List.flatMap_cons, List.append_assoc]
  cases bs with
  | nil =>
    rw [ofBranches, ways, Thread.step]
    cases t.rest <;> rfl
  | cons b rest => exact along b rest

/-! ## Keyed nodes -/

/-- Sets with members, that are known to be the same by their edges. -/
structure Faithful (sets : CharSet → Prop) : Prop where
  nonempty : ∀ s, sets s → s.isEmpty = false
  same : ∀ s t, sets s → sets t → s.same t = true → s.contains = t.contains

/-- Each part of the node holds a group or is one of the sets, and none is an alternation. -/
def Keyed (sets : CharSet → Prop) (a : Node) : Prop :=
  ∀ b ∈ a.factors, b.isAlt = false ∧ (b.groups = [] → ∃ s, sets s ∧ b = set s)

section

variable {sets : CharSet → Prop}

theorem Keyed.noAlt {a : Node} (h : a.Keyed sets) : a.isAlt = false := by
  cases a with
  | alt a b => exact (h (alt a b) (List.mem_singleton.2 rfl)).1
  | _ => rfl

theorem Keyed.append {a b : Node} (ha : a.Keyed sets) (hb : b.Keyed sets) : (a.append b).Keyed sets := by
  intro c hc
  rw [factors_append] at hc
  exact (List.mem_append.1 hc).elim (ha c) (hb c)

theorem Keyed.ofFactors {a : Node} (h : a.Keyed sets) {parts : List Node}
    (part : ∀ b ∈ parts, b ∈ a.factors) : (Node.ofFactors parts).Keyed sets := by
  intro b hb
  rw [factors_ofFactors_of_subset part] at hb
  exact h b (part b hb)

theorem isEmpty_unionAll (ss : List CharSet) : (CharSet.unionAll ss).isEmpty = ss.all (·.isEmpty) := by
  induction ss with
  | nil => rfl
  | cons s ss ih => rw [CharSet.unionAll, List.foldr_cons, List.all_cons, ← ih]; rfl

theorem contains_unionAll (ss : List CharSet) (c : Char) :
    (CharSet.unionAll ss).contains c = ss.any (·.contains c) := by
  induction ss with
  | nil => rfl
  | cons s ss ih => rw [CharSet.unionAll, List.foldr_cons, List.any_cons, ← ih]; rfl

/-- To take a character of the union is to take it for the first set that has it. -/
theorem sameFirst_unionAll (ss : List CharSet) (t : Thread) :
    SameFirst (t.step (.unionAll ss)).toList (ss.flatMap fun s => (t.step s).toList) := by
  unfold Thread.step
  cases t.rest with
  | nil =>
    simp only [Option.toList_none]
    rw [List.flatMap_eq_nil_iff.2 fun _ _ => rfl]
    exact .refl []
  | cons c rest =>
    intro p
    simp only [contains_unionAll]
    induction ss with
    | nil => rfl
    | cons s ss ih =>
      rw [List.flatMap_cons, List.find?_append, ← ih, List.any_cons]
      cases s.contains c <;> cases ss.any (·.contains c) <;>
        cases here : p ⟨t.index + 1, some c, rest, t.bindings⟩ <;> simp [here]

/-- Branches that are merged are sets. -/
theorem exists_sets_of_merged {bs : List Node} {m : Node} (h : merged? bs = some m) :
    ∃ ss, bs = ss.map set ∧ m = ofSet (.unionAll ss) := by
  obtain ⟨kinds, merged⟩ := Option.ite_none_right_eq_some.1 h
  obtain rfl := Option.some.inj merged
  have each (b : Node) (hb : b ∈ bs) : ∃ s, set s = b := by
    rw [Bool.or_eq_true, List.all_eq_true, List.all_eq_true] at kinds
    rcases kinds with literals | classes
    · have := literals b hb
      cases b <;> first | exact ⟨_, rfl⟩ | cases this
    · have := classes b hb
      cases b <;> first | exact ⟨_, rfl⟩ | cases this
  obtain ⟨ss, rfl⟩ : bs ∈ Set.range (List.map set) := (Set.range_list_map set).symm ▸ each
  refine ⟨ss, rfl, ?_⟩
  rw [List.filterMap_map]
  exact congrArg (fun ss => ofSet (.unionAll ss)) List.filterMap_some

variable (faithful : Faithful sets)
include faithful

/-- A choice between branches, which are one set if all of them are. -/
theorem sameFirst_choice {bs : List Node} (keyed : ∀ b ∈ bs, b.Keyed sets) (t : Thread) :
    SameFirst (((merged? bs).getD (ofBranches bs)).ways t) (bs.flatMap (·.ways t)) := by
  cases merged : merged? bs with
  | none =>
    rw [Option.getD_none, ways_ofBranches]
    exact .refl _
  | some m =>
    obtain ⟨ss, rfl, rfl⟩ := exists_sets_of_merged merged
    have members : ∀ s ∈ ss, s.isEmpty = false := by
      intro s hs
      obtain ⟨-, known⟩ := keyed (set s) (List.mem_map_of_mem hs) (set s) (List.mem_singleton.2 rfl)
      obtain ⟨s', hs', same⟩ := known rfl
      exact Node.set.inj same ▸ faithful.nonempty s' hs'
    have one : ofSet (.unionAll ss) = set (.unionAll ss) := by
      unfold ofSet
      split
      · next empty =>
        cases ss with
        | nil => rfl
        | cons s ss =>
          rw [isEmpty_unionAll, List.all_cons, members s List.mem_cons_self] at empty
          cases empty
      · rfl
    rw [Option.getD_some, one, List.flatMap_map]
    exact sameFirst_unionAll ss t

/-! ## What branches share -/

/-- Sets that are the same by their edges lead the same way. -/
theorem through_of_same {xs ys : List Node} (alike : List.Forall₂ (fun x y => x.same y = true) xs ys)
    (hx : ∀ x ∈ xs, ∃ s, sets s ∧ x = set s) (hy : ∀ y ∈ ys, ∃ s, sets s ∧ y = set s) :
    through xs = through ys := by
  induction alike with
  | nil => rfl
  | @cons x y xs ys here _ ih =>
    obtain ⟨⟨s, hs, rfl⟩, laterX⟩ := List.forall_mem_cons.1 hx
    obtain ⟨⟨s', hs', rfl⟩, laterY⟩ := List.forall_mem_cons.1 hy
    have same : (set s).ways = (set s').ways := by
      funext t
      rw [ways, ways, Thread.step, Thread.step, faithful.same s s' hs hs' here]
    funext t
    rw [through, through, same, ih laterX laterY]

end

theorem forall₂_of_sameAtom {xs ys : List Node} (h : sameAtom xs ys = true) :
    List.Forall₂ (fun x y => x.same y = true) xs ys := by
  fun_induction sameAtom xs ys with
  | case1 => exact .nil
  | case2 a as b bs ih =>
    obtain ⟨front, behind⟩ := Bool.and_eq_true_iff.1 h
    exact .cons front (ih behind)
  | case3 => cases h

theorem forall₂_take_of_commonLength {xs ys : List (List Node)} {n : Nat} (h : n ≤ commonLength xs ys) :
    List.Forall₂ (fun x y => x.same y = true) (xs.take n).flatten (ys.take n).flatten := by
  induction n generalizing xs ys with
  | zero => exact .nil
  | succ n ih =>
    unfold commonLength at h
    split at h
    · rename_i x xs y ys
      split at h
      · rename_i alike
        simp only [List.take_succ_cons, List.flatten_cons]
        exact List.rel_append (forall₂_of_sameAtom alike) (ih (Nat.le_of_succ_le_succ h))
      · cases h
    · cases h

/-- There is one way at most through sets. -/
theorem through_sets {xs : List Node} (hx : ∀ x ∈ xs, ∃ s, x = set s) (t : Thread) :
    through xs t = [] ∨ ∃ u, through xs t = [u] := by
  induction xs generalizing t with
  | nil => exact .inr ⟨t, rfl⟩
  | cons x xs ih =>
    obtain ⟨⟨s, rfl⟩, later⟩ := List.forall_mem_cons.1 hx
    rw [through, ways]
    cases t.step s with
    | none => exact .inl rfl
    | some u =>
      rw [Option.toList_some, List.flatMap_singleton]
      exact ih later u

/-- No two branches have a group in common. -/
def Apart (bs : List Node) : Prop :=
  bs.Pairwise fun a b => ∀ g ∈ a.groups, g ∉ b.groups

section

variable {sets : CharSet → Prop} {bs : List Node} {m : Node}

/-- What several branches share has no group, since the groups of one are not those of another. -/
theorem groups_front_of_shared (apart : Apart bs) (several : 2 ≤ bs.length) {n : Nat} {first : Node}
    (known : first ∈ bs) (common : ∀ b ∈ bs, b = first ∨ n ≤ commonLength first.atoms b.atoms) :
    ∀ b ∈ bs, (b.front n).flatMap groups = [] := by
  have alike : ∀ b ∈ bs, (b.front n).flatMap groups = (first.front n).flatMap groups := by
    intro b hb
    obtain rfl | common := common b hb
    · rfl
    · exact (atomGroups_take common).symm
  have inside (b : Node) (g) (hg : g ∈ (b.front n).flatMap groups) : g ∈ b.groups := by
    rw [← flatMap_groups_factors, ← front_append_back n b, List.flatMap_append]
    exact List.mem_append_left _ hg
  -- two of the branches have the same groups in front, so that there are none
  match bs, several with
  | b :: c :: rest, _ =>
    have empty : (b.front n).flatMap groups = [] := by
      rw [List.eq_nil_iff_forall_not_mem]
      intro g hg
      have other := (alike c (by simp)).trans (alike b (by simp)).symm
      exact (List.pairwise_cons.1 apart).1 c (by simp) g (inside b g hg) (inside c g (other ▸ hg))
    intro d hd
    rw [alike d hd, ← alike b (by simp), empty]

variable (keyed : ∀ b ∈ bs, b.Keyed sets)
include keyed

theorem branches_back (n : Nat) :
    (bs.map fun b => ofFactors (b.back n)).flatMap branches = bs.map fun b => ofFactors (b.back n) := by
  conv_rhs => rw [← List.flatMap_singleton' (bs.map _)]
  refine List.flatMap_congr fun c hc => ?_
  obtain ⟨b, hb, rfl⟩ := List.mem_map.1 hc
  exact branches_of_not_alt ((keyed b hb).ofFactors fun _ => mem_factors_of_mem_back).noAlt

theorem sets_front {n : Nat} (noGroups : ∀ b ∈ bs, (b.front n).flatMap groups = []) {b : Node}
    (hb : b ∈ bs) : ∀ x ∈ b.front n, ∃ s, sets s ∧ x = set s := by
  intro x hx
  exact (keyed b hb x (mem_factors_of_mem_front hx)).2 (List.flatMap_eq_nil_iff.1 (noGroups b hb) x hx)

theorem sameFirst_shared (faithful : Faithful sets) (apart : Apart bs) (several : 2 ≤ bs.length)
    (h : shared? bs = some m) (t : Thread) : SameFirst (m.ways t) (bs.flatMap (·.ways t)) := by
  obtain ⟨n, first, known, ⟨-, -, common⟩, rfl⟩ := exists_of_shared h
  have noGroups := groups_front_of_shared apart several known common
  have single {b : Node} (hb : b ∈ bs) := sets_front keyed noGroups hb
  have alike : ∀ b ∈ bs, b.ways t = (through (first.front n) t).flatMap (through (b.back n)) := by
    intro b hb
    rw [← through_factors, ← front_append_back n b, through_append]
    obtain rfl | common := common b hb
    · rfl
    · have same : List.Forall₂ _ (first.front n) (b.front n) := forall₂_take_of_commonLength common
      rw [through_of_same faithful same (single known) (single hb)]
  rw [ways_append, ways_ofFactors_of_subset fun _ => mem_factors_of_mem_front, branches_back keyed,
    List.flatMap_congr alike]
  have one := through_sets (fun x hx => (single known x hx).imp fun _ => And.right) t
  obtain none | ⟨u, one⟩ := one
  · rw [none, List.flatMap_nil, List.flatMap_eq_nil_iff.2 fun _ _ => List.flatMap_nil]
    exact .refl []
  · have left : ∀ b ∈ bs.map fun b => ofFactors (b.back n), b.Keyed sets := by
      intro c hc
      obtain ⟨b, hb, rfl⟩ := List.mem_map.1 hc
      exact (keyed b hb).ofFactors fun _ => mem_factors_of_mem_back
    have choice := sameFirst_choice faithful left u
    rw [List.flatMap_map] at choice
    simp only [one, List.flatMap_singleton]
    simpa only [ways_ofFactors_of_subset fun _ => mem_factors_of_mem_back] using choice

/-- The ways through an alternation in normal form are those through its branches, one after the other. -/
theorem sameFirst_settled (faithful : Faithful sets) (apart : Apart bs) (some_ : bs ≠ []) (t : Thread) :
    SameFirst ((ofBranches bs).settled.ways t) (bs.flatMap (·.ways t)) := by
  have plain : ∀ b ∈ bs, b.isAlt = false := fun b hb => (keyed b hb).noAlt
  by_cases several : 2 ≤ bs.length
  · rw [settled_of_alt (isAlt_ofBranches several), branches_ofBranches some_ plain]
    cases hm : merged? bs with
    | some m =>
      have choice := sameFirst_choice faithful keyed t
      rwa [hm] at choice
    | none =>
      cases hs : shared? bs with
      | some m => exact sameFirst_shared keyed faithful apart several hs t
      | none =>
        rw [← ways_ofBranches]
        exact .refl _
  · obtain ⟨b, rfl⟩ : ∃ b, bs = [b] := List.length_eq_one_iff.1 (by
      have := List.length_pos_iff.2 some_
      omega)
    rw [ofBranches, List.foldl_nil, settled_of_not_alt (plain b List.mem_cons_self), List.flatMap_singleton]
    exact .refl _

/-- It has the groups of its branches, in their order. -/
theorem groups_settled (apart : Apart bs) (some_ : bs ≠ []) :
    (ofBranches bs).settled.groups = bs.flatMap groups := by
  have plain : ∀ b ∈ bs, b.isAlt = false := fun b hb => (keyed b hb).noAlt
  by_cases several : 2 ≤ bs.length
  · rw [settled_of_alt (isAlt_ofBranches several), branches_ofBranches some_ plain]
    cases hm : merged? bs with
    | some m =>
      obtain ⟨none, none'⟩ := flatMap_groups_of_merged hm
      exact none.trans none'.symm
    | none =>
      cases hs : shared? bs with
      | some m =>
        obtain ⟨n, first, known, ⟨-, -, common⟩, rfl⟩ := exists_of_shared hs
        have noGroups := groups_front_of_shared apart several known common
        show Node.groups (Node.append _ _) = _
        rw [groups_append, groups_ofFactors, noGroups first known, groups_merged_getD, branches_back keyed,
          List.nil_append, List.flatMap_map]
        refine List.flatMap_congr fun b hb => ?_
        rw [groups_ofFactors, ← flatMap_groups_factors b, ← front_append_back n b, List.flatMap_append,
          noGroups b hb, List.nil_append]
      | none => exact groups_ofBranches bs
  · obtain ⟨b, rfl⟩ : ∃ b, bs = [b] := List.length_eq_one_iff.1 (by
      have := List.length_pos_iff.2 some_
      omega)
    rw [ofBranches, List.foldl_nil, settled_of_not_alt (plain b List.mem_cons_self), List.flatMap_singleton]

end

theorem isPartwise_orderly : IsPartwise (·.orderly = true) where
  empty := rfl
  set _ := rfl
  seq := Bool.and_eq_true_iff
  alt := Bool.and_eq_true_iff

/-! ## The room of a normal form -/

def roomOf : List Node → Nat
  | [] => 0
  | a :: as => a.roomBound + roomOf as

theorem roomOf_append (as bs : List Node) : roomOf (as ++ bs) = roomOf as + roomOf bs := by
  induction as with
  | nil => exact (Nat.zero_add _).symm
  | cons a as ih => rw [List.cons_append, roomOf, ih, roomOf, Nat.add_assoc]

theorem roomOf_factors_le (a : Node) : roomOf a.factors ≤ a.roomBound := by
  induction a with
  | empty => exact Nat.zero_le _
  | seq a b ihA ihB =>
    rw [factors, roomOf_append, roomBound]
    omega
  | _ => simp [factors, roomOf]

theorem roomBound_ofFactors_le (parts : List Node) : (ofFactors parts).roomBound ≤ roomOf parts + 64 := by
  have along (a : Node) : (parts.foldl append a).roomBound ≤ roomOf parts + a.roomBound := by
    induction parts generalizing a with
    | nil => simp [roomOf]
    | cons b rest ih =>
      have first := roomBound_append a b
      have later := ih (a.append b)
      rw [List.foldl_cons, roomOf]
      omega
  exact along .empty

theorem roomBound_ofBranches_le (bs : List Node) :
    (ofBranches bs).roomBound ≤ roomOf bs + 128 * bs.length + 64 := by
  have along (a : Node) (rest : List Node) :
      (rest.foldl alt a).roomBound ≤ a.roomBound + roomOf rest + 128 * rest.length := by
    induction rest generalizing a with
    | nil => simp [roomOf]
    | cons b rest ih =>
      have later := ih (alt a b)
      simp only [roomOf, List.foldl_cons, List.length_cons, roomBound] at later ⊢
      omega
  cases bs with
  | nil => exact Nat.le_refl 64
  | cons b rest =>
    have all := along b rest
    simp only [ofBranches, roomOf, List.length_cons] at all ⊢
    omega

theorem roomBound_merged_le {bs : List Node} {m : Node} (h : merged? bs = some m) :
    m.roomBound ≤ roomOf bs + 64 := by
  obtain ⟨ss, rfl, rfl⟩ := exists_sets_of_merged h
  have ranges (ss : List CharSet) : 3000 * rangeBound (.unionAll ss) ≤ roomOf (ss.map set) := by
    induction ss with
    | nil => exact Nat.le_refl 0
    | cons s ss ih =>
      have both : rangeBound (.unionAll (s :: ss)) = rangeBound s + rangeBound (.unionAll ss) := rfl
      rw [List.map_cons, roomOf, roomBound]
      omega
  unfold ofSet
  split
  · exact Nat.le_add_left 64 _
  · have bound := ranges ss
    rw [roomBound]
    omega

theorem roomBound_choice_le (bs : List Node) :
    ((merged? bs).getD (ofBranches bs)).roomBound ≤ roomOf bs + 128 * bs.length + 64 := by
  cases merged : merged? bs with
  | none => exact roomBound_ofBranches_le bs
  | some m =>
    have room := roomBound_merged_le merged
    rw [Option.getD_some]
    omega

/-- What branches share stands once, and in each of them before. -/
theorem roomOf_shared_le (n : Nat) {bs : List Node} {first : Node} (known : first ∈ bs) :
    roomOf (first.front n) + roomOf (bs.map fun b => ofFactors (b.back n)) ≤ roomOf bs + 64 * bs.length := by
  have parts (b : Node) : roomOf (b.front n) + (ofFactors (b.back n)).roomBound ≤ b.roomBound + 64 := by
    have all := roomOf_factors_le b
    have back := roomBound_ofFactors_le (b.back n)
    rw [← front_append_back n b, roomOf_append] at all
    omega
  have backs (bs : List Node) :
      roomOf (bs.map fun b => ofFactors (b.back n)) ≤ roomOf bs + 64 * bs.length := by
    induction bs with
    | nil => exact Nat.le_refl 0
    | cons b bs ih =>
      have here := parts b
      simp only [roomOf, List.map_cons, List.length_cons] at ih here ⊢
      omega
  induction bs with
  | nil => cases known
  | cons b bs ih =>
    have here := parts b
    have others := backs bs
    simp only [roomOf, List.map_cons, List.length_cons] at ih here others ⊢
    obtain rfl | known := List.mem_cons.1 known
    · omega
    · have later := ih known
      omega

/-- The normal form of an alternation takes hardly more room than its branches. -/
theorem roomBound_settled_le {sets : CharSet → Prop} {bs : List Node} (keyed : ∀ b ∈ bs, b.Keyed sets)
    (some_ : bs ≠ []) : (ofBranches bs).settled.roomBound ≤ roomOf bs + 192 * bs.length + 128 := by
  have plain : ∀ b ∈ bs, b.isAlt = false := fun b hb => (keyed b hb).noAlt
  have branches := roomBound_ofBranches_le bs
  cases kind : (ofBranches bs).isAlt with
  | false =>
    rw [settled_of_not_alt kind]
    omega
  | true =>
    rw [settled_of_alt kind, branches_ofBranches some_ plain]
    cases hm : merged? bs with
    | some m =>
      have room := roomBound_merged_le hm
      show m.roomBound ≤ _
      omega
    | none =>
      cases hs : shared? bs with
      | some m =>
        obtain ⟨n, first, known, -, rfl⟩ := exists_of_shared hs
        have both := roomOf_shared_le n known
        have front := roomBound_ofFactors_le (first.front n)
        have choice := roomBound_choice_le (bs.map fun b => ofFactors (b.back n))
        rw [List.length_map] at choice
        rw [branches_back keyed]
        exact Nat.le_trans (roomBound_append _ _) (by omega)
      | none =>
        show (ofBranches bs).roomBound ≤ _
        omega

end Node

end Routing.Regex
