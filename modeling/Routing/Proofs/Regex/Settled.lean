import Routing.Proofs.Regex.Groups

/-!
# Nodes in normal form

An alternation is put in normal form once it is complete. To do so again changes nothing, and no assertion
is added by it.

* `Node.settled_settled`: what is settled stays as it is
* `Expr.settled_of_lower`: an expression without alternatives of its own is settled already
* `Expr.seesEnd_of_lower`: an expression that asks for no end is lowered to a node that asks for none
-/
namespace Routing.Regex

/-- The assertion asks that the text or a line ends. -/
def Look.isEnd : Look → Bool
  | stop | lineEnd | lineEndCrlf => true
  | _ => false

namespace Node

/-! ## Alternations -/

theorem isAlt_of_mem_branches {a b : Node} (hb : b ∈ a.branches) : b.isAlt = false := by
  induction a with
  | alt x y ihx ihy => exact (List.mem_append.1 hb).elim ihx ihy
  | _ =>
    obtain rfl := List.mem_singleton.1 hb
    rfl

theorem branches_of_not_alt {a : Node} (h : a.isAlt = false) : a.branches = [a] := by
  cases a <;> first | rfl | cases h

theorem branches_ne_nil (a : Node) : a.branches ≠ [] := by
  induction a with
  | alt x y ihx _ => simp [branches, ihx]
  | _ => simp [branches]

theorem two_le_length_branches (a b : Node) : 2 ≤ (alt a b).branches.length := by
  have left := List.length_pos_iff.2 (branches_ne_nil a)
  have right := List.length_pos_iff.2 (branches_ne_nil b)
  rw [branches, List.length_append]
  omega

theorem isAlt_foldl_alt (a : Node) {rest : List Node} (some_ : rest ≠ []) :
    (rest.foldl alt a).isAlt = true := by
  induction rest generalizing a with
  | nil => exact absurd rfl some_
  | cons b rest ih =>
    cases rest with
    | nil => rfl
    | cons c rest => exact ih (alt a b) (List.cons_ne_nil _ _)

theorem isAlt_ofBranches {bs : List Node} (several : 2 ≤ bs.length) : (ofBranches bs).isAlt = true := by
  match bs, several with
  | b :: c :: rest, _ => exact isAlt_foldl_alt b (List.cons_ne_nil _ _)

theorem branches_ofBranches {bs : List Node} (some_ : bs ≠ []) (plain : ∀ b ∈ bs, b.isAlt = false) :
    (ofBranches bs).branches = bs := by
  have along (a : Node) (rest : List Node) (plain : ∀ b ∈ rest, b.isAlt = false) :
      (rest.foldl alt a).branches = a.branches ++ rest := by
    induction rest generalizing a with
    | nil => simp
    | cons b rest ih =>
      obtain ⟨front, behind⟩ := List.forall_mem_cons.1 plain
      rw [List.foldl_cons, ih _ behind, branches, branches_of_not_alt front, List.append_assoc]
      rfl
  cases bs with
  | nil => exact absurd rfl some_
  | cons b rest =>
    obtain ⟨front, behind⟩ := List.forall_mem_cons.1 plain
    rw [ofBranches, along b rest behind, branches_of_not_alt front]
    rfl

theorem settled_of_alt {a : Node} (h : a.isAlt = true) :
    a.settled = (merged? a.branches <|> shared? a.branches).getD (ofBranches a.branches) := by
  cases a <;> first | rfl | cases h

theorem exists_set_of_merged {bs : List Node} {m : Node} (h : merged? bs = some m) : ∃ s, m = set s := by
  obtain ⟨-, merged⟩ := Option.ite_none_right_eq_some.1 h
  obtain rfl := Option.some.inj merged
  unfold ofSet
  split
  · exact ⟨_, rfl⟩
  · exact ⟨_, rfl⟩

/-! ## Sequences -/

theorem ne_empty_of_mem_factors {a b : Node} (hb : b ∈ a.factors) : b ≠ empty := by
  induction a with
  | empty => cases hb
  | seq x y ihx ihy => exact (List.mem_append.1 hb).elim ihx ihy
  | _ =>
    obtain rfl := List.mem_singleton.1 hb
    exact nofun

theorem append_ne_empty {a b : Node} (h : a ≠ empty ∨ b ≠ empty) : a.append b ≠ empty := by
  fun_cases append a b with
  | case1 a => exact h.resolve_right (· rfl)
  | case2 a b c =>
    intro same
    cases same
  | case3 b => exact h.resolve_left (· rfl)
  | case4 =>
    intro same
    cases same

theorem ofFactors_ne_empty {factors : List Node} (some_ : factors ≠ [])
    (each : ∀ b ∈ factors, b ≠ empty) : ofFactors factors ≠ empty := by
  have along (a : Node) (rest : List Node) (ha : a ≠ empty) : rest.foldl append a ≠ empty := by
    induction rest generalizing a with
    | nil => exact ha
    | cons b rest ih => exact ih _ (append_ne_empty (.inl ha))
  cases factors with
  | nil => exact absurd rfl some_
  | cons b rest => exact along _ rest (append_ne_empty (.inr (each b List.mem_cons_self)))

/-- Behind anything at all, a set or an alternation is the last part of a sequence. -/
theorem isAlt_append_of_ne {a b : Node} (ha : a ≠ empty) (hb : b.isAlt = true ∨ ∃ s, b = set s) :
    (a.append b).isAlt = false := by
  fun_cases append a b with
  | case1 a => rcases hb with hb | ⟨s, hb⟩ <;> cases hb
  | case2 a b c => rfl
  | case3 b => exact absurd rfl ha
  | case4 => rfl

theorem settled_append {a b : Node} (ha : a.settled = a) (hb : b.settled = b) :
    (a.append b).settled = a.append b := by
  fun_cases append a b with
  | case1 a => exact ha
  | case2 a b c => rfl
  | case3 b => exact hb
  | case4 => rfl

theorem settled_repeated {a : Node} (ha : a.settled = a) (greedy : Bool) (least : Nat) (most : Option Nat) :
    (a.repeated greedy least most).settled = a.repeated greedy least most := by
  fun_cases repeated a greedy least most <;> first | rfl | exact ha

theorem settled_ofSet (s : Unicode.CharSet) : (ofSet s).settled = ofSet s := by
  unfold ofSet
  split <;> rfl

/-! ## Normal forms -/

theorem flatten_atoms (a : Node) : a.atoms.flatten = a.factors :=
  List.flatten_splitBy _ _

/-- The parts of the first `n` atoms. -/
def front (n : Nat) (a : Node) : List Node :=
  (a.atoms.take n).flatten

/-- The parts behind the first `n` atoms. -/
def back (n : Nat) (a : Node) : List Node :=
  (a.atoms.drop n).flatten

theorem front_append_back (n : Nat) (a : Node) : a.front n ++ a.back n = a.factors := by
  rw [front, back, ← List.flatten_append, List.take_append_drop, flatten_atoms]

theorem mem_factors_of_mem_front {a b : Node} {n : Nat} (hb : b ∈ a.front n) : b ∈ a.factors :=
  front_append_back n a ▸ List.mem_append_left _ hb

theorem mem_factors_of_mem_back {a b : Node} {n : Nat} (hb : b ∈ a.back n) : b ∈ a.factors :=
  front_append_back n a ▸ List.mem_append_right _ hb

theorem front_ne_nil {a : Node} {n : Nat} (some_ : a.atoms ≠ []) (positive : 0 < n) : a.front n ≠ [] := by
  obtain ⟨x, xs, atoms⟩ := List.exists_cons_of_ne_nil some_
  obtain ⟨k, rfl⟩ := Nat.exists_eq_succ_of_ne_zero (Nat.ne_of_gt positive)
  have filled : x ≠ [] := List.ne_nil_of_mem_splitBy (atoms ▸ List.mem_cons_self : x ∈ a.atoms)
  rw [front, atoms, List.take_succ_cons, List.flatten_cons]
  exact List.append_ne_nil_of_left_ne_nil filled _

/-- What branches come to that share atoms: as many atoms as all of them begin with, as they stand in the
first one, and a choice of what is left of each. -/
theorem exists_of_shared {bs : List Node} {m : Node} (h : shared? bs = some m) :
    ∃ n, ∃ first ∈ bs, (0 < n ∧ first.atoms ≠ [] ∧
        ∀ b ∈ bs, b = first ∨ n ≤ commonLength first.atoms b.atoms) ∧
      m = (ofFactors (first.front n)).append
        ((merged? ((bs.map fun b => ofFactors (b.back n)).flatMap branches)).getD
          (ofBranches ((bs.map fun b => ofFactors (b.back n)).flatMap branches))) := by
  unfold shared? at h
  split at h
  · cases h
  · rename_i front rest atoms
    obtain ⟨apart, h⟩ := Option.ite_none_right_eq_some.1 h
    obtain rfl := Option.some.inj h
    rw [Bool.and_eq_true, List.all_cons, Bool.and_eq_true, decide_eq_true_eq, decide_eq_true_eq] at apart
    obtain ⟨⟨two, -⟩, positive⟩ := apart
    obtain ⟨first, bs', rfl, rfl, rfl⟩ := List.map_eq_cons_iff.1 atoms
    refine ⟨_, first, List.mem_cons_self, ⟨positive, ?_, fun b hb => ?_⟩, ?_⟩
    · rintro nothing
      rw [nothing] at two
      cases two
    · refine (List.mem_cons.1 hb).imp_right fun hb => ?_
      exact (foldl_min_le _ _ _).2 _ (List.mem_map_of_mem hb)
    · rw [← List.map_cons, List.map_map]
      rfl

theorem length_le_flatMap_branches (as : List Node) : as.length ≤ (as.flatMap branches).length := by
  induction as with
  | nil => exact Nat.le_refl 0
  | cons a as ih =>
    have filled := List.length_pos_iff.2 (branches_ne_nil a)
    rw [List.flatMap_cons, List.length_append, List.length_cons]
    omega

theorem isAlt_of_shared {bs : List Node} {m : Node} (h : shared? bs = some m) (several : 2 ≤ bs.length) :
    m.isAlt = false := by
  obtain ⟨n, first, -, ⟨positive, some_, -⟩, rfl⟩ := exists_of_shared h
  apply isAlt_append_of_ne
  · exact ofFactors_ne_empty (front_ne_nil some_ positive) fun x hx =>
      ne_empty_of_mem_factors (mem_factors_of_mem_front hx)
  · generalize hrest : List.flatMap _ _ = rest
    cases merged : merged? rest with
    | some m => exact .inr (exists_set_of_merged merged)
    | none =>
      refine .inl (isAlt_ofBranches (hrest ▸ Nat.le_trans ?_ (length_le_flatMap_branches _)))
      simpa using several

/-- What is settled stays as it is. -/
theorem settled_settled (a : Node) : a.settled.settled = a.settled := by
  cases kind : a.isAlt with
  | false => rw [settled_of_not_alt kind, settled_of_not_alt kind]
  | true =>
    obtain ⟨x, y, rfl⟩ : ∃ x y, a = alt x y := by
      cases a <;> first | exact ⟨_, _, rfl⟩ | cases kind
    have several := two_le_length_branches x y
    have form := settled_of_alt kind
    cases hm : merged? (alt x y).branches with
    | some m =>
      obtain ⟨s, rfl⟩ := exists_set_of_merged hm
      rw [hm] at form
      rw [form]
      rfl
    | none =>
      cases hs : shared? (alt x y).branches with
      | some m =>
        rw [hm, hs] at form
        rw [form]
        exact settled_of_not_alt (isAlt_of_shared hs several)
      | none =>
        rw [hm, hs] at form
        have same := branches_ofBranches (branches_ne_nil (alt x y)) fun b => isAlt_of_mem_branches
        rw [form]
        change (ofBranches (alt x y).branches).settled = ofBranches (alt x y).branches
        rw [settled_of_alt (isAlt_ofBranches several), same, hm, hs]
        rfl

/-! ## What holds of all parts -/

/-- A property that a node has if its parts have it, as far as sequences and alternations go. -/
structure IsPartwise (P : Node → Prop) : Prop where
  empty : P empty
  set : ∀ s, P (set s)
  seq : ∀ {a b}, P (seq a b) ↔ P a ∧ P b
  alt : ∀ {a b}, P (alt a b) ↔ P a ∧ P b

namespace IsPartwise

variable {P : Node → Prop} (h : IsPartwise P)
include h

theorem append {a b : Node} (ha : P a) (hb : P b) : P (a.append b) := by
  fun_induction Node.append a b with
  | case1 a => exact ha
  | case2 a b c ih =>
    obtain ⟨hb, hc⟩ := h.seq.1 hb
    exact h.seq.2 ⟨ih ha hb, hc⟩
  | case3 b => exact hb
  | case4 => exact h.seq.2 ⟨ha, hb⟩

theorem ofFactors {factors : List Node} (each : ∀ b ∈ factors, P b) : P (ofFactors factors) := by
  have along (a : Node) (rest : List Node) (ha : P a) (each : ∀ b ∈ rest, P b) :
      P (rest.foldl Node.append a) := by
    induction rest generalizing a with
    | nil => exact ha
    | cons b rest ih =>
      obtain ⟨front, behind⟩ := List.forall_mem_cons.1 each
      exact ih _ (h.append ha front) behind
  exact along .empty factors h.empty each

theorem ofBranches {bs : List Node} (each : ∀ b ∈ bs, P b) : P (ofBranches bs) := by
  have along (a : Node) (rest : List Node) (ha : P a) (each : ∀ b ∈ rest, P b) :
      P (rest.foldl Node.alt a) := by
    induction rest generalizing a with
    | nil => exact ha
    | cons b rest ih =>
      obtain ⟨front, behind⟩ := List.forall_mem_cons.1 each
      exact ih _ (h.alt.2 ⟨ha, front⟩) behind
  cases bs with
  | nil => exact h.set .empty
  | cons b rest =>
    obtain ⟨front, behind⟩ := List.forall_mem_cons.1 each
    exact along b rest front behind

theorem of_mem_factors {a b : Node} (ha : P a) (hb : b ∈ a.factors) : P b := by
  induction a with
  | empty => cases hb
  | seq x y ihx ihy =>
    obtain ⟨hx, hy⟩ := h.seq.1 ha
    exact (List.mem_append.1 hb).elim (ihx hx) (ihy hy)
  | _ =>
    obtain rfl := List.mem_singleton.1 hb
    exact ha

theorem of_mem_branches {a b : Node} (ha : P a) (hb : b ∈ a.branches) : P b := by
  induction a with
  | alt x y ihx ihy =>
    obtain ⟨hx, hy⟩ := h.alt.1 ha
    exact (List.mem_append.1 hb).elim (ihx hx) (ihy hy)
  | _ =>
    obtain rfl := List.mem_singleton.1 hb
    exact ha

theorem choice {bs : List Node} (each : ∀ b ∈ bs, P b) : P ((merged? bs).getD (Node.ofBranches bs)) := by
  cases merged : merged? bs with
  | none => exact h.ofBranches each
  | some m =>
    obtain ⟨s, rfl⟩ := exists_set_of_merged merged
    exact h.set s

/-- What branches share, and a choice of what is left of them, are made of their parts. -/
theorem of_shared {bs : List Node} {m : Node} (shared : shared? bs = some m) (each : ∀ b ∈ bs, P b) :
    P m := by
  obtain ⟨n, first, known, -, rfl⟩ := exists_of_shared shared
  refine h.append (h.ofFactors fun x hx => ?_) (h.choice fun x hx => ?_)
  · exact h.of_mem_factors (each first known) (mem_factors_of_mem_front hx)
  · obtain ⟨suffix, hsuffix, hx⟩ := List.mem_flatMap.1 hx
    obtain ⟨b, hb, rfl⟩ := List.mem_map.1 hsuffix
    refine h.of_mem_branches (h.ofFactors fun y hy => ?_) hx
    exact h.of_mem_factors (each b hb) (mem_factors_of_mem_back hy)

theorem settled {a : Node} (ha : P a) : P a.settled := by
  cases kind : a.isAlt with
  | false => rwa [settled_of_not_alt kind]
  | true =>
    have each (b : Node) (hb : b ∈ a.branches) := h.of_mem_branches ha hb
    rw [settled_of_alt kind]
    cases hm : merged? a.branches with
    | some m =>
      obtain ⟨s, rfl⟩ := exists_set_of_merged hm
      exact h.set s
    | none =>
      cases hs : shared? a.branches with
      | some m => exact h.of_shared hs each
      | none => exact h.ofBranches each

end IsPartwise

/-! ## Ends -/

/-- Some assertion of the node asks for an end. -/
def seesEnd : Node → Bool
  | look l => l.isEnd
  | seq a b | alt a b => a.seesEnd || b.seesEnd
  | group _ _ a | rep _ _ _ a => a.seesEnd
  | empty | set _ => false

theorem isPartwise_seesEnd : IsPartwise (·.seesEnd = false) where
  empty := rfl
  set _ := rfl
  seq := Bool.or_eq_false_iff
  alt := Bool.or_eq_false_iff

theorem seesEnd_repeated {a : Node} (none : a.seesEnd = false) (greedy : Bool) (least : Nat)
    (most : Option Nat) : (a.repeated greedy least most).seesEnd = false := by
  fun_cases repeated a greedy least most <;> first | rfl | exact none

theorem seesEnd_ofSet (s : Unicode.CharSet) : (ofSet s).seesEnd = false := by
  unfold ofSet
  split <;> rfl

end Node

/-! ## Expressions -/

namespace Expr

/-- No alternative stands outside of a group. -/
def isGrouped : Expr → Bool
  | alternation _ _ => false
  | repetition _ _ _ a => a.isGrouped
  | sequence a b => a.isGrouped && b.isGrouped
  | _ => true

/-- Some assertion asks that the text or a line ends. -/
def seesEnd : Expr → Bool
  | assertion a => a == .endLine || a == .endText
  | repetition _ _ _ a | group _ a => a.seesEnd
  | alternation a b | sequence a b => a.seesEnd || b.seesEnd
  | _ => false

/-- Without alternatives of its own an expression is lowered to a node that is settled already. -/
theorem settled_of_lower {e : Expr} {f f' : Flags} {a : Node} (h : e.lower f = .ok (a, f'))
    (grouped : e.isGrouped = true) : a.settled = a := by
  induction e generalizing f f' a with
  | empty | flags | assertion =>
    cases h
    rfl
  | literal | dot | property | shorthand =>
    obtain ⟨s, -, h⟩ := exists_of_bind h
    cases h
    exact Node.settled_ofSet _
  | bracketed =>
    obtain ⟨inner, -, h⟩ := exists_of_bind h
    obtain ⟨s, -, h⟩ := exists_of_bind h
    cases h
    exact Node.settled_ofSet _
  | repetition least most greedy e ih =>
    obtain ⟨⟨b, after⟩, inner, h⟩ := exists_of_bind h
    cases h
    exact Node.settled_repeated (ih inner grouped) _ least most
  | group kind e ih =>
    cases kind with
    | capture index own =>
      obtain ⟨⟨b, after⟩, inner, h⟩ := exists_of_bind h
      cases h
      rfl
    | plain items =>
      obtain ⟨⟨b, after⟩, inner, h⟩ := exists_of_bind h
      cases h
      exact Node.settled_settled b
  | alternation a b ihA ihB => cases grouped
  | sequence a b ihA ihB =>
    obtain ⟨⟨a', between⟩, first, h⟩ := exists_of_bind h
    obtain ⟨⟨b', after⟩, second, h⟩ := exists_of_bind h
    cases h
    obtain ⟨ga, gb⟩ := Bool.and_eq_true_iff.1 grouped
    exact Node.settled_append (ihA first ga) (ihB second gb)

/-- An expression that asks for no end is lowered to a node that asks for none. -/
theorem seesEnd_of_lower {e : Expr} {f f' : Flags} {a : Node} (h : e.lower f = .ok (a, f'))
    (none : e.seesEnd = false) : a.seesEnd = false := by
  induction e generalizing f f' a with
  | empty | flags =>
    cases h
    rfl
  | assertion kind =>
    cases h
    cases kind with
    | endLine | endText => cases none
    | startLine =>
      simp only [Node.seesEnd, Assertion.lower]
      cases f.multiLine <;> cases f.crlf <;> rfl
    | _ => rfl
  | literal | dot | property | shorthand =>
    obtain ⟨s, -, h⟩ := exists_of_bind h
    cases h
    exact Node.seesEnd_ofSet _
  | bracketed =>
    obtain ⟨inner, -, h⟩ := exists_of_bind h
    obtain ⟨s, -, h⟩ := exists_of_bind h
    cases h
    exact Node.seesEnd_ofSet _
  | repetition least most greedy e ih =>
    obtain ⟨⟨b, after⟩, inner, h⟩ := exists_of_bind h
    cases h
    exact Node.seesEnd_repeated (ih inner none) _ least most
  | group kind e ih =>
    cases kind with
    | capture index own =>
      obtain ⟨⟨b, after⟩, inner, h⟩ := exists_of_bind h
      cases h
      exact Node.isPartwise_seesEnd.settled (ih inner none)
    | plain items =>
      obtain ⟨⟨b, after⟩, inner, h⟩ := exists_of_bind h
      cases h
      exact Node.isPartwise_seesEnd.settled (ih inner none)
  | alternation a b ihA ihB =>
    obtain ⟨⟨a', between⟩, first, h⟩ := exists_of_bind h
    obtain ⟨⟨b', after⟩, second, h⟩ := exists_of_bind h
    cases h
    obtain ⟨na, nb⟩ := Bool.or_eq_false_iff.1 none
    simp only [Node.seesEnd, ihA first na, ihB second nb, Bool.or_false]
  | sequence a b ihA ihB =>
    obtain ⟨⟨a', between⟩, first, h⟩ := exists_of_bind h
    obtain ⟨⟨b', after⟩, second, h⟩ := exists_of_bind h
    cases h
    obtain ⟨na, nb⟩ := Bool.or_eq_false_iff.1 none
    exact Node.isPartwise_seesEnd.append (ihA first na) (ihB second nb)

end Expr

end Routing.Regex
