import Mathlib.Data.List.SplitBy
import Routing.Proofs.Regex.Ways
import Routing.Regex

/-!
# The groups of a matcher

A choice is put in normal form and flags are settled without a group getting lost. Only a repetition of
no times takes its groups along.

* `Node.mem_groups_settled`: the normal form has the same groups
* `Expr.captures`: the names of the groups that are left
* `Expr.mem_captures_iff`: the groups of a lowered expression go by these names
-/
namespace Routing.Regex

namespace Node

/-! ## Parts of nodes -/

theorem groups_ofSet (s : Unicode.CharSet) : (ofSet s).groups = [] := by
  unfold ofSet
  split <;> rfl

theorem groups_of_same {a b : Node} (h : a.same b = true) : a.groups = b.groups := by
  fun_induction same a b with
  | case4 a b c d ihA ihB | case5 a b c d ihA ihB =>
    obtain ⟨hA, hB⟩ := Bool.and_eq_true_iff.1 h
    simp only [groups, ihA hA, ihB hB]
  | case6 i name a j name' b ih =>
    simp only [Bool.and_eq_true, beq_iff_eq] at h
    obtain ⟨⟨rfl, rfl⟩, inner⟩ := h
    simp only [groups, ih inner]
  | case7 least most greedy a least' most' greedy' b ih =>
    obtain ⟨-, inner⟩ := Bool.and_eq_true_iff.1 h
    simp only [groups, ih inner]
  | _ => first | rfl | cases h

theorem flatMap_groups_factors (a : Node) : a.factors.flatMap groups = a.groups := by
  induction a with
  | seq a b ihA ihB => simp only [factors, List.flatMap_append, ihA, ihB, groups]
  | _ => simp [factors, groups]

theorem groups_ofFactors (factors : List Node) : (ofFactors factors).groups = factors.flatMap groups := by
  have along (a : Node) : (factors.foldl append a).groups = a.groups ++ factors.flatMap groups := by
    induction factors generalizing a with
    | nil => simp
    | cons b rest ih => simp only [List.foldl_cons, ih, groups_append, List.flatMap_cons, List.append_assoc]
  exact along .empty

theorem flatMap_groups_branches (a : Node) : a.branches.flatMap groups = a.groups := by
  induction a with
  | alt a b ihA ihB => simp only [branches, List.flatMap_append, ihA, ihB, groups]
  | _ => simp [branches, groups]

theorem groups_ofBranches (branches : List Node) :
    (ofBranches branches).groups = branches.flatMap groups := by
  have along (a : Node) (rest : List Node) :
      (rest.foldl alt a).groups = a.groups ++ rest.flatMap groups := by
    induction rest generalizing a with
    | nil => simp
    | cons b rest ih => simp only [List.foldl_cons, ih, groups, List.flatMap_cons, List.append_assoc]
  cases branches with
  | nil => rfl
  | cons b rest => exact along b rest

/-! ## Alternations -/

/-- Branches that are merged are sets, which hold no groups. -/
theorem flatMap_groups_of_merged {branches : List Node} {a : Node} (h : merged? branches = some a) :
    a.groups = [] ∧ branches.flatMap groups = [] := by
  rw [merged?, Option.ite_none_right_eq_some] at h
  obtain ⟨sets, merged⟩ := h
  refine ⟨Option.some.inj merged ▸ groups_ofSet _, List.flatMap_eq_nil_iff.2 fun b hb => ?_⟩
  rw [Bool.or_eq_true, List.all_eq_true, List.all_eq_true] at sets
  rcases sets with literals | classes
  · have := literals b hb
    cases b <;> first | rfl | cases this
  · have := classes b hb
    cases b <;> first | rfl | cases this

theorem groups_merged_getD (branches : List Node) :
    ((merged? branches).getD (ofBranches branches)).groups = branches.flatMap groups := by
  cases h : merged? branches with
  | none => exact groups_ofBranches branches
  | some a =>
    obtain ⟨none, none'⟩ := flatMap_groups_of_merged h
    exact none.trans none'.symm

/-- The groups of a run of atoms. -/
def atomGroups (atoms : List (List Node)) : List (Nat × Option String) :=
  atoms.flatten.flatMap groups

theorem atomGroups_append (xs ys : List (List Node)) :
    atomGroups (xs ++ ys) = atomGroups xs ++ atomGroups ys := by
  simp [atomGroups]

theorem atomGroups_atoms (a : Node) : atomGroups a.atoms = a.groups := by
  rw [atomGroups, atoms, List.flatten_splitBy, flatMap_groups_factors]

theorem flatMap_groups_of_sameAtom {xs ys : List Node} (h : sameAtom xs ys = true) :
    xs.flatMap groups = ys.flatMap groups := by
  fun_induction sameAtom xs ys with
  | case1 => rfl
  | case2 a as b bs ih =>
    obtain ⟨front, behind⟩ := Bool.and_eq_true_iff.1 h
    simp only [List.flatMap_cons, groups_of_same front, ih behind]
  | case3 => cases h

theorem atomGroups_take {xs ys : List (List Node)} {n : Nat} (h : n ≤ commonLength xs ys) :
    atomGroups (xs.take n) = atomGroups (ys.take n) := by
  induction n generalizing xs ys with
  | zero => rfl
  | succ n ih =>
    unfold commonLength at h
    split at h
    · rename_i x xs y ys
      split at h
      · rename_i alike
        have behind := ih (Nat.le_of_succ_le_succ h)
        simp only [atomGroups, List.take_succ_cons, List.flatten_cons, List.flatMap_append,
          flatMap_groups_of_sameAtom alike] at behind ⊢
        rw [behind]
      · cases h
    · cases h

theorem foldl_min_le {α : Type} (f : α → Nat) (xs : List α) (n : Nat) :
    xs.foldl (fun n x => min n (f x)) n ≤ n ∧ ∀ x ∈ xs, xs.foldl (fun n x => min n (f x)) n ≤ f x := by
  induction xs generalizing n with
  | nil => simp
  | cons x xs ih =>
    obtain ⟨below, each⟩ := ih (min n (f x))
    refine ⟨by simp only [List.foldl_cons]; omega, fun y hy => ?_⟩
    rcases List.mem_cons.1 hy with rfl | hy
    · simp only [List.foldl_cons]
      omega
    · exact each y hy

/-- What the branches share has the same groups in each, so that it may stand once for all. -/
theorem mem_groups_of_shared {branches : List Node} {a : Node} (h : shared? branches = some a)
    (g : Nat × Option String) : g ∈ a.groups ↔ g ∈ branches.flatMap groups := by
  unfold shared? at h
  split at h
  · cases h
  · rename_i first rest same
    obtain ⟨-, h⟩ := Option.ite_none_right_eq_some.1 h
    obtain rfl := Option.some.inj h
    generalize hn : rest.foldl (fun n b => min n (commonLength first b)) first.length = n
    have shared : ∀ b ∈ first :: rest, atomGroups (b.take n) = atomGroups (first.take n) := by
      intro b hb
      rcases List.mem_cons.1 hb with rfl | hb
      · rfl
      · exact (atomGroups_take (hn ▸ (foldl_min_le _ rest _).2 b hb)).symm
    have original : branches.flatMap groups = (first :: rest).flatMap atomGroups := by
      rw [← same, List.flatMap_map]
      exact List.flatMap_congr fun b _ => (atomGroups_atoms b).symm
    have suffixes : (((first :: rest).map fun b => ofFactors (b.drop n).flatten).flatMap
        Node.branches).flatMap groups = (first :: rest).flatMap fun b => atomGroups (b.drop n) := by
      rw [List.flatMap_assoc, List.flatMap_map]
      exact List.flatMap_congr fun b _ => by rw [flatMap_groups_branches, groups_ofFactors]; rfl
    rw [groups_append, groups_merged_getD, groups_ofFactors, original, suffixes, List.mem_append]
    have parts (b : List (List Node)) : atomGroups b = atomGroups (b.take n) ++ atomGroups (b.drop n) := by
      rw [← atomGroups_append, List.take_append_drop]
    simp only [List.mem_flatMap]
    constructor
    · rintro (front | ⟨b, hb, behind⟩)
      · exact ⟨first, List.mem_cons_self, parts first ▸ List.mem_append_left _ (List.mem_flatMap.2 front)⟩
      · exact ⟨b, hb, parts b ▸ List.mem_append_right _ behind⟩
    · rintro ⟨b, hb, both⟩
      rw [parts, List.mem_append, shared b hb] at both
      exact both.imp List.mem_flatMap.1 fun behind => ⟨b, hb, behind⟩

theorem mem_groups_settled (a : Node) (g : Nat × Option String) :
    g ∈ a.settled.groups ↔ g ∈ a.groups := by
  cases a with
  | alt a b =>
    rw [settled, ← flatMap_groups_branches (alt a b)]
    cases hm : merged? (alt a b).branches with
    | some m =>
      obtain ⟨none, none'⟩ := flatMap_groups_of_merged hm
      show g ∈ m.groups ↔ g ∈ (alt a b).branches.flatMap groups
      rw [none, none']
    | none =>
      cases hs : shared? (alt a b).branches with
      | some m => exact mem_groups_of_shared hs g
      | none => exact iff_of_eq (congrArg (g ∈ ·) (groups_ofBranches _))
  | _ => rfl

/-! ## Repetitions -/

/-- A repetition of no times has no groups; any other one has those of its part. -/
theorem groups_repeated (a : Node) (greedy : Bool) (least : Nat) (most : Option Nat) :
    (a.repeated greedy least most).groups = if least = 0 ∧ most = some 0 then [] else a.groups := by
  unfold repeated
  cases a.takesNothing <;> cases most <;> grind [groups]

end Node

/-! ## Names -/

theorem exists_of_bind {ε α β : Type} {x : Except ε α} {f : α → Except ε β} {b : β}
    (h : (x >>= f) = .ok b) : ∃ a, x = .ok a ∧ f a = .ok b := by
  cases x with
  | error e => cases h
  | ok a => exact ⟨a, rfl, h⟩

/-- The names of the capture groups, but for those in a repetition of no times. -/
def Expr.captures : Expr → List String
  | repetition least most _ a => if least = 0 ∧ most = some 0 then [] else a.captures
  | group (.capture _ name) a => name.toList ++ a.captures
  | group (.plain _) a => a.captures
  | alternation a b | sequence a b => a.captures ++ b.captures
  | _ => []

/-- Whether some group of the node goes by the name. -/
def Node.HasGroup (a : Node) (name : String) : Prop :=
  ∃ i, (i, some name) ∈ a.groups

theorem Node.hasGroup_settled (a : Node) (name : String) : a.settled.HasGroup name ↔ a.HasGroup name :=
  exists_congr fun _ => mem_groups_settled a _

theorem Node.hasGroup_ofSet {s : Unicode.CharSet} {name : String} : ¬ (ofSet s).HasGroup name := by
  rintro ⟨i, h⟩
  rw [groups_ofSet] at h
  cases h

namespace Expr

/-- The groups of a lowered expression go by the names of its captures. -/
theorem mem_captures_iff {e : Expr} {f f' : Flags} {a : Node} (h : e.lower f = .ok (a, f'))
    (name : String) : a.HasGroup name ↔ name ∈ e.captures := by
  induction e generalizing f f' a with
  | empty | flags | assertion =>
    cases h
    simp [Node.HasGroup, Node.groups, captures]
  | literal | dot | property | shorthand =>
    obtain ⟨s, -, h⟩ := exists_of_bind h
    cases h
    simp [Node.hasGroup_ofSet, captures]
  | bracketed =>
    obtain ⟨inner, -, h⟩ := exists_of_bind h
    obtain ⟨s, -, h⟩ := exists_of_bind h
    cases h
    simp [Node.hasGroup_ofSet, captures]
  | repetition least most greedy e ih =>
    obtain ⟨⟨b, after⟩, inner, h⟩ := exists_of_bind h
    cases h
    rw [captures, Node.HasGroup, Node.groups_repeated]
    split
    · simp
    · exact ih inner
  | group kind e ih =>
    cases kind with
    | capture index own =>
      obtain ⟨⟨b, after⟩, inner, h⟩ := exists_of_bind h
      cases h
      have inside := (Node.hasGroup_settled b name).trans (ih inner)
      simp only [captures, List.mem_append, ← inside, Option.mem_toList]
      simp [Node.HasGroup, Node.groups, exists_or, eq_comm]
    | plain items =>
      obtain ⟨⟨b, after⟩, inner, h⟩ := exists_of_bind h
      cases h
      exact (Node.hasGroup_settled b name).trans (ih inner)
  | alternation a b ihA ihB =>
    obtain ⟨⟨a', between⟩, first, h⟩ := exists_of_bind h
    obtain ⟨⟨b', after⟩, second, h⟩ := exists_of_bind h
    cases h
    simp only [captures, List.mem_append, ← ihA first, ← ihB second, Node.HasGroup, Node.groups,
      exists_or]
  | sequence a b ihA ihB =>
    obtain ⟨⟨a', between⟩, first, h⟩ := exists_of_bind h
    obtain ⟨⟨b', after⟩, second, h⟩ := exists_of_bind h
    cases h
    simp only [captures, List.mem_append, ← ihA first, ← ihB second, Node.HasGroup,
      Node.groups_append, exists_or]

end Expr

theorem groupIndex?_isSome_iff (r : Regex) (name : String) :
    (r.groupIndex? name).isSome ↔ r.node.HasGroup name := by
  rw [groupIndex?, Option.isSome_map, List.find?_isSome]
  simp [Node.HasGroup]

end Routing.Regex
