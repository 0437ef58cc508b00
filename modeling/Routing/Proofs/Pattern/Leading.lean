import Routing.Proofs.Pattern.Following
import Routing.Proofs.Regex.Anchored
import Routing.Proofs.Regex.Sharing
import Routing.Request

/-!
# Parsing by pieces

A pattern is parsed by the first way through its node that uses up the path, and the values of the slots are
those of the piece that this way stands for. Ways that repeat earlier ones make no difference.

* `Leads`: the ways through a node are the pieces of a list, up to repetitions
* `Leads.parse`: what parsing finds among the pieces
-/
namespace Routing

open Regex Regex.Reader

namespace Pattern

/-- The ways through a node are the pieces of a list, in the same order, but for ways that repeat earlier ones;
the node captures `count` slots from `slot` on. -/
structure Leads (slot count : Nat) (a : Node) (p : Pieces) : Prop where
  ways : ∀ {path : List Char} {t : Thread} {vs : Values}, Agrees path slot t vs →
    ∃ us, SameFirst (a.ways t) us ∧
      List.Forall₂ (Outcome path (slot + count)) us ((p t.rest).map fun x => (vs ++ x.1, x.2))
  orderly : a.orderly = true
  groups : a.groups = (List.range' slot count).map fun i => (i + 1, some (Token.slotName i))

theorem Follows.leads {slot count room : Nat} {a : Node} {p : Pieces} (h : Follows slot count room a p) :
    Leads slot count a p where
  ways agrees := ⟨_, .refl _, h.ways agrees⟩
  orderly := h.orderly
  groups := h.groups

theorem Leads.append {slot count more room : Nat} {a b : Node} {p q : Pieces} (h : Leads slot count a p)
    (h' : Follows (slot + count) more room b q) :
    Leads slot (count + more) (a.append b) (andThen p q) where
  ways := by
    intro path t vs agrees
    obtain ⟨us, same, outcomes⟩ := h.ways agrees
    refine ⟨us.flatMap b.ways, ?_, ?_⟩
    · rw [Node.ways_append]
      exact same.flatMap b.ways
    · rw [map_andThen]
      refine List.rel_flatMap outcomes fun u x outcome => ?_
      have further := h'.ways outcome.agrees
      rwa [outcome.rest, Nat.add_assoc] at further
  orderly := by rw [Node.orderly_append, h.orderly, h'.orderly]; rfl
  groups := by rw [Node.groups_append, h.groups, h'.groups, ← List.map_append, List.range'_append_1]

/-! ## Matches -/

theorem agrees_start (path : List Char) : Agrees path 0 (.start path) [] where
  inPath := Thread.start_in path
  values := rfl
  bound := by simp [Thread.start]

theorem groups_anchored (a : Node) : a.anchored.groups = a.groups := by
  simp [Node.anchored, Node.groups_append, Node.groups]

theorem foldl_max_range' (slots : Nat) :
    ((List.range' 0 slots).map (· + 1)).foldl max 0 = slots := by
  induction slots with
  | zero => rfl
  | succ n ih =>
    rw [List.range'_concat, List.map_append, List.foldl_append, ih]
    simp

/-- The groups of a plain pattern are those of its slots. -/
theorem find?_slotName {slots i : Nat} (hi : i < slots) :
    ((List.range' 0 slots).map fun i => (i + 1, some (Token.slotName i))).find?
      (·.2 == some (Token.slotName i)) = some (i + 1, some (Token.slotName i)) := by
  rw [List.find?_map]
  have first : (List.range' 0 slots).find? (fun j => some (Token.slotName j) == some (Token.slotName i)) =
      some i := by
    cases found : (List.range' 0 slots).find?
        (fun j => some (Token.slotName j) == some (Token.slotName i)) with
    | none =>
      have := List.find?_eq_none.1 found i (by simpa using hi)
      simp at this
    | some j =>
      have same := List.find?_some found
      simp only [beq_iff_eq, Option.some.injEq] at same
      rw [Token.slotName_inj same]
  simp only [Function.comp_def]
  rw [first]
  rfl

theorem Agrees.ofList_values {slots : Nat} {path : List Char} {t : Thread} {vs : Values}
    (h : Agrees path slots t vs) :
    (List.range slots).map (fun i => boundText? path t (i + 1)) = vs.map (·.map String.ofList) := by
  rw [h.values, List.map_map]
  refine List.map_congr_left fun i _ => ?_
  simp only [Function.comp, valueAt, Option.map_map]
  cases boundText? path t (i + 1) with
  | none => rfl
  | some value => simp

theorem head?_flatMap_ite {α β : Type} (q : α → Bool) (f : α → β) (l : List α) :
    (l.flatMap fun x => if q x then [f x] else []).head? = (l.find? q).map f := by
  induction l with
  | nil => rfl
  | cons x l ih =>
    rw [List.flatMap_cons, List.find?_cons]
    cases q x with
    | true => rfl
    | false => exact ih

/-- What is found first among ways is found first among what they stand for. -/
theorem find?_of_forall₂ {path : List Char} {slots : Nat} {us : List Thread}
    {xs : List (Values × List Char)} (h : List.Forall₂ (Outcome path slots) us xs) :
    Option.Rel (Outcome path slots) (us.find? (·.rest.isEmpty)) (xs.find? (·.2.isEmpty)) := by
  induction h with
  | nil => exact .none
  | @cons u x us xs here _ ih =>
    rw [List.find?_cons, List.find?_cons, here.rest]
    cases x.2.isEmpty with
    | true => exact .some here
    | false => exact ih

namespace Leads

variable {a : Node} {slots : Nat} {p : Pieces}

/-- The slots of a match are its groups. -/
theorem slots_eq (h : Leads 0 slots a p) {c : CompiledPattern} (node : c.regex.node = a.anchored)
    (layout : c.layout = .named) (keys : c.keys.length = slots) (start stop : Nat)
    (group : Nat → Option String) :
    c.slots ⟨start, stop, (List.range slots).map group⟩ = (List.range slots).map group := by
  rw [CompiledPattern.slots, layout, keys]
  refine List.map_congr_left fun i hi => ?_
  have index : c.regex.groupIndex? (Token.slotName i) = some (i + 1) := by
    rw [Regex.groupIndex?, node, groups_anchored, h.groups, find?_slotName (List.mem_range.1 hi)]
    rfl
  rw [index, Option.bind_some, Match.group?, Nat.add_sub_cancel, List.getElem?_map,
    List.getElem?_range (List.mem_range.1 hi), Option.map_some, Option.join_some]

/-- A match starts at the front of the path and binds the group of every slot. -/
theorem find?_anchored (h : Leads 0 slots a p) {r : Regex} (node : r.node = a.anchored) (path : String) :
    r.find? path = ((a.ways (.start path.toList)).find? (·.rest.isEmpty)).map
      fun u => ⟨0, u.index, (List.range slots).map fun i => boundText? path.toList u (i + 1)⟩ := by
  have count : r.groupCount = slots := by
    rw [Regex.groupCount, node, groups_anchored, h.groups, List.map_map]
    exact foldl_max_range' slots
  rw [Regex.find?, node, Node.search_anchored h.orderly, head?_flatMap_ite, Option.map_map, Option.map_map,
    count]
  rfl

/-- Parsing finds the first piece that uses up the path, and gives the slots the values of that. -/
theorem parse (h : Leads 0 slots a p) {c : CompiledPattern} (node : c.regex.node = a.anchored)
    (layout : c.layout = .named) (keys : c.keys.length = slots) (path : String) :
    ((c.parse path).matched = true ↔ ((p path.toList).find? (·.2.isEmpty)).isSome = true) ∧
      ∀ x ∈ (p path.toList).find? (·.2.isEmpty),
        (c.parse path).captures = x.1.map (·.map String.ofList) := by
  obtain ⟨us, same, ways⟩ := h.ways (agrees_start path.toList)
  rw [Nat.zero_add] at ways
  simp only [List.nil_append, List.map_id'] at ways
  have first := find?_of_forall₂ ways
  rw [← same, show (Thread.start path.toList).rest = path.toList from rfl] at first
  rw [CompiledPattern.parse, h.find?_anchored node path]
  revert first
  generalize (a.ways _).find? _ = way?, (p path.toList).find? _ = piece?
  intro first
  cases first with
  | none => simp
  | @some u x outcome =>
    simp only [Option.map_some, Option.isSome_some, Option.mem_def, Option.some.injEq, forall_eq']
    rw [h.slots_eq node layout keys, outcome.agrees.ofList_values]
    exact ⟨trivial, rfl⟩

end Leads

end Pattern

end Routing
