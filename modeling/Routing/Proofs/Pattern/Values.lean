import Mathlib.Data.List.Forall2
import Routing.Proofs.Pattern.Cuts
import Routing.Proofs.Regex.Ways
import Routing.Regex

/-!
# Places and values

A way through the expression of a pattern stands at a place in the path and has bound the groups of the
slots so far.

* `Agrees`: a place in the path and the values of the slots
* `Outcome`: a way, and the rest and the values of a cut
* `forall₂_ways_onceOrMore`, `forall₂_ways_anyNumber`: the ways through a loop take what may be taken,
  in the order in which it is preferred
-/
namespace Routing

open Regex Unicode

namespace Pattern

/-! ## Places and values -/

/-- What a slot was given on the way to a place in the path. -/
def valueAt (path : List Char) (t : Thread) (slot : Nat) : Option (List Char) :=
  (boundText? path t (slot + 1)).map String.toList

/-- The thread stands in the path, and the slots up to `slot` have these values. -/
structure Agrees (path : List Char) (slot : Nat) (t : Thread) (vs : Values) : Prop where
  inPath : t.In path
  values : vs = (List.range slot).map (valueAt path t)
  bound : ∀ b ∈ t.bindings, b.1 ≤ slot

/-- A way that leaves the rest of a cut, with its values. -/
structure Outcome (path : List Char) (slot : Nat) (t : Thread) (cut : Values × List Char) :
    Prop where
  agrees : Agrees path slot t cut.1
  rest : t.rest = cut.2

/-- A way that takes some characters and binds nothing. -/
structure Took (path : List Char) (t u : Thread) (taken : List Char × List Char) : Prop where
  inPath : u.In path
  front : t.rest = taken.1 ++ taken.2
  rest : u.rest = taken.2
  bindings : u.bindings = t.bindings

section

variable {path : List Char} {slot : Nat} {t u : Thread} {vs : Values}

theorem valueAt_congr (h : u.bindings = t.bindings) (i : Nat) :
    valueAt path u i = valueAt path t i := by
  rw [valueAt, valueAt, boundText?, boundText?, h]

theorem Agrees.of_bindings (h : Agrees path slot t vs) (hu : u.In path)
    (same : u.bindings = t.bindings) : Agrees path slot u vs where
  inPath := hu
  values := by
    rw [h.values]
    exact List.map_congr_left fun i _ => (valueAt_congr same i).symm
  bound := by
    rw [same]
    exact h.bound

/-- A slot whose group was not bound has no value. -/
theorem Agrees.leaveOut (h : Agrees path slot t vs) : Agrees path (slot + 1) t (vs ++ [none]) where
  inPath := h.inPath
  values := by
    have unbound : valueAt path t slot = none := by
      have absent : t.bindings.find? (·.1 == slot + 1) = none := by
        refine List.find?_eq_none.2 fun b hb same => ?_
        have le := h.bound b hb
        have eq := beq_iff_eq.1 same
        omega
      rw [valueAt, boundText?, absent]
      rfl
    rw [h.values, List.range_succ, List.map_append, List.map_singleton, unbound]
  bound b hb := Nat.le_succ_of_le (h.bound b hb)

theorem Agrees.leaveOutAll (h : Agrees path slot t vs) (count : Nat) :
    Agrees path (slot + count) t (vs ++ List.replicate count none) := by
  induction count with
  | zero => simpa using h
  | succ count ih =>
    rw [List.replicate_succ', ← List.append_assoc]
    exact ih.leaveOut

/-- Binding the group of a slot around those of the next ones gives the slot what is left between the places. -/
theorem Agrees.bindAround (h : Agrees path slot t vs) {count : Nat} {ws : Values}
    (inner : Agrees path (slot + 1 + count) u (vs ++ none :: ws)) :
    Agrees path (slot + 1 + count) (u.bind (slot + 1) t.index)
      (vs ++ some (t.rest.take (t.rest.length - u.rest.length)) :: ws) where
  inPath := inner.inPath
  values := by
    have others (i : Nat) (hi : i ≠ slot) : valueAt path (u.bind (slot + 1) t.index) i = valueAt path u i := by
      have skip : (u.bind (slot + 1) t.index).bindings.find? (·.1 == i + 1) =
          u.bindings.find? (·.1 == i + 1) := List.find?_cons_of_neg (by simpa using hi.symm)
      rw [valueAt, valueAt, boundText?, boundText?, skip]
    have here : valueAt path (u.bind (slot + 1) t.index) slot =
        some (t.rest.take (t.rest.length - u.rest.length)) := by
      have place : path.drop t.index = t.rest := by
        obtain ⟨passed, same, hi, -⟩ := h.inPath
        rw [same, hi, List.drop_left]
      have before := h.inPath.index_add
      have after := inner.inPath.index_add
      have length : u.index - t.index = t.rest.length - u.rest.length := by omega
      simp [valueAt, boundText?, Thread.bind, place, length]
    have size : vs.length = slot := by rw [h.values, List.length_map, List.length_range]
    -- the value of the slot is put in the place of none
    have put : vs ++ some (t.rest.take (t.rest.length - u.rest.length)) :: ws =
        (vs ++ none :: ws).set slot (some (t.rest.take (t.rest.length - u.rest.length))) := by
      rw [List.set_append_right _ _ (Nat.le_of_eq size), size, Nat.sub_self, List.set_cons_zero]
    rw [put, inner.values]
    refine List.ext_getElem (by simp) fun i _ _ => ?_
    simp only [List.getElem_set, List.getElem_map, List.getElem_range]
    split
    · next same => rw [← same, here]
    · next other => exact (others i (Ne.symm other)).symm
  bound b hb := by
    rcases List.mem_cons.1 hb with rfl | hb
    · exact Nat.le_add_right _ _
    · exact inner.bound b hb

/-- Binding the group of the next slot gives the slot what was taken. -/
theorem Agrees.bind (h : Agrees path slot t vs) {v rest : List Char}
    (took : Took path t u (v, rest)) :
    Agrees path (slot + 1) (u.bind (slot + 1) t.index) (vs ++ [some v]) := by
  have noValue : Agrees path (slot + 1 + 0) u (vs ++ none :: []) :=
    (h.of_bindings took.inPath took.bindings).leaveOut
  have around := h.bindAround noValue
  have left : u.rest = rest := took.rest
  have front : t.rest = v ++ rest := took.front
  simpa [left, front] using around

end

/-! ## Loops -/

theorem Took.refl {path : List Char} {t : Thread} (ht : t.In path) : Took path t t ([], t.rest) :=
  ⟨ht, rfl, rfl, rfl⟩

/-- A list that is read from its end where it is greedy. -/
def inOrder {α : Type} (greedy : Bool) (l : List α) : List α :=
  if greedy then l.reverse else l

theorem inOrder_map {α β : Type} (greedy : Bool) (f : α → β) (l : List α) :
    inOrder greedy (l.map f) = (inOrder greedy l).map f := by
  cases greedy <;> simp [inOrder]

theorem inOrder_cons {α : Type} (greedy : Bool) (x : α) (l : List α) :
    inOrder greedy (x :: l) = prefer greedy (inOrder greedy l) [x] := by
  cases greedy <;> simp [inOrder, prefer]

theorem takes_eq_cons (allowed : Char → Bool) (cs : List Char) :
    takes allowed cs = ([], cs) :: takesSome allowed cs := by
  cases cs <;> rfl

theorem forall₂_prefer {α β : Type} {R : α → β → Prop} {as more : List α} {bs further : List β}
    (greedy : Bool) (h : List.Forall₂ R as bs) (h' : List.Forall₂ R more further) :
    List.Forall₂ R (prefer greedy as more) (prefer greedy bs further) := by
  cases greedy
  · exact List.rel_append h' h
  · exact List.rel_append h h'

section

variable {path : List Char} {s : CharSet} {t : Thread}

theorem Took.cons {u w : Thread} {c : Char} {taken : List Char × List Char}
    (hr : t.rest = c :: u.rest) (same : u.bindings = t.bindings) (took : Took path u w taken) :
    Took path t w (c :: taken.1, taken.2) where
  inPath := took.inPath
  front := by rw [hr, List.cons_append, ← took.front]
  rest := took.rest
  bindings := took.bindings.trans same

/-- One character of a set, and what comes after it. -/
theorem forall₂_afterRound {greedy : Bool} {further : Thread → List Thread} (ht : t.In path)
    (later : ∀ u, u.In path → u.rest.length < t.rest.length →
      List.Forall₂ (Took path u) (further u) (inOrder greedy (takes s.contains u.rest))) :
    List.Forall₂ (Took path t) (((Node.set s).ways t).flatMap further)
      (inOrder greedy (takesSome s.contains t.rest)) := by
  rw [Node.ways]
  cases hs : t.step s with
  | none =>
    have stuck : takesSome s.contains t.rest = [] := by
      cases hr : t.rest with
      | nil => rfl
      | cons c rest =>
        have closed := Thread.not_contains_of_step_eq_none hs hr
        simp [takesSome, takes, closed]
    rw [stuck]
    cases greedy <;> exact .nil
  | some u =>
    have hu := ht.step hs
    have shorter := Thread.step_index hs
    have before := ht.index_add
    have after := hu.index_add
    obtain ⟨c, hr, member, same⟩ := Thread.step_eq_some hs
    have front : takesSome s.contains t.rest =
        (takes s.contains u.rest).map fun x => (c :: x.1, x.2) := by
      rw [hr, takesSome, takes, List.tail_cons, if_pos member]
    rw [front, inOrder_map, List.forall₂_map_right_iff, Option.toList_some, List.flatMap_singleton]
    exact (later u hu (by omega)).imp fun w taken => Took.cons hr same

/-- The rounds of a loop over one set take what may be taken, the fewest first where it is lazy. -/
theorem forall₂_roundsUpTo (greedy : Bool) (n : Nat) (ht : t.In path) (enough : t.rest.length ≤ n) :
    List.Forall₂ (Took path t) (roundsUpTo (Node.set s).ways greedy n t)
      (inOrder greedy (takes s.contains t.rest)) := by
  induction n generalizing t with
  | zero =>
    have hr : t.rest = [] := List.eq_nil_of_length_eq_zero (Nat.le_zero.1 enough)
    rw [roundsUpTo, hr]
    cases greedy <;> exact .cons (hr ▸ Took.refl ht) .nil
  | succ n ih =>
    rw [roundsUpTo, takes_eq_cons, inOrder_cons]
    refine forall₂_prefer greedy ?_ (.cons (Took.refl ht) .nil)
    exact forall₂_afterRound ht fun u hu shorter => ih hu (by omega)

/-- A loop over a set, once or more often. -/
theorem forall₂_ways_onceOrMore (greedy : Bool) (ht : t.In path) :
    List.Forall₂ (Took path t) ((Node.rep 1 none greedy (.set s)).ways t)
      (inOrder greedy (takesSome s.contains t.rest)) := by
  have ways : (Node.rep 1 none greedy (.set s)).ways t =
      ((Node.set s).ways t).flatMap fun u => roundsUpTo (Node.set s).ways greedy (u.size + 1) u := by
    simp only [Node.ways, roundsExactly, List.flatMap_assoc, List.flatMap_singleton, Option.elim_none]
  rw [ways]
  refine forall₂_afterRound ht fun u hu _ => forall₂_roundsUpTo greedy _ hu ?_
  simp only [Thread.size]
  omega

theorem forall₂_ways_anyNumber (greedy : Bool) (ht : t.In path) :
    List.Forall₂ (Took path t) ((Node.rep 0 none greedy (.set s)).ways t)
      (inOrder greedy (takes s.contains t.rest)) := by
  have ways : (Node.rep 0 none greedy (.set s)).ways t =
      roundsUpTo (Node.set s).ways greedy (t.size + 1) t := by
    simp only [Node.ways, roundsExactly, List.flatMap_singleton, Option.elim_none]
  rw [ways]
  refine forall₂_roundsUpTo greedy _ ht ?_
  simp only [Thread.size]
  omega

end

end Pattern

end Routing
