import Mathlib.Data.List.Basic
import Routing.Proofs.Regex.Place
import Routing.Regex.Rounds

/-!
# The ways through an expression

All ways in which an expression may be followed from a place, the preferred one first. The list says
what a match means without any regard to how one is found.

* `Node.ways`: the ways through a node
* `Node.ways_in`: ways stay in the text
* `Node.length_le_of_mem_ways`: each way takes at least the least length of its node
* `Node.ways_append`: one node after the other
-/
namespace Routing.Regex

open Routing.Unicode

/-- The number of characters in the text that the thread stands in. -/
def Thread.size (t : Thread) : Nat :=
  t.index + t.rest.length

theorem Thread.In.size_eq {text : List Char} {t : Thread} (h : t.In text) :
    t.size = text.length :=
  h.index_add

/-! ## Rounds -/

/-- So many rounds. -/
def roundsExactly (round : Thread → List Thread) : Nat → Thread → List Thread
  | 0, t => [t]
  | n + 1, t => (round t).flatMap (roundsExactly round n)

/-- No more than `n` rounds; whether to go on or to stop is the question before each. -/
def roundsUpTo (round : Thread → List Thread) (greedy : Bool) : Nat → Thread → List Thread
  | 0, t => [t]
  | n + 1, t => prefer greedy ((round t).flatMap (roundsUpTo round greedy n)) [t]

theorem mem_prefer {α : Type} {greedy : Bool} {more done : List α} {x : α} :
    x ∈ prefer greedy more done ↔ x ∈ more ∨ x ∈ done := by
  cases greedy
  · simp [prefer, or_comm]
  · simp [prefer]

section

variable {round : Thread → List Thread}

/-- What every round keeps, and what holds where it starts, holds after so many rounds. -/
theorem roundsExactly_induction {R : Thread → Thread → Prop} (refl : ∀ t, R t t)
    (trans : ∀ t u v, u ∈ round t → R u v → R t v) {n : Nat} {t v : Thread}
    (h : v ∈ roundsExactly round n t) : R t v := by
  induction n generalizing t with
  | zero =>
    rw [List.mem_singleton.1 h]
    exact refl t
  | succ n ih =>
    obtain ⟨u, hu, hv⟩ := List.mem_flatMap.1 h
    exact trans t u v hu (ih hv)

theorem roundsUpTo_induction {R : Thread → Thread → Prop} (refl : ∀ t, R t t)
    (trans : ∀ t u v, u ∈ round t → R u v → R t v) {greedy : Bool} {n : Nat} {t v : Thread}
    (h : v ∈ roundsUpTo round greedy n t) : R t v := by
  induction n generalizing t with
  | zero =>
    rw [List.mem_singleton.1 h]
    exact refl t
  | succ n ih =>
    rcases mem_prefer.1 h with h | h
    · obtain ⟨u, hu, hv⟩ := List.mem_flatMap.1 h
      exact trans t u v hu (ih hv)
    · rw [List.mem_singleton.1 h]
      exact refl t

theorem roundsUpTo_of_nil {t : Thread} (h : round t = []) (greedy : Bool) (n : Nat) :
    roundsUpTo round greedy n t = [t] := by
  cases n with
  | zero => rfl
  | succ n => cases greedy <;> simp [roundsUpTo, h, prefer]

/-- Rounds that take a character each are no more than there are characters left, so that a higher
limit adds nothing. -/
theorem roundsUpTo_eq_of_le (takes : ∀ t, ∀ u ∈ round t, u.rest.length < t.rest.length)
    (greedy : Bool) {n m : Nat} {t : Thread} (hn : t.rest.length ≤ n) (hm : t.rest.length ≤ m) :
    roundsUpTo round greedy n t = roundsUpTo round greedy m t := by
  have stuck {t : Thread} (h : t.rest.length ≤ 0) : round t = [] :=
    List.eq_nil_iff_forall_not_mem.2 fun u hu => by
      have := takes t u hu
      omega
  induction n generalizing m t with
  | zero => rw [roundsUpTo_of_nil (stuck hn), roundsUpTo_of_nil (stuck hn)]
  | succ n ih =>
    cases m with
    | zero => rw [roundsUpTo_of_nil (stuck hm), roundsUpTo_of_nil (stuck hm)]
    | succ m =>
      have same : (round t).flatMap (roundsUpTo round greedy n) =
          (round t).flatMap (roundsUpTo round greedy m) := by
        apply List.flatMap_congr
        intro u hu
        have := takes t u hu
        exact ih (by omega) (by omega)
      simp only [roundsUpTo, same]

end

/-! ## Nodes -/

namespace Node

/-- The ways through a node, the preferred one first. A loop without a limit goes round at most once
for every place of the text. -/
def ways : Node → Thread → List Thread
  | empty, t => [t]
  | set s, t => (t.step s).toList
  | look l, t => if t.satisfies l then [t] else []
  | seq a b, t => (a.ways t).flatMap b.ways
  | alt a b, t => a.ways t ++ b.ways t
  | group i _ a, t => (a.ways t).map (·.bind i t.index)
  | rep least most greedy a, t =>
    (roundsExactly a.ways least t).flatMap fun u =>
      roundsUpTo a.ways greedy (most.elim (u.size + 1) (· - least)) u

/-- Every round of a loop without a limit takes a character. -/
def orderly : Node → Bool
  | empty | set _ | look _ => true
  | seq a b | alt a b => a.orderly && b.orderly
  | group _ _ a => a.orderly
  | rep _ most _ a => (most.isSome || !a.mayTakeNothing) && a.orderly

/-- What holds from every thread to itself, over every step and every binding, and from end to end,
holds along every way. -/
theorem ways_induction {R : Thread → Thread → Prop} (refl : ∀ t, R t t)
    (trans : ∀ t u v, R t u → R u v → R t v) (step : ∀ s t u, t.step s = some u → R t u)
    (bind : ∀ t u group start, R t u → R t (u.bind group start)) {a : Node} {t u : Thread}
    (h : u ∈ a.ways t) : R t u := by
  induction a generalizing t u with
  | empty =>
    rw [List.mem_singleton.1 h]
    exact refl t
  | set s => exact step s t u (Option.mem_toList.1 h)
  | look l =>
    simp only [ways] at h
    split at h
    · rw [List.mem_singleton.1 h]
      exact refl t
    · cases h
  | seq a b iha ihb =>
    obtain ⟨v, hv, hu⟩ := List.mem_flatMap.1 h
    exact trans t v u (iha hv) (ihb hu)
  | alt a b iha ihb => exact (List.mem_append.1 h).elim iha ihb
  | group i name a ih =>
    obtain ⟨v, hv, rfl⟩ := List.mem_map.1 h
    exact bind t v i t.index (ih hv)
  | rep least most greedy a ih =>
    obtain ⟨v, hv, hu⟩ := List.mem_flatMap.1 h
    have round (t u v : Thread) (hu : u ∈ a.ways t) (h : R u v) : R t v := trans t u v (ih hu) h
    exact trans t v u (roundsExactly_induction refl round hv) (roundsUpTo_induction refl round hu)

theorem ways_in {text : List Char} {a : Node} {t u : Thread} (h : u ∈ a.ways t)
    (ht : t.In text) : u.In text :=
  ways_induction (R := fun t u => t.In text → u.In text) (fun _ => id)
    (fun _ _ _ h h' ht => h' (h ht)) (fun _ _ _ h ht => ht.step h)
    (fun _ _ group start h ht => (h ht).bind group start) h ht

theorem size_of_mem_ways {a : Node} {t u : Thread} (h : u ∈ a.ways t) : u.size = t.size := by
  refine ways_induction (R := fun t u => u.size = t.size) (fun _ => rfl)
    (fun _ _ _ h h' => h'.trans h) (fun s t u h => ?_) (fun _ _ _ _ h => h) h
  unfold Thread.step at h
  split at h
  · cases h
  · rename_i c rest hr
    split at h
    · cases h
      simp only [Thread.size, hr, List.length_cons]
      omega
    · cases h

theorem index_le_of_mem_ways {a : Node} {t u : Thread} (h : u ∈ a.ways t) :
    t.index ≤ u.index :=
  ways_induction (R := fun t u => t.index ≤ u.index) (fun _ => Nat.le_refl _)
    (fun _ _ _ => Nat.le_trans) (fun _ _ _ h => Thread.step_index h ▸ Nat.le_succ _)
    (fun _ _ _ _ h => h) h

theorem length_le_of_mem_roundsExactly {a : Node} {k : Nat}
    (round : ∀ t, ∀ u ∈ a.ways t, t.index + k ≤ u.index) {n : Nat} {t u : Thread}
    (h : u ∈ roundsExactly a.ways n t) : t.index + n * k ≤ u.index := by
  induction n generalizing t with
  | zero =>
    rw [List.mem_singleton.1 h]
    omega
  | succ n ih =>
    obtain ⟨v, hv, hu⟩ := List.mem_flatMap.1 h
    have first := round t v hv
    have later := ih hu
    rw [Nat.succ_mul]
    omega

theorem length_le_of_mem_ways {a : Node} {k : Nat} (hk : a.minLength? = some k) {t u : Thread}
    (h : u ∈ a.ways t) : t.index + k ≤ u.index := by
  induction a generalizing k t u with
  | empty | look =>
    cases hk
    exact index_le_of_mem_ways h
  | set s =>
    have here := Thread.step_index (Option.mem_toList.1 h)
    cases s <;> cases hk <;> omega
  | seq a b iha ihb =>
    obtain ⟨m, hm, n, hn, rfl⟩ : ∃ m, a.minLength? = some m ∧ ∃ n, b.minLength? = some n ∧ m + n = k := by
      simpa [minLength?, Option.bind_eq_some_iff] using hk
    obtain ⟨v, hv, hu⟩ := List.mem_flatMap.1 h
    have first := iha hm hv
    have second := ihb hn hu
    omega
  | alt a b iha ihb =>
    obtain ⟨m, hm, n, hn, rfl⟩ :
        ∃ m, a.minLength? = some m ∧ ∃ n, b.minLength? = some n ∧ min m n = k := by
      simpa [minLength?, Option.bind_eq_some_iff] using hk
    rcases List.mem_append.1 h with h | h
    · have := iha hm h
      omega
    · have := ihb hn h
      omega
  | group i name a ih =>
    obtain ⟨v, hv, rfl⟩ := List.mem_map.1 h
    exact ih (t := t) (u := v) hk hv
  | rep least most greedy a ih =>
    obtain ⟨m, hm, rfl⟩ := Option.map_eq_some_iff.1 hk
    obtain ⟨v, hv, hu⟩ := List.mem_flatMap.1 h
    have required := length_le_of_mem_roundsExactly (fun t u hu => ih hm hu) hv
    have further := roundsUpTo_induction (R := fun t u => t.index ≤ u.index)
      (fun _ => Nat.le_refl _) (fun _ _ _ h => Nat.le_trans (index_le_of_mem_ways h)) hu
    omega

/-- A round of a node that cannot take nothing leaves less of the text. -/
theorem rest_lt_of_mem_ways {a : Node} (ha : a.mayTakeNothing = false) {t u : Thread}
    (h : u ∈ a.ways t) : u.rest.length < t.rest.length := by
  obtain ⟨k, hk, pos⟩ : ∃ k, a.minLength? = some k ∧ k ≠ 0 := by
    cases hk : a.minLength? with
    | none => simp [mayTakeNothing, hk] at ha
    | some k => exact ⟨k, rfl, by simpa [mayTakeNothing, hk] using ha⟩
  have longer := length_le_of_mem_ways hk h
  have same := size_of_mem_ways h
  simp only [Thread.size] at same
  omega

/-! ## Sequences -/

theorem ways_append (a b : Node) (t : Thread) :
    (a.append b).ways t = (a.ways t).flatMap b.ways := by
  fun_induction append a b generalizing t with
  | case1 a => simp [ways]
  | case2 a b c ih =>
    simp only [ways]
    rw [ih, List.flatMap_assoc]
  | case3 b => simp [ways]
  | case4 => rfl

theorem orderly_append (a b : Node) : (a.append b).orderly = (a.orderly && b.orderly) := by
  fun_induction append a b with
  | case1 a => simp [orderly]
  | case2 a b c ih => simp only [orderly, ih, Bool.and_assoc]
  | case3 b => simp [orderly]
  | case4 => rfl

theorem groups_append (a b : Node) : (a.append b).groups = a.groups ++ b.groups := by
  fun_induction append a b with
  | case1 a => simp [groups]
  | case2 a b c ih => simp only [groups, ih, List.append_assoc]
  | case3 b => simp [groups]
  | case4 => rfl

theorem takesNothing_append (a b : Node) :
    (a.append b).takesNothing = (a.takesNothing && b.takesNothing) := by
  fun_induction append a b with
  | case1 a => simp [takesNothing]
  | case2 a b c ih => simp only [takesNothing, ih, Bool.and_assoc]
  | case3 b => simp [takesNothing]
  | case4 => rfl

/-- A node that is no alternation is settled as it stands. -/
def isAlt : Node → Bool
  | alt .. => true
  | _ => false

theorem settled_of_not_alt {a : Node} (h : a.isAlt = false) : a.settled = a := by
  cases a <;> first | rfl | cases h

theorem isAlt_append {a b : Node} (ha : a.isAlt = false) (hb : b.isAlt = false) :
    (a.append b).isAlt = false := by
  fun_cases append a b with
  | case1 a => exact ha
  | case2 a b c => rfl
  | case3 b => exact hb
  | case4 => rfl

end Node

end Routing.Regex
