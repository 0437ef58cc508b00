import Mathlib.Logic.Relation

/-!
# Loops that go forward

A loop goes from one state to the next, round by round, until it is left. Whatever a round reads or takes away is
checked, so a round can go wrong; and a loop gets so many rounds and no more.

* `Checked`, `loop`: what goes wrong is a fault, and so is a loop that is still going after its rounds
* `Reaches`: the states that a loop comes to
* `Progresses`: a loop that never goes wrong, goes forward in every round and is left in the end
* `Forward`: what is to be shown of one round
* `Forward.progresses`, `Forward.exists_loop`: what follows for the loop, and for what it is left with
-/
namespace Routing

/-- What can go wrong. -/
inductive Fault where
  /-- There is no such place. -/
  | place (i : Nat)
  /-- The part that is cut out goes backwards, or beyond the end. -/
  | part (first last : Nat)
  /-- More is taken away than there is. -/
  | shortage
  /-- A loop has not been left within its rounds. -/
  | rounds
  deriving DecidableEq, Repr

abbrev Checked (α : Type) := Except Fault α

@[simp]
theorem Checked.ok_bind {α β : Type} (a : α) (f : α → Checked β) : (Except.ok a : Checked α) >>= f = f a :=
  rfl

/-- What comes after a round: the loop goes on from another state, or it is left with a result. -/
inductive Onward (σ α : Type) where
  | again (s : σ)
  | leave (a : α)

variable {σ α : Type} {s t : σ} {place : σ → Nat} {bound : Nat} {round : σ → Checked (Onward σ α)}

/-- A loop that is given so many rounds. -/
def loop (round : σ → Checked (Onward σ α)) : (limit : Nat) → σ → Checked α
  | 0, _ => .error .rounds
  | limit + 1, s =>
    match round s with
    | .error fault => .error fault
    | .ok (.leave a) => .ok a
    | .ok (.again t) => loop round limit t

/-- The states that a loop comes to. -/
def Reaches (round : σ → Checked (Onward σ α)) : σ → σ → Prop :=
  Relation.ReflTransGen fun s t => round s = .ok (.again t)

/-- From `s` on no round goes wrong, each goes forward to a place that is not beyond the bound, and the loop is left
if it has a round for each of these places and one more. -/
structure Progresses (place : σ → Nat) (bound : Nat) (round : σ → Checked (Onward σ α)) (s : σ) : Prop where
  sound : ∀ t, Reaches round s t → ∃ r, round t = .ok r
  advances : ∀ t u, Reaches round s t → round t = .ok (.again u) → place t < place u ∧ place u ≤ bound
  ends : ∃ a, ∀ limit, bound - place s < limit → loop round limit s = .ok a

/-- A round from a state of the invariant either ends the loop, or it leads forward to such a state; and what is known
of the result there is known of it here. -/
def Forward (inv : σ → Prop) (place : σ → Nat) (bound : Nat) (known : σ → α → Prop)
    (round : σ → Checked (Onward σ α)) : Prop :=
  ∀ s, inv s → (∃ a, round s = .ok (.leave a) ∧ known s a) ∨
    ∃ t, round s = .ok (.again t) ∧ inv t ∧ place s < place t ∧ place t ≤ bound ∧ ∀ a, known t a → known s a

theorem loop_succ_of_leave {a : α} (last : round s = .ok (.leave a)) (limit : Nat) :
    loop round (limit + 1) s = .ok a := by
  rw [loop, last]

theorem loop_succ_of_again (first : round s = .ok (.again t)) (limit : Nat) :
    loop round (limit + 1) s = loop round limit t := by
  rw [loop, first]

/-- One round in front of a loop that goes forward. -/
theorem Progresses.of_again (first : round s = .ok (.again t)) (ahead : place s < place t) (inside : place t ≤ bound)
    (later : Progresses place bound round t) : Progresses place bound round s where
  sound u reached := by
    rcases reached.cases_head with rfl | ⟨v, taken, reached⟩
    · exact ⟨_, first⟩
    · cases first.symm.trans taken
      exact later.sound u reached
  advances u v reached next := by
    rcases reached.cases_head with rfl | ⟨w, taken, reached⟩
    · cases first.symm.trans next
      exact ⟨ahead, inside⟩
    · cases first.symm.trans taken
      exact later.advances u v reached next
  ends := by
    obtain ⟨a, left⟩ := later.ends
    refine ⟨a, fun limit enough => ?_⟩
    obtain ⟨limit, rfl⟩ := Nat.exists_eq_succ_of_ne_zero (Nat.ne_zero_of_lt enough)
    rw [loop_succ_of_again first]
    exact left limit (by omega)

namespace Forward

variable {inv : σ → Prop} {known : σ → α → Prop}

/-- The loop is left, and what is known of its result from the start holds of it. -/
theorem exists_loop (forward : Forward inv place bound known round) (holds : inv s) :
    ∃ a, known s a ∧ ∀ limit, bound - place s < limit → loop round limit s = .ok a := by
  induction left : bound - place s using Nat.strongRecOn generalizing s with
  | ind n ih =>
    rcases forward s holds with ⟨a, last, result⟩ | ⟨t, first, holds', ahead, inside, back⟩
    · refine ⟨a, result, fun limit enough => ?_⟩
      obtain ⟨limit, rfl⟩ := Nat.exists_eq_succ_of_ne_zero (Nat.ne_zero_of_lt enough)
      exact loop_succ_of_leave last limit
    · obtain ⟨a, result, ends⟩ := ih (bound - place t) (by omega) holds' rfl
      refine ⟨a, back a result, fun limit enough => ?_⟩
      obtain ⟨limit, rfl⟩ := Nat.exists_eq_succ_of_ne_zero (Nat.ne_zero_of_lt enough)
      rw [loop_succ_of_again first]
      exact ends limit (by omega)

theorem invariant (forward : Forward inv place bound known round) (holds : inv s) (reached : Reaches round s t) :
    inv t := by
  induction reached with
  | refl => exact holds
  | tail _ next ih =>
    rcases forward _ ih with ⟨a, last, -⟩ | ⟨u, first, holds', -⟩
    · cases last.symm.trans next
    · cases first.symm.trans next
      exact holds'

theorem progresses (forward : Forward inv place bound known round) (holds : inv s) :
    Progresses place bound round s where
  sound t reached := by
    rcases forward t (forward.invariant holds reached) with ⟨a, last, -⟩ | ⟨u, first, -⟩
    · exact ⟨_, last⟩
    · exact ⟨_, first⟩
  advances t u reached next := by
    rcases forward t (forward.invariant holds reached) with ⟨a, last, -⟩ | ⟨v, first, -, ahead, inside, -⟩
    · cases last.symm.trans next
    · cases first.symm.trans next
      exact ⟨ahead, inside⟩
  ends := by
    obtain ⟨a, -, ends⟩ := forward.exists_loop holds
    exact ⟨a, ends⟩

end Forward

end Routing
