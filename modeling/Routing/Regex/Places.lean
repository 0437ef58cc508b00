/-!
# Sets of places

The places of a text are numbered from zero. A set of places is kept as the number that has a one at
each member, so that the operations work on many places at once.

* `Places.contains_insert`, `Places.contains_union`, `Places.contains_inter`, `Places.contains_pred`:
  what the operations do to members
* `Places.iterate_of_eq`: a step that changes nothing need not be repeated
* `Places.firsts`: the members of a list that are the first at their place
-/
namespace Routing.Regex

structure Places where
  bits : Nat
  deriving DecidableEq, Repr

namespace Places

def empty : Places := ⟨0⟩

def contains (s : Places) (i : Nat) : Bool :=
  s.bits.testBit i

def insert (s : Places) (i : Nat) : Places :=
  ⟨s.bits ||| 1 <<< i⟩

def union (s t : Places) : Places :=
  ⟨s.bits ||| t.bits⟩

def inter (s t : Places) : Places :=
  ⟨s.bits &&& t.bits⟩

/-- The places from zero to `n`. -/
def upTo (n : Nat) : Places :=
  ⟨Nat.pow 2 (n + 1) - 1⟩

/-- The places right before a member. -/
def pred (s : Places) : Places :=
  ⟨s.bits >>> 1⟩

@[simp]
theorem contains_empty (i : Nat) : empty.contains i = false := by
  simp [empty, contains]

@[simp]
theorem contains_insert (s : Places) (i j : Nat) :
    (s.insert i).contains j = (s.contains j || i == j) := by
  simp only [contains, insert, Nat.testBit_or, Nat.one_shiftLeft, Nat.testBit_two_pow]
  congr 1

@[simp]
theorem contains_union (s t : Places) (i : Nat) :
    (s.union t).contains i = (s.contains i || t.contains i) :=
  Nat.testBit_or ..

@[simp]
theorem contains_inter (s t : Places) (i : Nat) :
    (s.inter t).contains i = (s.contains i && t.contains i) :=
  Nat.testBit_and ..

@[simp]
theorem contains_upTo (n i : Nat) : (upTo n).contains i = decide (i ≤ n) :=
  (Nat.testBit_two_pow_sub_one (n + 1) i).trans (decide_eq_decide.2 Nat.lt_succ_iff)

@[simp]
theorem contains_pred (s : Places) (i : Nat) : s.pred.contains i = s.contains (i + 1) := by
  simp [pred, contains, Nat.testBit_shiftRight, Nat.add_comm]

/-! ## Repeated steps -/

/-- The outcome of `n` steps, the first of which starts from `s`. A step that changes nothing is the
last. -/
def iterate (step : Places → Places) : (n : Nat) → (s : Places) → Places
  | 0, s => s
  | n + 1, s =>
    let next := step s
    if next = s then s else iterate step n next

theorem iterate_of_eq {step : Places → Places} {s : Places} (h : step s = s) (n : Nat) :
    iterate step n s = s := by
  cases n <;> simp [iterate, h]

theorem iterate_succ (step : Places → Places) (n : Nat) (s : Places) :
    iterate step (n + 1) s = iterate step n (step s) := by
  simp only [iterate]
  split
  next h => rw [h, iterate_of_eq h]
  next => rfl

/-- What `n` steps go through, the outcome left out, in the opposite order. -/
def history (step : Places → Places) (n : Nat) (s : Places) : List Places :=
  go n s []
where
  go : Nat → Places → List Places → List Places
    | 0, _, before => before
    | n + 1, s, before => go n (step s) (s :: before)

/-! ## Lists -/

/-- The members of a list at a place that is not in the set, the first at each place. -/
def firsts {α : Type} (place : α → Nat) (seen : Places) : List α → List α
  | [] => []
  | x :: xs =>
    if seen.contains (place x) then firsts place seen xs
    else x :: firsts place (seen.insert (place x)) xs

/-- Every place that the list has, and the set has not, keeps a member. -/
theorem exists_mem_firsts {α : Type} (place : α → Nat) (seen : Places) (xs : List α) {x : α}
    (hx : x ∈ xs) (hs : seen.contains (place x) = false) :
    ∃ y ∈ firsts place seen xs, place y = place x := by
  induction xs generalizing seen with
  | nil => cases hx
  | cons a as ih =>
    simp only [firsts]
    split
    · rename_i ha
      rcases List.mem_cons.mp hx with rfl | hx
      · simp [hs] at ha
      · exact ih seen hx hs
    · by_cases hp : place a = place x
      · exact ⟨a, List.mem_cons_self, hp⟩
      · rcases List.mem_cons.mp hx with rfl | hx
        · exact absurd rfl hp
        · obtain ⟨y, hy, hyx⟩ := ih (seen.insert (place a)) hx (by simp [hs, hp])
          exact ⟨y, List.mem_cons_of_mem _ hy, hyx⟩

end Places

end Routing.Regex
