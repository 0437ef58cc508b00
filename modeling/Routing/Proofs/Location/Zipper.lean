import Routing.Proofs.Location.Trail

/-!
# A history as a zipper

A history keeps its entries in one list, with the index of the one that is shown. It does what a zipper does, which
keeps the entries behind the shown one and those ahead of it apart.

* `History.Step`, `History.step`: what is done to a history, and what it answers
* `Zipper`, `Zipper.step`: the same on a zipper
* `Zipper.history`: the history that a zipper stands for
* `Zipper.history_step`, `Zipper.history_run`: steps on the zipper are steps on the history
* `History.run_zips`: what a history shows after any steps
-/
namespace Routing

/-- What is done to a history. -/
inductive History.Step where
  | setHash (fragment : String)
  | pushState (url : String)
  | back
  | forward
  deriving DecidableEq, Repr

/-- A step, and what it answers. -/
def History.step (h : History) : Step → History × Option Bool
  | .setHash fragment => (h.setHash fragment, none)
  | .pushState url => (h.pushState url, none)
  | .back => stepping h h.back?
  | .forward => stepping h h.forward?

/-- Steps in order, with their answers. -/
def History.runWith {α : Type} (step : α → Step → α × Option Bool) (a : α) : List Step → α × List (Option Bool)
  | [] => (a, [])
  | s :: rest =>
    let later := runWith step (step a s).1 rest
    (later.1, (step a s).2 :: later.2)

/-- Entries with a cursor; of those behind it the nearest comes first. -/
structure Zipper where
  behind : List Entry
  here : Entry
  ahead : List Entry
  deriving DecidableEq, Repr

namespace Zipper

def opened (pathname : String) : Zipper :=
  ⟨[], ⟨pathname, ""⟩, []⟩

/-- An entry comes behind the cursor's, in place of what lay ahead, and is shown. -/
def append (z : Zipper) (e : Entry) : Zipper :=
  ⟨z.here :: z.behind, e, []⟩

/-- The fragment with its mark; an empty one has none. -/
def hash (z : Zipper) : String :=
  if z.here.hash = "" then "" else "#" ++ z.here.hash

def size (z : Zipper) : Nat :=
  z.behind.length + 1 + z.ahead.length

/-- A step, and what it answers. A fragment is kept without a mark in front. -/
def step (z : Zipper) : History.Step → Zipper × Option Bool
  | .setHash fragment =>
    let text := fragment.toList
    let bare := if text.head? = some '#' then text.tail else text
    (z.append ⟨z.here.pathname, String.ofList bare⟩, none)
  | .pushState url => (z.append ⟨url, ""⟩, none)
  | .back =>
    match z.behind with
    | [] => (z, some false)
    | e :: rest => (⟨rest, e, z.here :: z.ahead⟩, some true)
  | .forward =>
    match z.ahead with
    | [] => (z, some false)
    | e :: rest => (⟨z.here :: z.behind, e, rest⟩, some true)

/-- The history that a zipper stands for. -/
def history (z : Zipper) : History :=
  ⟨z.behind.reverse ++ z.here :: z.ahead, z.behind.length⟩

/-! ## What is shown -/

theorem inRange_history (z : Zipper) : z.history.InRange := by
  simp [history, History.InRange]

theorem getElem?_history (z : Zipper) : z.history.entries[z.history.current]? = some z.here := by
  simp [history]

theorem entry_history (z : Zipper) : z.history.entry = z.here := by
  rw [History.entry, getElem?_history]
  rfl

theorem pathname_history (z : Zipper) : z.history.pathname = z.here.pathname := by
  rw [History.pathname, entry_history]

theorem hash_history (z : Zipper) : z.history.hash = z.hash := by
  simp [History.hash, entry_history, hash]

theorem size_history (z : Zipper) : z.history.size = z.size := by
  simp [History.size, history, size, Nat.add_assoc, Nat.add_comm 1]

/-! ## Steps -/

theorem push_history (z : Zipper) (e : Entry) : z.history.push e = (z.append e).history := by
  have front : z.history.entries = (z.behind.reverse ++ [z.here]) ++ z.ahead := by simp [history]
  have size : (z.behind.reverse ++ [z.here]).length = z.history.current + 1 := by simp [history]
  rw [History.push, front, List.take_left' size]
  simp [append, history]

theorem withoutMark_eq (fragment : String) : withoutMark fragment =
    String.ofList (if fragment.toList.head? = some '#' then fragment.toList.tail else fragment.toList) := by
  unfold withoutMark
  split
  · next rest front => simp [front]
  · next plain =>
    have other : fragment.toList.head? ≠ some '#' := fun front =>
      have ⟨rest, same⟩ := List.head?_eq_some_iff.1 front
      plain rest same
    rw [if_neg other, String.ofList_toList]

theorem history_back (z : Zipper) : z.history.step .back = ((z.step .back).1.history, (z.step .back).2) := by
  obtain ⟨behind, here, ahead⟩ := z
  cases behind <;> simp [History.step, History.back?, stepping, step, history]

theorem history_forward (z : Zipper) :
    z.history.step .forward = ((z.step .forward).1.history, (z.step .forward).2) := by
  obtain ⟨behind, here, ahead⟩ := z
  cases ahead <;> simp [History.step, History.forward?, stepping, step, history]

/-- A step on the history is the step on the zipper, with the same answer. -/
theorem history_step (z : Zipper) (s : History.Step) :
    z.history.step s = ((z.step s).1.history, (z.step s).2) := by
  cases s with
  | setHash fragment =>
    rw [History.step, History.setHash, pathname_history, push_history, withoutMark_eq]
    rfl
  | pushState url => exact congrArg (·, none) (push_history z _)
  | back => exact history_back z
  | forward => exact history_forward z

theorem history_run (z : Zipper) (steps : List History.Step) :
    History.runWith History.step z.history steps =
      ((History.runWith step z steps).1.history, (History.runWith step z steps).2) := by
  induction steps generalizing z with
  | nil => rfl
  | cons s rest ih => simp only [History.runWith, history_step, ih]

/-! ## There and back -/

theorem forward_of_back {z y : Zipper} (moved : z.step .back = (y, some true)) :
    y.step .forward = (z, some true) := by
  obtain ⟨behind, here, ahead⟩ := z
  cases behind <;> cases moved
  rfl

theorem back_of_forward {z y : Zipper} (moved : z.step .forward = (y, some true)) :
    y.step .back = (z, some true) := by
  obtain ⟨behind, here, ahead⟩ := z
  cases ahead <;> cases moved
  rfl

end Zipper

/-- Whatever is done to a history from its opening on, its cursor stands at an entry; it shows what a zipper shows with
which the same is done, and answers the same; and a step that was taken is undone by the opposite one. -/
theorem History.run_zips (pathname : String) (steps : List Step) :
    let run := runWith step (.opened pathname) steps
    let zipped := runWith Zipper.step (.opened pathname) steps
    (run.1.entries ≠ [] ∧ run.1.current < run.1.entries.length ∧
      run.1.entries[run.1.current]? = some run.1.entry) ∧
    (run.1.pathname = zipped.1.here.pathname ∧ run.1.hash = zipped.1.hash ∧ run.1.size = zipped.1.size ∧
      run.2 = zipped.2) ∧
    (∀ h, run.1.step .back = (h, some true) → h.step .forward = (run.1, some true)) ∧
    ∀ h, run.1.step .forward = (h, some true) → h.step .back = (run.1, some true) := by
  intro run zipped
  have same : run = (zipped.1.history, zipped.2) := Zipper.history_run (.opened pathname) steps
  have history : run.1 = zipped.1.history := congrArg Prod.fst same
  have answers : run.2 = zipped.2 := congrArg Prod.snd same
  have within := zipped.1.inRange_history
  rw [history]
  refine ⟨⟨by simp [Zipper.history], within, ?_⟩, ⟨zipped.1.pathname_history, zipped.1.hash_history,
    zipped.1.size_history, answers⟩, fun h moved => ?_, fun h moved => ?_⟩
  · rw [Zipper.getElem?_history, Zipper.entry_history]
  · rw [Zipper.history_step] at moved
    obtain ⟨rfl, taken⟩ := Prod.mk.inj moved
    have undone := Zipper.forward_of_back (Prod.ext rfl taken)
    rw [Zipper.history_step, undone]
  · rw [Zipper.history_step] at moved
    obtain ⟨rfl, taken⟩ := Prod.mk.inj moved
    have undone := Zipper.back_of_forward (Prod.ext rfl taken)
    rw [Zipper.history_step, undone]

/-- A fragment that is written behind the last entry takes the place of what lay ahead. -/
theorem History.run_zips_branch :
    let run := runWith step (.opened "/") [.pushState "/a", .setHash "##x", .back, .setHash "y"]
    run.1.pathname = "/a" ∧ run.1.hash = "#y" ∧ run.1.size = 3 ∧ run.2 = [none, none, some true, none] ∧
      ∃ h, run.1.step .back = (h, some true) ∧ h.step .forward = (run.1, some true) := by
  obtain ⟨-, ⟨pathname, hash, size, answers⟩, undone, -⟩ :=
    run_zips "/" [.pushState "/a", .setHash "##x", .back, .setHash "y"]
  exact ⟨pathname.trans (by decide), hash.trans (by decide), size.trans (by decide), answers.trans (by decide),
    _, rfl, undone _ rfl⟩

end Routing
