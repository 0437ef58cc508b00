import Routing.Chain
import Routing.Proofs.Loops

/-!
# Batches that are put into a queue

A batch goes into the queue of a chain handler by handler, each behind the one before. What comes of it is the queue
with the batch in one piece.

* `Chain.insertAt`, `Chain.insertEach`: one handler, and a batch one by one
* `Chain.insertEach_append`: so many handlers are in, and the rest of the batch comes behind them
* `Chain.enqueueAt_splices`: the batch in the queue, wherever it is put
-/
namespace Routing.Chain

/-- Puts a handler in front of the one at a place, or at the end. There is no place beyond. -/
def insertAt (queue : List Handler) (place : Nat) (h : Handler) : Checked (List Handler) :=
  if place ≤ queue.length then .ok (queue.insertIdx place h) else .error (.place place)

/-- Puts in a batch one by one, each handler behind those that are in, and counts them. -/
def insertEach (start inserted : Nat) (queue : List Handler) : List Handler → Checked (Nat × List Handler)
  | [] => .ok (inserted, queue)
  | h :: rest => do
    let queue ← insertAt queue (start + inserted) h
    insertEach start (inserted + 1) queue rest

theorem insertIdx_length (front : List Handler) (h : Handler) (back : List Handler) :
    (front ++ back).insertIdx front.length h = front ++ h :: back := by
  induction front with
  | nil => rfl
  | cons first rest ih => simp [ih]

theorem insertAt_length (front : List Handler) (h : Handler) (back : List Handler) :
    insertAt (front ++ back) front.length h = .ok (front ++ h :: back) := by
  rw [insertAt, if_pos (by simp), insertIdx_length]

/-- With `put` in the queue behind `front`, the rest of the batch comes behind that. -/
theorem insertEach_append (front put back batch : List Handler) :
    insertEach front.length put.length (front ++ put ++ back) batch =
      .ok (put.length + batch.length, front ++ (put ++ batch) ++ back) := by
  induction batch generalizing put with
  | nil => simp [insertEach]
  | cons h rest ih =>
    have place : front.length + put.length = (front ++ put).length := List.length_append.symm
    have next := ih (put ++ [h])
    rw [List.length_append, List.length_singleton] at next
    rw [insertEach, place, insertAt_length, Checked.ok_bind]
    simpa [Nat.add_assoc, Nat.add_comm 1] using next

/-- An index beyond the end of the queue is cut to its length. -/
theorem enqueueAt_eq (c : Chain) (index : Nat) (batch : List Handler) :
    c.enqueueAt index batch =
      { c with queue := c.queue.take (min index c.queue.length) ++ batch ++
        c.queue.drop (min index c.queue.length) } := by
  by_cases inside : index ≤ c.queue.length
  · rw [Nat.min_eq_left inside]
    rfl
  · have beyond := Nat.le_of_not_le inside
    rw [Nat.min_eq_right beyond, enqueueAt_of_length_le beyond, List.take_length, List.drop_length, List.append_nil]
    rfl

/-- A batch that is put into the queue stands there in one piece, behind the handlers in front of the index and before
all others, or at the end if the index lies beyond it: put in one by one, no handler goes beyond the end of the queue,
nothing is lost, doubled or moved, and the chain stays as it is otherwise. Two batches, one behind the other, are
one. -/
theorem enqueueAt_splices (c : Chain) (index : Nat) :
    let s := min index c.queue.length
    (∀ batch,
      c.enqueueAt index batch = { c with queue := c.queue.take s ++ batch ++ c.queue.drop s } ∧
      insertEach s 0 c.queue batch = .ok (batch.length, (c.enqueueAt index batch).queue) ∧
      (c.enqueueAt index batch).queue.Perm (c.queue ++ batch) ∧
      c.queue.Sublist (c.enqueueAt index batch).queue ∧ batch.Sublist (c.enqueueAt index batch).queue) ∧
    (∀ batch, c.queue.length ≤ index → c.enqueueAt index batch = c.enqueue batch) ∧
    ∀ a b, (c.enqueueAt index a).enqueueAt (s + a.length) b = c.enqueueAt index (a ++ b) := by
  intro s
  refine ⟨fun batch => ?_, fun batch beyond => enqueueAt_of_length_le beyond batch, enqueueAt_append c index⟩
  have parts : c.queue.take s ++ c.queue.drop s = c.queue := List.take_append_drop s c.queue
  have front : (c.queue.take s).length = s := List.length_take_of_le (Nat.min_le_right ..)
  have spliced := enqueueAt_eq c index batch
  have queue : (c.enqueueAt index batch).queue = c.queue.take s ++ batch ++ c.queue.drop s := congrArg queue spliced
  rw [queue]
  refine ⟨spliced, ?_, ?_, ?_, ?_⟩
  · have inserted := insertEach_append (c.queue.take s) [] (c.queue.drop s) batch
    rwa [front, List.append_nil, parts, List.length_nil, Nat.zero_add, List.nil_append] at inserted
  · calc c.queue.take s ++ batch ++ c.queue.drop s
        = c.queue.take s ++ (batch ++ c.queue.drop s) := List.append_assoc ..
      List.Perm _ (c.queue.take s ++ (c.queue.drop s ++ batch)) := List.perm_append_comm.append_left _
      _ = c.queue ++ batch := by rw [← List.append_assoc, parts]
  · have around := (List.sublist_append_left (c.queue.take s) batch).append (List.Sublist.refl (c.queue.drop s))
    rwa [parts] at around
  · exact (List.sublist_append_right ..).trans (List.sublist_append_left ..)

/-- The largest index of 64 bits, and one between two handlers. -/
theorem enqueueAt_splices_word :
    let context : RouteContext := ⟨"/a", ⟨"/a", true, [], .empty, []⟩, ⟨"/a", false, .empty⟩⟩
    let c : Chain := .opened "/a" context [[.next], [.fail "x"]]
    c.queue.length ≤ UInt64.size - 1 ∧ c.enqueueAt (UInt64.size - 1) [[.note "b"]] = c.enqueue [[.note "b"]] ∧
      insertEach 1 0 c.queue [[.note "a"], [.note "b"]] =
        .ok (2, [[.next], [.note "a"], [.note "b"], [.fail "x"]]) := by
  intro context c
  have small : c.queue.length ≤ UInt64.size - 1 := by decide
  obtain ⟨-, beyond, -⟩ := enqueueAt_splices c (UInt64.size - 1)
  obtain ⟨inside, -, -⟩ := enqueueAt_splices c 1
  exact ⟨small, beyond [[.note "b"]] small, (inside [[.note "a"], [.note "b"]]).2.1⟩

end Routing.Chain
