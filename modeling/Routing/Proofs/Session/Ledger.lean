import Routing.Chain
import Mathlib.Data.List.Induction
import Mathlib.Data.List.Nodup

/-!
# Ledgers

What happens to the queue of a chain is entered in a ledger, in which handlers that are queued twice are two
entries.

* `Happening`: what can happen to a queue
* `Ledger`: the entries of one chain, called and waiting
* `Ledger.of_perm`, `Ledger.of_append`: no entry is lost or doubled, and what is only appended stays in order
-/
namespace Routing

/-- What happened to the queue of a chain. -/
inductive Happening where
  | created (id : ChainId) (context : RouteContext) (globals : List Handler)
  | appended (id : ChainId) (batch : List Handler)
  | inserted (id : ChainId) (index : Nat) (batch : List Handler)
  | called (id : ChainId) (h : Handler)

namespace Happening

/-- The handlers that came to the queue of a chain. -/
def arrivals (id : ChainId) : Happening → List Handler
  | created i _ globals => if i = id then globals else []
  | appended i batch | inserted i _ batch => if i = id then batch else []
  | called .. => []

/-- The handlers of a chain that were called. -/
def calls (id : ChainId) : Happening → List Handler
  | called i h => if i = id then [h] else []
  | _ => []

end Happening

/-- The entries of a chain. An entry is a handler with its number: entries are numbered as they come,
so that a handler which is queued twice makes two of them. -/
structure Ledger where
  /-- The number of the next entry. -/
  count : Nat := 0
  called : List (Handler × Nat) := []
  /-- In the order of the queue. -/
  waiting : List (Handler × Nat) := []

namespace Ledger

/-- Enters a batch behind the entries that wait. -/
def append (l : Ledger) (batch : List Handler) : Ledger :=
  { l with count := l.count + batch.length, waiting := l.waiting ++ batch.zipIdx l.count }

/-- Enters a batch before the entry at an index. -/
def insert (l : Ledger) (index : Nat) (batch : List Handler) : Ledger :=
  { l with
    count := l.count + batch.length
    waiting := l.waiting.take index ++ batch.zipIdx l.count ++ l.waiting.drop index }

/-- The first entry that waits is called. -/
def call (l : Ledger) : Ledger :=
  { l with called := l.called ++ l.waiting.take 1, waiting := l.waiting.drop 1 }

/-- Takes note of what happened, if it is about the chain. -/
def note (id : ChainId) (l : Ledger) : Happening → Ledger
  | .created i _ globals => if i = id then l.append globals else l
  | .appended i batch => if i = id then l.append batch else l
  | .inserted i index batch => if i = id then l.insert index batch else l
  | .called i _ => if i = id then l.call else l

/-- The ledger of a chain after all that happened. -/
def of (id : ChainId) (history : List Happening) : Ledger :=
  history.foldl (note id) {}

theorem of_concat (id : ChainId) (history : List Happening) (e : Happening) :
    of id (history ++ [e]) = (of id history).note id e := by
  simp only [of, List.foldl_append, List.foldl_cons, List.foldl_nil]

theorem count_note (id : ChainId) (l : Ledger) (e : Happening) :
    (l.note id e).count = l.count + (e.arrivals id).length := by
  cases e <;> simp only [note, Happening.arrivals] <;> split <;>
    simp [append, insert, call]

/-- As long as batches are only appended, entries stay in the order in which they came. -/
theorem note_append (id : ChainId) (l : Ledger) {e : Happening}
    (back : ∀ index batch, e ≠ .inserted id index batch) :
    (l.note id e).called ++ (l.note id e).waiting =
      (l.called ++ l.waiting) ++ (e.arrivals id).zipIdx l.count := by
  cases e with
  | created i context globals | appended i batch =>
    simp only [note, Happening.arrivals]
    split <;> simp [append]
  | inserted i index batch =>
    have other : i ≠ id := fun same => back index batch (by rw [same])
    simp [note, Happening.arrivals, other]
  | called i h =>
    simp only [note, Happening.arrivals]
    split
    · rw [call, List.append_assoc, List.take_append_drop]
      simp
    · simp

/-- Entries are neither lost nor doubled: what comes is added once, and a call moves one of them. -/
theorem note_perm (id : ChainId) (l : Ledger) (e : Happening) :
    ((l.note id e).called ++ (l.note id e).waiting).Perm
      ((l.called ++ l.waiting) ++ (e.arrivals id).zipIdx l.count) := by
  by_cases inserted : ∃ index batch, e = .inserted id index batch
  · obtain ⟨index, batch, rfl⟩ := inserted
    have back : (l.waiting.take index ++ batch.zipIdx l.count ++ l.waiting.drop index).Perm
        (l.waiting ++ batch.zipIdx l.count) := by
      conv => rhs; rw [← List.take_append_drop index l.waiting]
      simp only [List.append_assoc]
      exact List.perm_append_comm.append_left _
    simp only [note, Happening.arrivals, if_true, insert]
    rw [List.append_assoc l.called]
    exact back.append_left _
  · rw [note_append id l fun index batch h => inserted ⟨index, batch, h⟩]

theorem count_of (id : ChainId) (history : List Happening) :
    (of id history).count = (history.flatMap (·.arrivals id)).length := by
  induction history using List.reverseRecOn with
  | nil => rfl
  | append_singleton history e ih => simp [of_concat, count_note, ih]

/-- Every entry that ever came was called or waits, and it is one of the two, once. -/
theorem of_perm (id : ChainId) (history : List Happening) :
    ((of id history).called ++ (of id history).waiting).Perm
      (history.flatMap (·.arrivals id)).zipIdx := by
  induction history using List.reverseRecOn with
  | nil => exact .refl _
  | append_singleton history e ih =>
    rw [of_concat, List.flatMap_append, List.zipIdx_append, List.flatMap_singleton]
    refine (note_perm id _ e).trans ?_
    rw [count_of, Nat.zero_add]
    exact ih.append_right _

theorem of_append {id : ChainId} {history : List Happening}
    (back : ∀ index batch, .inserted id index batch ∉ history) :
    (of id history).called ++ (of id history).waiting =
      (history.flatMap (·.arrivals id)).zipIdx := by
  induction history using List.reverseRecOn with
  | nil => rfl
  | append_singleton history e ih =>
    have before := ih fun index batch h => back index batch (List.mem_append_left _ h)
    have here : ∀ index batch, e ≠ .inserted id index batch := fun index batch h =>
      back index batch (by simp [h])
    rw [of_concat, note_append id _ here, before, count_of, List.flatMap_append,
      List.zipIdx_append, List.flatMap_singleton, Nat.zero_add]

end Ledger

end Routing
