import Routing.Session

/-!
# The chains of a session

What the operations on a session do to the chain with a given number.

* `Session.chain?_modify`, `Session.chain?_create`: a changed chain, and a new one
* `Session.dequeue?_eq_some_iff`: which handler is taken from a queue, and what is left
-/
namespace Routing.Session

/-! ## Reports -/

@[simp] theorem report_nil (s : Session) : s.report [] = s := by
  rw [report, List.append_nil]

theorem report_append (s : Session) (records more : List Log.Record) :
    s.report (records ++ more) = (s.report records).report more := by
  simp only [report, List.append_assoc]

/-! ## Chains by number -/

theorem lt_of_chain? {s : Session} {id : ChainId} {c : Chain} (h : s.chain? id = some c) :
    id < s.chains.length :=
  (List.getElem?_eq_some_iff.1 h).1

theorem chain?_create (s : Session) (c : Chain) (i : ChainId) :
    (s.create c).2.chain? i = if i = s.chains.length then some c else s.chain? i := by
  simp only [chain?, create]
  split
  · subst_vars
    exact List.getElem?_concat_length
  · next other =>
    rcases Nat.lt_or_gt_of_ne other with h | h
    · exact List.getElem?_append_left h
    · rw [List.getElem?_eq_none (by simp; omega), List.getElem?_eq_none (by omega)]

theorem chain?_modify (s : Session) (id i : ChainId) (f : Chain → Chain) :
    (s.modify id f).chain? i = if id = i then (s.chain? i).map f else s.chain? i := by
  simp only [chain?, modify, List.getElem?_modify]
  split <;> simp

@[simp] theorem chain?_modify_self (s : Session) (id : ChainId) (f : Chain → Chain) :
    (s.modify id f).chain? id = (s.chain? id).map f := by
  simp [chain?_modify]

@[simp] theorem length_modify (s : Session) (id : ChainId) (f : Chain → Chain) :
    (s.modify id f).chains.length = s.chains.length :=
  List.length_modify ..

/-- What a change leaves as it was, chain by chain. -/
theorem map_chains_modify {α : Type} (view : Chain → α) (s : Session) (id : ChainId) (f : Chain → Chain)
    (same : ∀ c, view (f c) = view c) : (s.modify id f).chains.map view = s.chains.map view := by
  apply List.ext_getElem?
  intro i
  simp only [modify, List.getElem?_map, List.getElem?_modify]
  by_cases here : id = i
  · cases s.chains[i]? with
    | none => simp
    | some c => simp [here, same]
  · simp [here]

/-- Only what a change does to the chain as it is matters. -/
theorem modify_congr {s : Session} {id : ChainId} {c : Chain} {f g : Chain → Chain}
    (hc : s.chain? id = some c) (same : f c = g c) : s.modify id f = s.modify id g := by
  have chains : s.chains.modify id f = s.chains.modify id g := by
    apply List.ext_getElem?
    intro i
    rw [List.getElem?_modify, List.getElem?_modify]
    by_cases here : id = i
    · subst here
      rw [chain?] at hc
      simp [hc, same]
    · simp [here]
  rw [modify, modify, chains]

theorem chain?_enqueue (s : Session) (id i : ChainId) (batch : List Handler) :
    (s.enqueue id batch).chain? i =
      if id = i then (s.chain? i).map (·.enqueue batch) else s.chain? i := by
  unfold enqueue
  split
  · next none =>
    split
    · next here => rw [← here, none, Option.map_none]
    · rfl
  · exact chain?_modify s id i (·.enqueue batch)

/-! ## Taking handlers -/

/-- The session without the first handler in the queue of a chain. -/
def popped (s : Session) (id : ChainId) : Session :=
  s.modify id fun c => { c with queue := c.queue.drop 1 }

theorem dequeue?_eq_some_iff {s t : Session} {id : ChainId} {h : Handler} :
    s.dequeue? id = some (h, t) ↔
      ∃ c, s.chain? id = some c ∧ c.queue.head? = some h ∧ t = s.popped id := by
  unfold dequeue?
  cases hc : s.chain? id with
  | none => simp
  | some c =>
    cases hq : c.queue with
    | nil => simp [Chain.dequeue?, hq]
    | cons first rest =>
      have same : s.modify id (fun _ => { c with queue := rest }) = s.popped id :=
        modify_congr hc (by simp [hq])
      simp [Chain.dequeue?, hq, same, eq_comm]

theorem dequeue?_eq_none_iff {s : Session} {id : ChainId} :
    s.dequeue? id = none ↔ (s.chain? id).bind (·.queue.head?) = none := by
  unfold dequeue?
  cases s.chain? id with
  | none => simp
  | some c => cases hq : c.queue <;> simp [Chain.dequeue?, hq]

/-! ## Waiting handlers -/

theorem head?_of_queue {s : Session} {id : ChainId} {hs : List Handler}
    (queue : (s.chain? id).map (·.queue) = some hs) :
    (s.chain? id).bind (·.queue.head?) = hs.head? := by
  obtain ⟨c, hc, rfl⟩ := Option.map_eq_some_iff.1 queue
  rw [hc]
  rfl

theorem queue_popped {s : Session} {id : ChainId} {h : Handler} {hs : List Handler}
    (queue : (s.chain? id).map (·.queue) = some (h :: hs)) :
    ((s.popped id).chain? id).map (·.queue) = some hs := by
  obtain ⟨c, hc, same⟩ := Option.map_eq_some_iff.1 queue
  rw [popped, chain?_modify_self, hc]
  simp [same]

end Routing.Session
