import Routing.Proofs.Session.Queues

/-!
# Accounts

Whatever the order in which handlers are queued and called, each entry of a queue is called once or waits.

* `Accounted`: the ledgers of a history are right about the queues
* `Balance`: the accounts of one chain
* `Machine.entries_accounted`: the accounts of every chain balance at every moment
-/
namespace Routing

namespace Happening

/-- What happens to the queue of one chain. -/
def onQueue (id : ChainId) (q : List Handler) : Happening → List Handler
  | created i _ globals => if i = id then q ++ globals else q
  | appended i batch => if i = id then q ++ batch else q
  | inserted i index batch => if i = id then q.take index ++ batch ++ q.drop index else q
  | called i _ => if i = id then q.drop 1 else q

theorem lt_of_fits {qs : Queues} {id : ChainId} {h : Handler} (fits : (called id h).Fits qs) :
    id < qs.length := by
  by_contra absent
  simp [Fits, Queues.queue, List.getElem?_eq_none (Nat.le_of_not_lt absent)] at fits

theorem queue_change {qs : Queues} {i : ChainId} (hi : i < qs.length)
    (f : List Handler → List Handler) (id : ChainId) :
    (qs.change i f).queue id = if i = id then f (qs.queue id) else qs.queue id := by
  rw [Queues.queue, Queues.change, List.getElem?_modify]
  split
  · subst_vars
    simp [Queues.queue, hi]
  · simp [Queues.queue]

theorem queue_onQueues {qs : Queues} {e : Happening} (fits : e.Fits qs) (id : ChainId) :
    (e.onQueues qs).queue id = e.onQueue id (qs.queue id) := by
  cases e with
  | created i context globals =>
    obtain rfl : i = qs.length := fits
    rw [onQueues, onQueue, Queues.queue, Queues.queue]
    split
    · subst_vars
      simp
    · next other =>
      rcases Nat.lt_or_gt_of_ne other with h | h
      · rw [List.getElem?_eq_none (by simp; omega), List.getElem?_eq_none (by omega)]
      · rw [List.getElem?_append_left h]
  | appended i batch | inserted i index batch =>
    rw [onQueues, queue_change fits]
    rfl
  | called i h =>
    rw [onQueues, queue_change (lt_of_fits fits)]
    rfl

/-- What a chain knows about its route stays as it was when the chain was made. -/
theorem context_onQueues {qs : Queues} {e : Happening} (fits : e.Fits qs) {id : ChainId}
    {context : RouteContext} (h : (e.onQueues qs)[id]?.map Prod.fst = some context) :
    qs[id]?.map Prod.fst = some context ∨ ∃ globals, e = .created id context globals := by
  cases e with
  | created i created globals =>
    obtain rfl : i = qs.length := fits
    rw [onQueues] at h
    rcases Nat.lt_trichotomy id qs.length with before | rfl | behind
    · rw [List.getElem?_append_left before] at h
      exact .inl h
    · obtain rfl : created = context := by simpa using h
      exact .inr ⟨globals, rfl⟩
    · rw [List.getElem?_eq_none (by simp; omega)] at h
      cases h
  | appended i batch | inserted i index batch | called i handler =>
    rw [onQueues, Queues.change, List.getElem?_modify] at h
    refine .inl ?_
    cases hq : qs[id]? with
    | none => simp [hq] at h
    | some q =>
      rw [hq] at h
      by_cases here : i = id <;> simpa [here] using h

end Happening

theorem Ledger.map_waiting_note (id : ChainId) (l : Ledger) (e : Happening) :
    (l.note id e).waiting.map Prod.fst = e.onQueue id (l.waiting.map Prod.fst) := by
  cases e <;> simp only [note, Happening.onQueue] <;> split <;>
    simp [append, insert, call, List.map_take, List.map_drop]

/-- If the ledger is right, the handler that is called is that of the first entry which waits. -/
theorem Ledger.map_called_note {id : ChainId} {l : Ledger} {qs : Queues} {e : Happening}
    (fits : e.Fits qs) (waiting : l.waiting.map Prod.fst = qs.queue id) :
    (l.note id e).called.map Prod.fst = l.called.map Prod.fst ++ e.calls id := by
  cases e with
  | called i h =>
    simp only [note, Happening.calls]
    split
    · subst_vars
      have head : l.waiting.head?.map Prod.fst = some h := by
        rw [← List.head?_map, waiting]
        exact fits
      cases hw : l.waiting with
      | nil => simp [hw] at head
      | cons entry rest =>
        rw [hw] at head
        simp only [call, hw, List.map_append, List.take_succ_cons, List.take_zero, List.map_cons,
          List.map_nil, Option.some.inj head]
    · simp
  | _ =>
    simp only [note, Happening.calls]
    split <;> simp [append, insert]

/-- The ledgers that are kept of a history are right about the queues. -/
structure Accounted (history : List Happening) (qs : Queues) : Prop where
  waiting : ∀ id, (Ledger.of id history).waiting.map Prod.fst = qs.queue id
  called : ∀ id, (Ledger.of id history).called.map Prod.fst = history.flatMap (·.calls id)
  context : ∀ id context, qs[id]?.map Prod.fst = some context →
    ∃ globals, .created id context globals ∈ history

namespace Accounted

theorem concat {history : List Happening} {qs : Queues} {e : Happening}
    (h : Accounted history qs) (fits : e.Fits qs) :
    Accounted (history ++ [e]) (e.onQueues qs) where
  waiting id := by
    rw [Ledger.of_concat, Ledger.map_waiting_note, h.waiting, Happening.queue_onQueues fits]
  called id := by
    rw [Ledger.of_concat, Ledger.map_called_note fits (h.waiting id), h.called,
      List.flatMap_append, List.flatMap_singleton]
  context id context known := by
    rcases Happening.context_onQueues fits known with known | ⟨globals, rfl⟩
    · obtain ⟨globals, created⟩ := h.context id context known
      exact ⟨globals, List.mem_append_left _ created⟩
    · exact ⟨globals, by simp⟩

theorem move {history : List Happening} {m : Machine} (h : Accounted history m.session.queues)
    (mv : Machine.Move) :
    Accounted (history ++ (m.happening? mv).toList) (m.move mv).session.queues := by
  rw [(m.shows_move mv).queues]
  cases he : m.happening? mv with
  | none => simpa using h
  | some e => exact h.concat (m.fits_of_happening? he)

theorem moves {history : List Happening} {m : Machine} (h : Accounted history m.session.queues)
    (ms : List Machine.Move) :
    Accounted (history ++ m.history ms) (m.after ms).session.queues := by
  induction ms generalizing history m with
  | nil => simpa [Machine.history, Machine.after] using h
  | cons mv rest ih =>
    rw [Machine.history, Machine.after, ← List.append_assoc]
    exact ih (h.move mv)

theorem idle (library : List (String × Handler)) :
    Accounted [] (Machine.idle library).session.queues where
  waiting _ := rfl
  called _ := rfl
  context _ _ h := nomatch h

end Accounted

/-- The accounts of a chain after all that happened. -/
structure Balance (id : ChainId) (history : List Happening) (c : Chain) : Prop where
  /-- The entries that were called, in the order of the calls. -/
  called : (Ledger.of id history).called.map Prod.fst = history.flatMap (·.calls id)
  /-- The entries that wait, in the order of the queue. -/
  waiting : (Ledger.of id history).waiting.map Prod.fst = c.queue
  /-- Every entry that ever came is among them, and nothing else is. -/
  entries : ((Ledger.of id history).called ++ (Ledger.of id history).waiting).Perm
    (history.flatMap (·.arrivals id)).zipIdx
  /-- No entry was called twice, and none that was called waits. -/
  once : ((Ledger.of id history).called ++ (Ledger.of id history).waiting).Nodup
  count : (history.flatMap (·.arrivals id)).length =
    (history.flatMap (·.calls id)).length + c.pending
  /-- If batches were only appended, entries are called in the order in which they came. -/
  order : (∀ index batch, .inserted id index batch ∉ history) →
    history.flatMap (·.calls id) ++ c.queue = history.flatMap (·.arrivals id)

theorem Accounted.balance {history : List Happening} {s : Session}
    (h : Accounted history s.queues) {id : ChainId} {c : Chain} (hc : s.chain? id = some c) :
    Balance id history c := by
  have called := h.called id
  have waiting := (h.waiting id).trans (Session.queue_queues hc)
  have entries := Ledger.of_perm id history
  have numbered : (history.flatMap (·.arrivals id)).zipIdx.Nodup := by
    apply List.Nodup.of_map Prod.snd
    rw [List.zipIdx_map_snd]
    exact List.nodup_range'
  refine ⟨called, waiting, entries, entries.nodup_iff.2 numbered, ?_, fun back => ?_⟩
  · have total := entries.length_eq
    rw [List.length_append, List.length_zipIdx] at total
    rw [← total, ← called, Chain.pending, ← waiting, List.length_map, List.length_map]
  · rw [← called, ← waiting, ← List.map_append, Ledger.of_append back, List.zipIdx_map_fst]

namespace Machine

theorem after_append (m : Machine) (ms rest : List Move) :
    m.after (ms ++ rest) = (m.after ms).after rest := by
  induction ms generalizing m with
  | nil => rfl
  | cons mv ms ih => exact ih (m.move mv)

/-- To run the handlers that are under way to their end is to make moves. -/
theorem exists_moves_of_run {limit : Nat} {m m' : Machine} (h : m.run limit = some m') :
    ∃ ms, m' = m.after ms := by
  refine run_induction (P := fun m => ∃ ms, m' = m.after ms) h (fun _ => ⟨[], rfl⟩) fun m _ later => ?_
  obtain ⟨ms, rfl⟩ := later
  exact ⟨.step :: ms, rfl⟩

/-- After any series of moves the accounts of every chain balance: each entry that ever came to its queue
was called or waits there, and is one of the two, once. A handler is called with the chain in whose queue
it stood, the chain's continuation, and the request for which the chain was made; no handler gets a
continuation in another way. To run handlers to their end is such a series. -/
theorem entries_accounted (library : List (String × Handler)) (ms : List Move) :
    (∀ id c, ((idle library).after ms).session.chain? id = some c →
      Balance id ((idle library).history ms) c) ∧
    (∀ mv id h, ((idle library).after ms).happening? mv = some (.called id h) →
      ∃ guarded context globals,
        (((idle library).after ms).move mv).frames.head? = some ⟨⟨some id, some id⟩, h, guarded⟩ ∧
        .created id context globals ∈ (idle library).history ms ∧
        (((idle library).after ms).move mv).session.sceneRequest? ⟨some id, some id⟩ =
          some context.request) ∧
    (∀ mv f id, (((idle library).after ms).move mv).frames.head? = some f → f.scene.next = some id →
      ((idle library).after ms).frames.length < (((idle library).after ms).move mv).frames.length →
      ((idle library).after ms).happening? mv = some (.called id f.todo)) ∧
    ∀ limit m, ((idle library).after ms).run limit = some m →
      ∃ rest, m = (idle library).after (ms ++ rest) := by
  have accounts : Accounted ((idle library).history ms) ((idle library).after ms).session.queues :=
    (Accounted.idle library).moves ms
  refine ⟨fun id c hc => accounts.balance hc, fun mv id h called => ?_,
    fun mv f id top next deeper => called_of_move next top deeper, fun limit m finished => ?_⟩
  · obtain ⟨queues, top⟩ := shows_move ((idle library).after ms) mv
    obtain ⟨guarded, frames⟩ := top id h called
    rw [called] at queues
    have there : id < (((idle library).after ms).move mv).session.queues.length := by
      rw [queues]
      simpa [Happening.onQueues, Queues.change] using
        Happening.lt_of_fits (fits_of_happening? called)
    obtain ⟨c, hc⟩ : ∃ c, (((idle library).after ms).move mv).session.chain? id = some c :=
      Option.isSome_iff_exists.1 (by simpa [Session.chain?] using there)
    have known : (((idle library).after ms).move mv).session.queues[id]?.map Prod.fst =
        some c.context := by
      rw [Session.getElem?_queues, hc]
      rfl
    obtain ⟨globals, created⟩ := (accounts.move mv).context id c.context known
    rw [called] at created
    refine ⟨guarded, c.context, globals, frames, by simpa using created, ?_⟩
    simp only [Session.sceneRequest?, Session.sceneChain?, Option.bind_some, hc, Option.map_some]
    rfl
  · obtain ⟨rest, rfl⟩ := exists_moves_of_run finished
    exact ⟨rest, (after_append _ ms rest).symm⟩

end Machine

end Routing
