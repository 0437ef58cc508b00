import Routing.Proofs.Session.Acts
import Routing.Proofs.Session.Ledger

/-!
# Queues

Handlers are queued and called in any order: from outside, by handlers that are under way, and by
continuations that were put aside.

* `Machine.Move`: what can happen next
* `Machine.history`: what a series of moves does to queues
* `Machine.shows_move`: a move changes the queues accordingly, and calls the handler that it says
* `Machine.called_of_move`: only a handler that was called has a continuation
-/
namespace Routing

/-! ## What can happen -/

/-- The queues of all chains, with what the chains know about their routes. -/
abbrev Queues := List (RouteContext × List Handler)

def Session.queues (s : Session) : Queues :=
  s.chains.map fun c => (c.context, c.queue)

namespace Queues

/-- The queue of a chain; it is empty if there is no such chain. -/
def queue (qs : Queues) (id : ChainId) : List Handler :=
  (qs[id]?.map Prod.snd).getD []

/-- What comes of an act. Nothing does if there is no such chain, or if none of its handlers waits. -/
def happening? (qs : Queues) : ChainAct → Option Happening
  | .create _ context globals => some (.created qs.length context globals)
  | .enqueue id batch => qs[id]?.map fun _ => .appended id batch
  | .enqueueAt id index batch => qs[id]?.map fun _ => .inserted id index batch
  | .run id _ | .call id _ => (qs.queue id).head?.map (.called id)
  | .preventDefault _ | .stopPropagation _ | .navigate .. => none

end Queues

namespace Machine

/-- The handlers that are under way take their next action; or someone who holds the chains acts
between two of their actions, be it one of the handlers or the host. -/
inductive Move where
  | step
  | act (a : ChainAct)

def move (m : Machine) : Move → Machine
  | .step => m.step
  | .act a => m.act a

def happening? (m : Machine) : Move → Option Happening
  | .step => m.nextAct?.bind m.session.queues.happening?
  | .act a => m.session.queues.happening? a

/-- The machine after a series of moves. -/
def after (m : Machine) : List Move → Machine
  | [] => m
  | mv :: rest => (m.move mv).after rest

/-- What happens to queues in the course of a series of moves. -/
def history (m : Machine) : List Move → List Happening
  | [] => []
  | mv :: rest => (m.happening? mv).toList ++ (m.move mv).history rest

/-- No chain is there yet, and nothing is under way. -/
def idle (library : List (String × Handler)) : Machine :=
  ⟨{ library }, [], none⟩

end Machine

/-! ## What moves do to queues -/

/-- Changes the queue of one chain. -/
def Queues.change (qs : Queues) (id : ChainId) (f : List Handler → List Handler) : Queues :=
  qs.modify id fun q => (q.1, f q.2)

namespace Happening

def onQueues (qs : Queues) : Happening → Queues
  | created _ context globals => qs ++ [(context, globals)]
  | appended id batch => qs.change id (· ++ batch)
  | inserted id index batch => qs.change id fun q => q.take index ++ batch ++ q.drop index
  | called id _ => qs.change id (·.drop 1)

/-- What happens is about a chain that there is, and a handler that is called was the first in its
queue. -/
def Fits (qs : Queues) : Happening → Prop
  | created id .. => id = qs.length
  | appended id _ | inserted id .. => id < qs.length
  | called id h => (qs.queue id).head? = some h

end Happening

namespace Session

@[simp] theorem length_queues (s : Session) : s.queues.length = s.chains.length :=
  List.length_map ..

theorem queues_congr {s t : Session} (same : s.chains = t.chains) : s.queues = t.queues := by
  simp only [queues, same]

theorem getElem?_queues (s : Session) (id : ChainId) :
    s.queues[id]? = (s.chain? id).map fun c => (c.context, c.queue) :=
  List.getElem?_map ..

theorem queue_queues {s : Session} {id : ChainId} {c : Chain} (hc : s.chain? id = some c) :
    s.queues.queue id = c.queue := by
  rw [Queues.queue, getElem?_queues, hc]
  rfl

theorem head?_queues (s : Session) (id : ChainId) :
    (s.queues.queue id).head? = (s.chain? id).bind (·.queue.head?) := by
  rw [Queues.queue, getElem?_queues]
  cases s.chain? id <;> rfl

theorem queues_modify (s : Session) (id : ChainId) (f : Chain → Chain)
    (g : List Handler → List Handler)
    (hf : ∀ c, (f c).context = c.context ∧ (f c).queue = g c.queue) :
    (s.modify id f).queues = s.queues.change id g := by
  apply List.ext_getElem?
  intro i
  simp only [queues, modify, Queues.change, List.getElem?_map, List.getElem?_modify]
  by_cases here : id = i
  · cases hc : s.chains[i]? <;> simp [here, hf]
  · simp [here]

/-- A change that is not about the queue leaves the queues alone. -/
theorem queues_mark (s : Session) (id : ChainId) (f : Chain → Chain)
    (hf : ∀ c, (f c).context = c.context ∧ (f c).queue = c.queue) :
    (s.modify id f).queues = s.queues :=
  (queues_modify s id f (fun q => q) hf).trans (List.modify_id id _)

theorem queues_popped (s : Session) (id : ChainId) :
    (s.popped id).queues = s.queues.change id (·.drop 1) :=
  queues_modify s id _ _ fun _ => ⟨rfl, rfl⟩

theorem queues_create (s : Session) (value : String) (context : RouteContext)
    (globals : List Handler) :
    (s.create (.opened value context globals)).2.queues = s.queues ++ [(context, globals)] := by
  simp [queues, create, Chain.opened]

theorem queues_enqueue {s : Session} {id : ChainId} {c : Chain} (hc : s.chain? id = some c)
    (batch : List Handler) : (s.enqueue id batch).queues = s.queues.change id (· ++ batch) := by
  simp only [enqueue, hc]
  exact queues_modify s id (·.enqueue batch) _ fun _ => ⟨rfl, rfl⟩

theorem queues_enqueueAt {s : Session} {id : ChainId} {c : Chain} (hc : s.chain? id = some c)
    (index : Nat) (batch : List Handler) :
    (s.enqueueAt id index batch).queues =
      s.queues.change id fun q => q.take index ++ batch ++ q.drop index := by
  simp only [enqueueAt, hc]
  exact queues_modify s id (·.enqueueAt index batch) _ fun _ => ⟨rfl, rfl⟩

end Session

/-! ## Moves -/

theorem Queues.fits_of_happening? {qs : Queues} {a : ChainAct} {e : Happening}
    (h : qs.happening? a = some e) : e.Fits qs := by
  cases a with
  | create value context globals =>
    obtain rfl := Option.some.inj h
    rfl
  | enqueue id batch | enqueueAt id index batch =>
    obtain ⟨q, hq, rfl⟩ := Option.map_eq_some_iff.1 h
    exact (List.getElem?_eq_some_iff.1 hq).1
  | run id guarded | call id guarded =>
    obtain ⟨first, found, rfl⟩ := Option.map_eq_some_iff.1 h
    exact found
  | preventDefault | stopPropagation | navigate => cases h

theorem Queues.exists_call_of_happening? {qs : Queues} {a : ChainAct} {id : ChainId} {h : Handler}
    (called : qs.happening? a = some (.called id h)) :
    ∃ guarded, a = .run id guarded ∨ a = .call id guarded := by
  cases a with
  | run i guarded =>
    obtain ⟨first, -, same⟩ := Option.map_eq_some_iff.1 called
    exact ⟨guarded, .inl (congrArg (ChainAct.run · guarded) (Happening.called.inj same).1)⟩
  | call i guarded =>
    obtain ⟨first, -, same⟩ := Option.map_eq_some_iff.1 called
    exact ⟨guarded, .inr (congrArg (ChainAct.call · guarded) (Happening.called.inj same).1)⟩
  | enqueue id batch | enqueueAt id index batch =>
    obtain ⟨q, -, same⟩ := Option.map_eq_some_iff.1 called
    cases same
  | create | preventDefault | stopPropagation | navigate => cases called

namespace Machine

/-- A move changes the queues as what happened says. A handler that was called is on top of the others,
with its chain and the continuation of its chain. -/
structure Shows (qs : Queues) (e : Option Happening) (m : Machine) : Prop where
  queues : m.session.queues = e.elim qs (·.onQueues qs)
  frames : ∀ id h, e = some (.called id h) →
    ∃ guarded, m.frames.head? = some ⟨⟨some id, some id⟩, h, guarded⟩

theorem shows_none {qs : Queues} {m : Machine} (h : m.session.queues = qs) : Shows qs none m :=
  ⟨h, fun _ _ none => nomatch none⟩

theorem shows_call (s : Session) (id : ChainId) (guarded : Bool) (below : List Frame) :
    Shows s.queues ((s.queues.queue id).head?.map (.called id)) (call s id guarded below) := by
  rw [call_eq, s.head?_queues]
  cases (s.chain? id).bind (·.queue.head?) with
  | none => exact shows_none rfl
  | some h =>
    refine ⟨s.queues_popped id, fun i h' same => ⟨guarded, ?_⟩⟩
    obtain ⟨rfl, rfl⟩ := Happening.called.inj (Option.some.inj same)
    rfl

theorem shows_act (m : Machine) (a : ChainAct) :
    Shows m.session.queues (m.session.queues.happening? a) (m.act a) := by
  cases a with
  | create value context globals =>
    exact ⟨m.session.queues_create value context globals, by simp [Queues.happening?]⟩
  | enqueue id batch =>
    rw [Queues.happening?, Session.getElem?_queues]
    cases hc : m.session.chain? id with
    | none => exact shows_none (by simp [act, Session.enqueue, hc])
    | some c => exact ⟨Session.queues_enqueue hc batch, by simp⟩
  | enqueueAt id index batch =>
    rw [Queues.happening?, Session.getElem?_queues]
    cases hc : m.session.chain? id with
    | none => exact shows_none (by simp [act, Session.enqueueAt, hc])
    | some c => exact ⟨Session.queues_enqueueAt hc index batch, by simp⟩
  | run id guarded =>
    have same := m.session.queues_mark id Chain.start fun _ => ⟨rfl, rfl⟩
    have shows := shows_call (m.session.modify id Chain.start) id guarded m.frames
    rwa [same] at shows
  | call id guarded => exact shows_call m.session id guarded m.frames
  | preventDefault id =>
    exact shows_none (m.session.queues_mark id Chain.preventDefault fun _ => ⟨rfl, rfl⟩)
  | stopPropagation id =>
    exact shows_none (m.session.queues_mark id Chain.stopPropagation fun _ => ⟨rfl, rfl⟩)
  | navigate id path =>
    refine shows_none ?_
    simp only [act, Session.navigate]
    split
    · rfl
    · exact m.session.queues_mark id (Chain.navigate path) fun _ => ⟨rfl, rfl⟩

theorem shows_step (m : Machine) : Shows m.session.queues (m.happening? .step) m.step := by
  have does := m.step_does
  rw [happening?]
  cases next : m.nextAct? with
  | none =>
    rw [next] at does
    exact shows_none (Session.queues_congr does)
  | some a =>
    rw [next] at does
    obtain ⟨chains, top⟩ := does
    obtain ⟨queues, frames⟩ := shows_act ⟨m.session, [], none⟩ a
    refine ⟨(Session.queues_congr chains).trans queues, fun id h called => ?_⟩
    obtain ⟨guarded, head⟩ := frames id h called
    obtain ⟨g, isCall⟩ := Queues.exists_call_of_happening? called
    exact ⟨guarded, (top id g isCall).trans head⟩

theorem fits_of_happening? {m : Machine} {mv : Move} {e : Happening}
    (h : m.happening? mv = some e) : e.Fits m.session.queues := by
  cases mv with
  | step =>
    obtain ⟨a, -, ha⟩ := Option.bind_eq_some_iff.1 h
    exact Queues.fits_of_happening? ha
  | act a => exact Queues.fits_of_happening? h

theorem shows_move (m : Machine) (mv : Move) :
    Shows m.session.queues (m.happening? mv) (m.move mv) := by
  cases mv with
  | step => exact m.shows_step
  | act a => exact m.shows_act a

/-! ## Whoever has a continuation was called -/

theorem called_of_call {s : Session} {id i : ChainId} {guarded : Bool} {below : List Frame} {f : Frame}
    (top : (call s id guarded below).frames.head? = some f) (next : f.scene.next = some i) :
    (s.queues.queue id).head?.map (Happening.called id) = some (.called i f.todo) := by
  rw [call_eq] at top
  rw [s.head?_queues]
  cases waiting : (s.chain? id).bind (·.queue.head?) with
  | none =>
    rw [waiting] at top
    obtain rfl := Option.some.inj top
    cases next
  | some h =>
    rw [waiting] at top
    obtain rfl := Option.some.inj top
    obtain rfl := Option.some.inj next
    rfl

theorem called_of_take {s : Session} {f g : Frame} {below : List Frame} {a : Action} {i : ChainId}
    (next : g.scene.next = some i) :
    (take s f below a).frames.head? = some g → below.length + 1 < (take s f below a).frames.length →
    (a.act? s f.scene).bind s.queues.happening? = some (.called i g.todo) := by
  cases a with
  | next | nextCaught =>
    simp only [take, Action.act?]
    cases f.scene.next with
    | none => simp
    | some id => exact fun top _ => called_of_call top next
  | resume slot =>
    simp only [take, Action.act?, Session.unpark?]
    cases s.parked.lookup slot with
    | none => simp
    | some id =>
      intro top _
      exact called_of_call (s := { s with parked := s.parked.filter (·.1 != slot) }) top next
  | run =>
    simp only [take, Action.act?]
    cases s.sceneChain? f.scene with
    | none => simp
    | some found =>
      intro top _
      have called := called_of_call top next
      rwa [s.queues_mark found.1 Chain.start fun _ => ⟨rfl, rfl⟩] at called
  | onPrevious body | onParent body =>
    simp only [take]
    split
    · simp
    · split
      · simp
      · intro top
        obtain rfl := Option.some.inj top
        cases next
  | onKept slot body =>
    simp only [take]
    split
    · simp
    · intro top
      obtain rfl := Option.some.inj top
      cases next
  | note | fail | failWith | recover | consult | times | observeRequest | perform => simp [take]
  | _ =>
    simp only [take]
    split <;> simp

theorem called_of_step {m : Machine} {g : Frame} {i : ChainId} (next : g.scene.next = some i)
    (top : m.step.frames.head? = some g) (deeper : m.frames.length < m.step.frames.length) :
    m.happening? .step = some (.called i g.todo) := by
  obtain ⟨s, frames, failure⟩ := m
  cases frames with
  | nil => cases failure <;> exact absurd deeper (Nat.lt_irrefl _)
  | cons f below =>
    obtain ⟨scene, todo, guarded⟩ := f
    cases failure with
    | some e =>
      refine absurd deeper (Nat.not_lt.2 ?_)
      change (unwind s ⟨scene, todo, guarded⟩ below e).frames.length ≤ _
      obtain ⟨rest, takesOver⟩ | ends := unwind_cases s ⟨scene, todo, guarded⟩ below e
      · rw [takesOver]
        exact Nat.le_refl _
      · rw [ends]
        cases guarded <;> exact Nat.le_succ _
    | none =>
      cases todo with
      | nil => exact absurd deeper (by cases guarded <;> simp [step, leave])
      | cons a rest => exact called_of_take next top deeper

theorem called_of_act {m : Machine} {a : ChainAct} {g : Frame} {i : ChainId}
    (next : g.scene.next = some i) (top : (m.act a).frames.head? = some g)
    (deeper : m.frames.length < (m.act a).frames.length) :
    m.session.queues.happening? a = some (.called i g.todo) := by
  cases a with
  | run id guarded =>
    have called := called_of_call top next
    rwa [m.session.queues_mark id Chain.start fun _ => ⟨rfl, rfl⟩] at called
  | call id guarded => exact called_of_call top next
  | _ => exact absurd deeper (Nat.lt_irrefl _)

/-- A handler that comes on top of the others with a continuation was called. -/
theorem called_of_move {m : Machine} {mv : Move} {g : Frame} {i : ChainId}
    (next : g.scene.next = some i) (top : (m.move mv).frames.head? = some g)
    (deeper : m.frames.length < (m.move mv).frames.length) :
    m.happening? mv = some (.called i g.todo) := by
  cases mv with
  | step => exact called_of_step next top deeper
  | act a => exact called_of_act next top deeper

end Machine

end Routing
