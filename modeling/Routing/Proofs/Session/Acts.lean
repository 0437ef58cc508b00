import Routing.Proofs.Session.Chains
import Routing.Session.Machine

/-!
# What is done to chains

Whoever holds a chain can act on it. To the chains, what a handler does is a series of such acts, and
nothing else.

* `ChainAct`: what can be done to a chain
* `Machine.nextAct?`: what the next step does to a chain
* `Machine.step_does`: a step does that to the chains, and a handler that it calls comes on top
-/
namespace Routing

/-- What anyone who holds chains and continuations can do to them. -/
inductive ChainAct where
  | create (value : String) (context : RouteContext) (globals : List Handler)
  | enqueue (id : ChainId) (batch : List Handler)
  | enqueueAt (id : ChainId) (index : Nat) (batch : List Handler)
  /-- Starts a chain. A failure ends there if the call is guarded. -/
  | run (id : ChainId) (guarded : Bool)
  /-- Calls a continuation of a chain. -/
  | call (id : ChainId) (guarded : Bool)
  | preventDefault (id : ChainId)
  | stopPropagation (id : ChainId)
  | navigate (id : ChainId) (path : String)

/-- What an action is to the chains, if it is anything to them. -/
def Action.act? (s : Session) (scene : Scene) : Action → Option ChainAct
  | .next => scene.next.map (.call · false)
  | .nextCaught => scene.next.map (.call · true)
  | .resume slot => (s.parked.lookup slot).map (.call · false)
  | .run => (s.sceneChain? scene).map fun (id, _) => .run id false
  | .enqueue batch => (s.sceneChain? scene).map fun (id, _) => .enqueue id batch
  | .enqueueAt index batch => (s.sceneChain? scene).map fun (id, _) => .enqueueAt id index batch
  | .preventDefault => (s.sceneChain? scene).map fun (id, _) => .preventDefault id
  | .stopPropagation => (s.sceneChain? scene).map fun (id, _) => .stopPropagation id
  | .navigate path => (s.sceneChain? scene).map fun (id, _) => .navigate id path
  | _ => none

namespace Machine

/-- Handlers that are called come on top of those that are under way. -/
def act (m : Machine) : ChainAct → Machine
  | .create value context globals =>
    { m with session := (m.session.create (.opened value context globals)).2 }
  | .enqueue id batch => { m with session := m.session.enqueue id batch }
  | .enqueueAt id index batch => { m with session := m.session.enqueueAt id index batch }
  | .run id guarded => call (m.session.modify id Chain.start) id guarded m.frames
  | .call id guarded => call m.session id guarded m.frames
  | .preventDefault id => { m with session := m.session.modify id Chain.preventDefault }
  | .stopPropagation id => { m with session := m.session.modify id Chain.stopPropagation }
  | .navigate id path => { m with session := m.session.navigate id path }

/-- What the next action of the handler on top is to the chains. -/
def nextAct? (m : Machine) : Option ChainAct :=
  match m.failure, m.frames with
  | none, ⟨scene, a :: _, _⟩ :: _ => a.act? m.session scene
  | _, _ => none

/-- A handler that is called comes on top with its chain, and with the continuation of its chain. If none
waits, nothing is called. -/
theorem call_eq (s : Session) (id : ChainId) (guarded : Bool) (below : List Frame) :
    call s id guarded below =
      match (s.chain? id).bind (·.queue.head?) with
      | some h => ⟨s.popped id, ⟨⟨some id, some id⟩, h, guarded⟩ :: below, none⟩
      | none =>
        ⟨s.report ((s.chain? id).toList.map Chain.exhaustedLog), ⟨{}, [], guarded⟩ :: below, none⟩ := by
  unfold call
  cases taken : s.dequeue? id with
  | none => rw [Session.dequeue?_eq_none_iff.1 taken]
  | some result =>
    obtain ⟨h, t⟩ := result
    obtain ⟨c, hc, head, rfl⟩ := Session.dequeue?_eq_some_iff.1 taken
    simp [hc, head]

/-- What a call does to the chains, and what it calls, is up to the chains alone. -/
theorem call_congr {s t : Session} (same : s.chains = t.chains) (id : ChainId) (guarded : Bool)
    (below below' : List Frame) :
    (call s id guarded below).session.chains = (call t id guarded below').session.chains ∧
      (call s id guarded below).frames.head? = (call t id guarded below').frames.head? := by
  have chain : s.chain? id = t.chain? id := congrArg (·[id]?) same
  rw [call_eq, call_eq, chain]
  cases (t.chain? id).bind (·.queue.head?) with
  | none => exact ⟨same, rfl⟩
  | some h =>
    refine ⟨?_, rfl⟩
    simp only [Session.popped, Session.modify, same]

/-- A machine has come from a session by an act: it has done to the chains what the act does to them, and
the handler that the act calls is on top. Without an act, nothing was done. -/
def Does (s : Session) : Option ChainAct → Machine → Prop
  | none, m => m.session.chains = s.chains
  | some a, m => m.session.chains = (act ⟨s, [], none⟩ a).session.chains ∧
    ∀ id guarded, a = .run id guarded ∨ a = .call id guarded →
      m.frames.head? = (act ⟨s, [], none⟩ a).frames.head?

theorem does_call {s t : Session} (same : t.chains = s.chains) (id : ChainId) (guarded : Bool)
    (below : List Frame) : Does s (some (.call id guarded)) (call t id guarded below) :=
  have congr := call_congr same id guarded below []
  ⟨congr.1, fun _ _ _ => congr.2⟩

theorem carryOut_does {s : Session} {scene : Scene} {id : ChainId} {c : Chain}
    (here : s.sceneChain? scene = some (id, c)) (below : List Frame) {a : Action}
    (other : a ≠ .next ∧ a ≠ .nextCaught ∧ a ≠ .run ∧ ∀ slot, a ≠ .resume slot) (f : Frame) :
    Does s (a.act? s scene) ⟨s.carryOut id c scene a, f :: below, none⟩ := by
  cases a with
  | preventDefault | stopPropagation | navigate | enqueue | enqueueAt =>
    simp only [Action.act?, here, Option.map_some]
    exact ⟨rfl, by simp⟩
  | observeChain =>
    simp only [Does, Action.act?, Session.carryOut]
    cases s.chainReport? id <;> rfl
  | next => exact absurd rfl other.1
  | nextCaught => exact absurd rfl other.2.1
  | run => exact absurd rfl other.2.2.1
  | resume slot => exact absurd rfl (other.2.2.2 slot)
  | _ => rfl

theorem take_does (s : Session) (f : Frame) (below : List Frame) (a : Action) :
    Does s (a.act? s f.scene) (take s f below a) := by
  cases a with
  | next | nextCaught =>
    simp only [take, Action.act?]
    cases f.scene.next with
    | none => rfl
    | some id => exact does_call rfl id _ _
  | resume slot =>
    simp only [take, Action.act?, Session.unpark?]
    cases s.parked.lookup slot with
    | none => rfl
    | some id =>
      exact does_call (s := s) (t := { s with parked := s.parked.filter (·.1 != slot) }) rfl id false
        (f :: below)
  | run =>
    simp only [take, Action.act?]
    cases s.sceneChain? f.scene with
    | none => rfl
    | some found =>
      have congr := call_congr (s := s.modify found.1 Chain.start) rfl found.1 false (f :: below) []
      exact ⟨congr.1, fun _ _ _ => congr.2⟩
  | note data | fail message | failWith e | recover rescue | consult choose | times counter limit body
  | observeRequest | perform name => rfl
  | park slot =>
    simp only [take]
    cases f.scene.next <;> rfl
  | onKept slot body =>
    simp only [take]
    cases s.handles.lookup slot <;> rfl
  | whenParam name value body | whenRoute route body =>
    simp only [take]
    cases s.sceneChain? f.scene <;> rfl
  | onPrevious body =>
    simp only [take]
    cases s.sceneChain? f.scene with
    | none => rfl
    | some found => cases h : s.previous? found.1 <;> simp only [h] <;> rfl
  | onParent body =>
    simp only [take]
    cases s.sceneChain? f.scene with
    | none => rfl
    | some found => cases h : s.parent? found.1 <;> simp only [h] <;> rfl
  | _ =>
    cases here : s.sceneChain? f.scene with
    | none =>
      simp only [take, here, Action.act?]
      rfl
    | some found =>
      simp only [take, here]
      exact carryOut_does here below (by simp) f

/-- What a step does to the chains is what the next action is to them. -/
theorem step_does (m : Machine) : Does m.session m.nextAct? m.step := by
  obtain ⟨s, frames, failure⟩ := m
  cases frames with
  | nil => cases failure <;> rfl
  | cons f below =>
    obtain ⟨scene, todo, guarded⟩ := f
    cases failure with
    | some e =>
      change Does s none (unwind s ⟨scene, todo, guarded⟩ below e)
      obtain ⟨rest, takesOver⟩ | ends := unwind_cases s ⟨scene, todo, guarded⟩ below e
      · rw [takesOver]
        rfl
      · rw [ends]
        cases guarded <;> rfl
    | none =>
      cases todo with
      | nil => cases guarded <;> rfl
      | cons a rest => exact take_does s ⟨scene, rest, guarded⟩ below a

/-- What holds of the machine at the end of a run, and of any machine of which it holds after one more step, holds of
the machine that is run. -/
theorem run_induction {P : Machine → Prop} {limit : Nat} {m last : Machine} (ran : m.run limit = some last)
    (ends : last.frames = [] → P last) (step : ∀ m : Machine, m.frames ≠ [] → P m.step → P m) : P m := by
  induction limit generalizing m with
  | zero =>
    rw [run] at ran
    split at ran
    · next idle =>
      obtain rfl := Option.some.inj ran
      exact ends (List.isEmpty_iff.1 idle)
    · cases ran
  | succ limit ih =>
    rw [run] at ran
    split at ran
    · next idle =>
      obtain rfl := Option.some.inj ran
      exact ends (List.isEmpty_iff.1 idle)
    · next busy => exact step m (fun none_ => busy (List.isEmpty_iff.2 none_)) (ih ran)

/-- What there is to say of so many steps, one after another, as long as handlers are under way. -/
def collect {ε : Type} (f : Machine → Option ε) : Nat → Machine → List ε
  | 0, _ => []
  | limit + 1, m => if m.frames.isEmpty then [] else (f m).toList ++ collect f limit m.step

end Machine

end Routing
