import Routing.Operation
import Routing.Session

/-!
# How handlers run

A handler that calls its continuation waits until the rest of its chain has run, so the handlers that
are under way form a stack. A failure ends them one by one, down to a call that is guarded or to a handler that
takes over.

* `Machine.step`: the next action of the handler on top
* `Machine.run`: steps until no handler is under way
* `Session.advance`, `Session.run`, `Session.act`: what others can start
-/
namespace Routing

/-- What the actions of a handler speak about. -/
structure Scene where
  chain : Option ChainId := none
  /-- The chain whose next handler the continuation runs; `none` if there is no continuation, or none
  any more. -/
  next : Option ChainId := none
  deriving DecidableEq, Repr

/-- A handler that is under way. -/
structure Frame where
  scene : Scene
  todo : List Action
  /-- A failure ends here, and how the handler ended is observed. -/
  guarded : Bool := false

/-- The handlers under way, the latest first, and the failure that is ending them. -/
structure Machine where
  session : Session
  frames : List Frame
  failure : Option RouterError := none

namespace Session

def nextReport (s : Session) (scene : Scene) : Option NextReport := do
  let id ← scene.next
  let c ← s.chain? id
  return ⟨c.value, c.pending, scene.next == scene.chain, c.describeNext⟩

/-- What a handler sees from its scene. -/
def sight (s : Session) (scene : Scene) : Sight where
  chain := scene.chain.bind s.chainReport?
  context := (scene.chain.bind s.chain?).map (·.context)
  next := s.nextReport scene
  counters := s.counters
  parked := s.parked.map (·.1)
  handles := s.handles.map (·.1)

/-- An action that only reads or changes the chain of the scene, or keeps it. -/
def carryOut (s : Session) (id : ChainId) (c : Chain) (scene : Scene) : Action → Session
  | .observeNext => s.observe (.next (s.nextReport scene))
  | .observeParam name => s.observe (.param name (c.request.param? name))
  | .observeIndex n => s.observe (.index n (c.request.params.getIndex? n))
  | .preventDefault => s.modify id Chain.preventDefault
  | .stopPropagation => s.modify id Chain.stopPropagation
  | .navigate path => s.navigate id path
  | .observeChain => ((s.chainReport? id).map fun r => s.observe (.chain r)).getD s
  | .observeContext =>
    s.observe (.context c.route c.context.regex.text c.request (c.context.regex.isMatch c.value))
  | .describeChain => s.observe (.text c.describe)
  | .enqueue batch => s.enqueue id batch
  | .enqueueAt index batch => s.enqueueAt id index batch
  | .keep slot => s.keep slot id
  | _ => s

def sceneChain? (s : Session) (scene : Scene) : Option (ChainId × Chain) :=
  scene.chain.bind fun id => (s.chain? id).map (id, ·)

def sceneRequest? (s : Session) (scene : Scene) : Option Request :=
  (s.sceneChain? scene).map (·.2.request)

end Session

namespace Machine

/-- Calls the next handler of a chain. A chain whose queue is empty has nothing to do. -/
def call (s : Session) (id : ChainId) (guarded : Bool) (below : List Frame) : Machine :=
  match s.dequeue? id with
  | some (h, s) => ⟨s, ⟨⟨some id, some id⟩, h, guarded⟩ :: below, none⟩
  | none =>
    ⟨s.report ((s.chain? id).toList.map Chain.exhaustedLog), ⟨{}, [], guarded⟩ :: below, none⟩

/-- Takes one action of the handler `f`, whose further actions are still in it. -/
def take (s : Session) (f : Frame) (below : List Frame) : Action → Machine
  | .note data => ⟨s.observe (.note data), f :: below, none⟩
  | .next =>
    match f.scene.next with
    | none => ⟨s, f :: below, none⟩
    | some id => call s id false ({ f with scene.next := none } :: below)
  | .nextCaught =>
    match f.scene.next with
    | none => ⟨s, f :: below, none⟩
    | some id => call s id true ({ f with scene.next := none } :: below)
  | .park slot =>
    match f.scene.next with
    | none => ⟨s, f :: below, none⟩
    | some id => ⟨s.park slot id, { f with scene.next := none } :: below, none⟩
  | .resume slot =>
    match s.unpark? slot with
    | none => ⟨s, f :: below, none⟩
    | some (id, s) => call s id false (f :: below)
  | .fail message => ⟨s, f :: below, some (.handler message)⟩
  | .failWith e => ⟨s, f :: below, some e⟩
  | .recover _ => ⟨s, f :: below, none⟩
  | .consult choose => ⟨s, { f with todo := choose (s.sight f.scene) ++ f.todo } :: below, none⟩
  | .times counter limit body =>
    let (n, s) := s.count counter
    ⟨s, { f with todo := if n ≤ limit then body ++ f.todo else f.todo } :: below, none⟩
  | .observeRequest => ⟨s.observe (.request (s.sceneRequest? f.scene)), f :: below, none⟩
  | .perform name => ⟨s, { f with todo := s.named name ++ f.todo } :: below, none⟩
  | .onKept slot body =>
    match s.handles.lookup slot with
    | none => ⟨s, f :: below, none⟩
    | some id => ⟨s, ⟨⟨some id, none⟩, body, false⟩ :: f :: below, none⟩
  | action =>
    match s.sceneChain? f.scene with
    | none => ⟨s, f :: below, none⟩
    | some (id, c) =>
      match action with
      | .whenParam name value body =>
        let hold := c.request.param? name == value
        ⟨s, { f with todo := if hold then body ++ f.todo else f.todo } :: below, none⟩
      | .whenRoute route body =>
        ⟨s, { f with todo := if c.route == route then body ++ f.todo else f.todo } :: below, none⟩
      | .run => call (s.modify id Chain.start) id false (f :: below)
      | .onPrevious body =>
        match s.previous? id with
        | none => ⟨s, f :: below, none⟩
        | some before => ⟨s, ⟨⟨some before, none⟩, body, false⟩ :: f :: below, none⟩
      | .onParent body =>
        match s.parent? id with
        | none => ⟨s, f :: below, none⟩
        | some before => ⟨s, ⟨⟨some before, none⟩, body, false⟩ :: f :: below, none⟩
      | action => ⟨s.carryOut id c f.scene action, f :: below, none⟩

/-- Ends the handler on top. -/
def leave (s : Session) (f : Frame) (below : List Frame) (failure : Option RouterError) : Machine :=
  if f.guarded then ⟨s.observe (.caught failure), below, none⟩ else ⟨s, below, failure⟩

/-- Lets the handler on top take over after a failure, or ends it. -/
def unwind (s : Session) (f : Frame) (below : List Frame) (e : RouterError) : Machine :=
  match Handler.rescue? e f.todo with
  | some todo => ⟨s, { f with todo } :: below, none⟩
  | none => leave s f below (some e)

theorem unwind_cases (s : Session) (f : Frame) (below : List Frame) (e : RouterError) :
    (∃ todo, unwind s f below e = ⟨s, { f with todo } :: below, none⟩) ∨
      unwind s f below e = leave s f below (some e) := by
  unfold unwind
  split
  · exact .inl ⟨_, rfl⟩
  · exact .inr rfl

def step (m : Machine) : Machine :=
  match m.frames with
  | [] => m
  | f :: below =>
    match m.failure, f.todo with
    | some e, _ => unwind m.session f below e
    | none, [] => leave m.session f below none
    | none, a :: rest => take m.session { f with todo := rest } below a

/-- Steps until no handler is under way; `none` if the steps do not suffice. -/
def run : Nat → Machine → Option Machine
  | 0, m => if m.frames.isEmpty then some m else none
  | limit + 1, m => if m.frames.isEmpty then some m else m.step.run limit

/-- What came of it when no handler is under way. -/
def result (m : Machine) : Except RouterError Unit × Session :=
  match m.failure with
  | none => (.ok (), m.session)
  | some e => (.error e, m.session)

end Machine

/-! ## Operations on a session -/

namespace Session

/-- Runs what a machine that is made from the session has under way. -/
def running (limit : Nat) (start : Session → Machine) : Operation Session Unit :=
  ExceptT.mk fun s => ((start s).run limit).map Machine.result

/-- Calls the next handler of a chain. -/
def advance (limit : Nat) (id : ChainId) : Operation Session Unit :=
  running limit fun s => Machine.call s id false []

/-- Starts a chain. -/
def run (limit : Nat) (id : ChainId) : Operation Session Unit :=
  running limit fun s => Machine.call (s.modify id Chain.start) id false []

/-- Takes actions that have no continuation. -/
def act (limit : Nat) (chain : Option ChainId) (actions : List Action) : Operation Session Unit :=
  running limit fun s => ⟨s, [⟨⟨chain, none⟩, actions, false⟩], none⟩

end Session

end Routing
