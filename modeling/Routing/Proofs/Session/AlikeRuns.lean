import Routing.Proofs.Session.Alike
import Routing.Proofs.Session.Conduct

/-!
# Handlers in sessions that are alike

No handler can tell one session from another that is alike: it takes the same steps in both, and both stay
alike.

* `Scene.Alike`, `Frame.Alike`, `Machine.Alike`: handlers under way in two sessions
* `Machine.Alike.step`, `Machine.Alike.run`: steps, one by one and to their end
* `Machine.invoked?`: the handler that a step calls, with its request
* `Machine.Alike.invoked?`: the same handlers are called
* `Machine.Idles`, `Machine.run_of_idle`: handlers that do no more than to prevent the default
-/
namespace Routing

variable {R : Renumbering} {extra : Observation → Prop}

structure Scene.Alike (R : Renumbering) (a b : Scene) : Prop where
  chain : Option.Rel R a.chain b.chain
  next : Option.Rel R a.next b.next

structure Frame.Alike (R : Renumbering) (f g : Frame) : Prop where
  scene : f.scene.Alike R g.scene
  todo : g.todo = f.todo
  guarded : g.guarded = f.guarded

structure Machine.Alike (R : Renumbering) (extra : Observation → Prop) (m n : Machine) : Prop where
  session : m.session.Alike R extra n.session
  frames : List.Forall₂ (Frame.Alike R) m.frames n.frames
  failure : n.failure = m.failure

namespace Session.Alike

variable {s t : Session} {a b : Scene} {i j : ChainId} {c d : Chain}

theorem sceneChain? (h : s.Alike R extra t) (scene : a.Alike R b) :
    Option.Rel (fun p q => R p.1 q.1 ∧ p.2.Alike R q.2) (s.sceneChain? a) (t.sceneChain? b) :=
  scene.chain.bind fun _ _ at_ => (h.chain? at_).map fun _ _ alike => ⟨at_, alike⟩

theorem sceneRequest? (h : s.Alike R extra t) (scene : a.Alike R b) :
    t.sceneRequest? b = s.sceneRequest? a := by
  refine ((h.sceneChain? scene).map_eq fun p q both => ?_).symm
  exact (both.2.same (f := Chain.request) fun _ => rfl).symm

/-- Whether the continuation belongs to the chain at hand is no matter of numbers. -/
theorem own (h : s.Alike R extra t) (scene : a.Alike R b) :
    (b.next == b.chain) = (a.next == a.chain) := by
  obtain ⟨chain, next⟩ := a
  obtain ⟨chain', next'⟩ := b
  obtain ⟨there, here⟩ := scene
  cases here with
  | none => cases there <;> rfl
  | @some i j at_ =>
    cases there with
    | none => rfl
    | @some k l at_' =>
      have same := h.unique at_ at_'
      by_cases own : i = k
      · simp [own, same.1 own]
      · have other : ¬ j = l := fun own' => own (same.2 own')
        simp [own, other]

theorem nextReport (h : s.Alike R extra t) (scene : a.Alike R b) : t.nextReport b = s.nextReport a := by
  have own := h.own scene
  refine (scene.next.bind_eq fun i j at_ => (h.chain? at_).bind_eq fun c d alike => ?_).symm
  rw [own]
  exact (alike.same (f := fun c => some (⟨c.value, c.pending, a.next == a.chain, c.describeNext⟩ : NextReport))
    fun _ => rfl).symm

theorem sight (h : s.Alike R extra t) (scene : a.Alike R b) : t.sight b = s.sight a := by
  have chain : b.chain.bind t.chainReport? = a.chain.bind s.chainReport? :=
    (scene.chain.bind_eq fun _ _ at_ => (h.chainReport? at_).symm).symm
  have context : (b.chain.bind t.chain?).map (·.context) = (a.chain.bind s.chain?).map (·.context) :=
    ((scene.chain.bind fun _ _ at_ => h.chain? at_).map_eq fun _ _ alike => alike.context.symm).symm
  simp only [Session.sight, chain, context, h.nextReport scene, h.counters, h.parked.names, h.handles.names]

theorem carryOut (h : s.Alike R extra t) (at_ : R i j) (alike : c.Alike R d) (scene : a.Alike R b)
    (action : Action) : (s.carryOut i c a action).Alike R extra (t.carryOut j d b action) := by
  have request : d.request = c.request := alike.same (f := Chain.request) fun _ => rfl
  cases action with
  | observeNext =>
    simp only [Session.carryOut, h.nextReport scene]
    exact h.observe _
  | observeParam name | observeIndex n =>
    simp only [Session.carryOut, request]
    exact h.observe _
  | preventDefault => exact h.change at_ (fun _ => rfl) fun _ => rfl
  | stopPropagation => exact h.change at_ (fun _ => rfl) fun _ => rfl
  | navigate path => exact h.navigate at_ path
  | observeChain =>
    simp only [Session.carryOut, h.chainReport? at_]
    cases s.chainReport? i with
    | none => exact h
    | some report => exact h.observe _
  | observeContext =>
    have context := alike.context
    have value := alike.value
    simp only [Session.carryOut, Chain.route, Chain.request, context, value]
    exact h.observe _
  | describeChain =>
    simp only [Session.carryOut, alike.same (f := Chain.describe) fun _ => rfl]
    exact h.observe _
  | enqueue batch => exact h.enqueue at_ batch
  | enqueueAt index batch => exact h.enqueueAt at_ index batch
  | keep slot => exact h.keep at_ slot
  | _ => exact h

/-- The handlers that wait are the same. -/
theorem head? (h : s.Alike R extra t) (at_ : R i j) :
    (t.chain? j).bind (·.queue.head?) = (s.chain? i).bind (·.queue.head?) := by
  refine ((h.chain? at_).bind_eq fun c d alike => ?_).symm
  rw [alike.queue]

end Session.Alike

namespace Machine

/-! ## Steps -/

section
variable {s t : Session} {i j : ChainId} {f g : Frame} {below below' : List Frame}

theorem alike_call (h : s.Alike R extra t) (at_ : R i j) (guarded : Bool)
    (under : List.Forall₂ (Frame.Alike R) below below') :
    (call s i guarded below).Alike R extra (call t j guarded below') := by
  rw [call_eq, call_eq, h.head? at_]
  cases (s.chain? i).bind (·.queue.head?) with
  | none => exact ⟨h.report _ _, .cons ⟨⟨.none, .none⟩, rfl, rfl⟩ under, rfl⟩
  | some handler =>
    have popped : (s.popped i).Alike R extra (t.popped j) := h.change at_ (fun _ => rfl) fun _ => rfl
    exact ⟨popped, .cons ⟨⟨.some at_, .some at_⟩, rfl, rfl⟩ under, rfl⟩

theorem alike_leave (h : s.Alike R extra t) (top : f.Alike R g)
    (under : List.Forall₂ (Frame.Alike R) below below') (failure : Option RouterError) :
    (leave s f below failure).Alike R extra (leave t g below' failure) := by
  unfold leave
  rw [top.guarded]
  split
  · exact ⟨h.observe _, under, rfl⟩
  · exact ⟨h, under, rfl⟩

/-- A handler that goes on with some actions. -/
theorem alike_goes_on (h : s.Alike R extra t) (top : f.Alike R g)
    (under : List.Forall₂ (Frame.Alike R) below below') {todo : List Action} (failure : Option RouterError) :
    (⟨s, { f with todo } :: below, failure⟩ : Machine).Alike R extra
      ⟨t, { g with todo } :: below', failure⟩ :=
  ⟨h, .cons ⟨top.scene, rfl, top.guarded⟩ under, rfl⟩

theorem alike_unwind (h : s.Alike R extra t) (top : f.Alike R g)
    (under : List.Forall₂ (Frame.Alike R) below below') (e : RouterError) :
    (unwind s f below e).Alike R extra (unwind t g below' e) := by
  unfold unwind
  rw [top.todo]
  split
  · exact alike_goes_on h top under none
  · exact alike_leave h top under (some e)

theorem alike_take (h : s.Alike R extra t) (top : f.Alike R g)
    (under : List.Forall₂ (Frame.Alike R) below below') (a : Action) :
    (take s f below a).Alike R extra (take t g below' a) := by
  have idle : (⟨s, f :: below, none⟩ : Machine).Alike R extra ⟨t, g :: below', none⟩ :=
    ⟨h, .cons top under, rfl⟩
  have used : ({ f with scene.next := none } : Frame).Alike R { g with scene.next := none } :=
    ⟨⟨top.scene.chain, .none⟩, top.todo, top.guarded⟩
  have chain := h.sceneChain? top.scene
  have about {body : List Action} {i j : ChainId} (at_ : R i j) :
      (⟨s, ⟨⟨some i, none⟩, body, false⟩ :: f :: below, none⟩ : Machine).Alike R extra
        ⟨t, ⟨⟨some j, none⟩, body, false⟩ :: g :: below', none⟩ :=
    ⟨h, .cons ⟨⟨.some at_, .none⟩, rfl, rfl⟩ (.cons top under), rfl⟩
  have carried {i j : ChainId} {c d : Chain} (at_ : R i j) (alike : c.Alike R d) (a : Action) :
      (⟨s.carryOut i c f.scene a, f :: below, none⟩ : Machine).Alike R extra
        ⟨t.carryOut j d g.scene a, g :: below', none⟩ :=
    ⟨h.carryOut at_ alike top.scene a, .cons top under, rfl⟩
  -- what an action asks for, a chain or a continuation, is there in both sessions or in neither
  cases a with
  | note data => exact ⟨h.observe _, .cons top under, rfl⟩
  | fail | failWith => exact ⟨h, .cons top under, rfl⟩
  | recover rescue => exact idle
  | consult choose =>
    simp only [take, h.sight top.scene, top.todo]
    exact alike_goes_on h top under none
  | next | nextCaught =>
    simp only [take]
    obtain ⟨left, right⟩ | ⟨i, j, left, right, at_⟩ := top.scene.next.either <;> simp only [left, right]
    · exact idle
    · exact alike_call h at_ _ (.cons used under)
  | park slot =>
    simp only [take]
    obtain ⟨left, right⟩ | ⟨i, j, left, right, at_⟩ := top.scene.next.either <;> simp only [left, right]
    · exact idle
    · exact ⟨h.park at_ slot, .cons used under, rfl⟩
  | resume slot =>
    simp only [take]
    obtain ⟨left, right⟩ | ⟨p, q, left, right, at_, alike⟩ := (h.unpark? slot).either <;>
      simp only [left, right]
    · exact idle
    · exact alike_call alike at_ false (.cons top under)
  | times counter limit body =>
    obtain ⟨same, counted⟩ := h.count counter
    simp only [take, same, top.todo]
    exact alike_goes_on counted top under none
  | observeRequest =>
    simp only [take, h.sceneRequest? top.scene]
    exact ⟨h.observe _, .cons top under, rfl⟩
  | perform name =>
    simp only [take, h.named name, top.todo]
    exact alike_goes_on h top under none
  | whenParam name value body =>
    simp only [take]
    obtain ⟨left, right⟩ | ⟨p, q, left, right, at_, alike⟩ := chain.either <;> simp only [left, right]
    · exact idle
    · simp only [alike.same (f := Chain.request) fun _ => rfl, top.todo]
      exact alike_goes_on h top under none
  | whenRoute route body =>
    simp only [take]
    obtain ⟨left, right⟩ | ⟨p, q, left, right, at_, alike⟩ := chain.either <;> simp only [left, right]
    · exact idle
    · simp only [alike.same (f := Chain.route) fun _ => rfl, top.todo]
      exact alike_goes_on h top under none
  | run =>
    simp only [take]
    obtain ⟨left, right⟩ | ⟨p, q, left, right, at_, alike⟩ := chain.either <;> simp only [left, right]
    · exact idle
    · have started : (s.modify p.1 Chain.start).Alike R extra (t.modify q.1 Chain.start) :=
        h.change at_ (fun _ => rfl) fun _ => rfl
      exact alike_call started at_ false (.cons top under)
  | onKept slot body =>
    simp only [take]
    obtain ⟨left, right⟩ | ⟨i, j, left, right, at_⟩ := (h.handles.lookup slot).either <;> simp only [left, right]
    · exact idle
    · exact about at_
  | onPrevious body =>
    simp only [take]
    obtain ⟨left, right⟩ | ⟨p, q, left, right, at_, alike⟩ := chain.either <;> simp only [left, right]
    · exact idle
    · obtain ⟨left, right⟩ | ⟨i, j, left, right, at_⟩ := (h.previous? at_).either <;> simp only [left, right]
      · exact idle
      · exact about at_
  | onParent body =>
    simp only [take]
    obtain ⟨left, right⟩ | ⟨p, q, left, right, at_, alike⟩ := chain.either <;> simp only [left, right]
    · exact idle
    · obtain ⟨left, right⟩ | ⟨i, j, left, right, at_⟩ := (h.parent? at_).either <;> simp only [left, right]
      · exact idle
      · exact about at_
  | _ =>
    simp only [take]
    obtain ⟨left, right⟩ | ⟨p, q, left, right, at_, alike⟩ := chain.either <;> simp only [left, right]
    · exact idle
    · exact carried at_ alike _

end

variable {m n : Machine}

theorem Alike.step (h : m.Alike R extra n) : m.step.Alike R extra n.step := by
  obtain ⟨s, frames, failure⟩ := m
  obtain ⟨t, frames', failure'⟩ := n
  obtain ⟨session, under, rfl⟩ := h
  cases under with
  | nil => exact ⟨session, .nil, rfl⟩
  | @cons f g below below' top under =>
    cases failure' with
    | some e => exact alike_unwind session top under e
    | none =>
      obtain ⟨scene, todo, guarded⟩ := f
      obtain ⟨scene', todo', guarded'⟩ := g
      obtain rfl : todo' = todo := top.todo
      cases todo' with
      | nil => exact alike_leave session top under none
      | cons a rest =>
        have on : (⟨scene, rest, guarded⟩ : Frame).Alike R ⟨scene', rest, guarded'⟩ :=
          ⟨top.scene, rfl, top.guarded⟩
        exact alike_take session on under a

theorem Alike.isEmpty (h : m.Alike R extra n) : n.frames.isEmpty = m.frames.isEmpty := by
  obtain ⟨s, frames, failure⟩ := m
  obtain ⟨t, frames', failure'⟩ := n
  obtain ⟨-, under, -⟩ := h
  cases under <;> rfl

theorem Alike.run (h : m.Alike R extra n) (limit : Nat) :
    Option.Rel (Machine.Alike R extra) (m.run limit) (n.run limit) := by
  induction limit generalizing m n with
  | zero =>
    simp only [Machine.run, h.isEmpty]
    split
    · exact .some h
    · exact .none
  | succ limit ih =>
    simp only [Machine.run, h.isEmpty]
    split
    · exact .some h
    · exact ih h.step

theorem Alike.result (h : m.Alike R extra n) :
    n.result.1 = m.result.1 ∧ m.result.2.Alike R extra n.result.2 := by
  unfold Machine.result
  rw [h.failure]
  split
  · exact ⟨rfl, h.session⟩
  · exact ⟨rfl, h.session⟩

end Machine

/-! ## Calls -/

/-- The chain whose next handler is called. -/
def ChainAct.callee? : ChainAct → Option ChainId
  | .run id _ | .call id _ => some id
  | _ => none

/-- The same action calls a handler of chains that correspond. -/
theorem Action.callee?_alike {s t : Session} (h : s.Alike R extra t) {a b : Scene} (scene : a.Alike R b)
    (action : Action) :
    Option.Rel R ((action.act? s a).bind ChainAct.callee?) ((action.act? t b).bind ChainAct.callee?) := by
  have chain := h.sceneChain? scene
  have none {x y : Option (ChainId × Chain)} (f : ChainId × Chain → ChainAct)
      (no_call : ∀ p, (f p).callee? = none) :
      Option.Rel R ((x.map f).bind ChainAct.callee?) ((y.map f).bind ChainAct.callee?) := by
    cases x <;> cases y <;> simp [no_call]
  cases action with
  | next | nextCaught =>
    simp only [act?, Option.bind_map]
    exact scene.next.bind fun _ _ at_ => .some at_
  | resume slot =>
    simp only [act?, Option.bind_map]
    exact (h.parked.lookup slot).bind fun _ _ at_ => .some at_
  | run =>
    simp only [act?, Option.bind_map]
    exact chain.bind fun _ _ both => .some both.1
  | enqueue | enqueueAt | preventDefault | stopPropagation | navigate => exact none _ fun _ => rfl
  | _ => exact .none

/-- The handler that a call of a chain would call, and the request that is handed to it. -/
def Session.invocation (s : Session) (id : ChainId) : Option (Handler × Option Request) :=
  (s.upNext id).map fun (id, h) => (h, (s.chain? id).map Chain.request)

theorem Session.Alike.invocation {s t : Session} (h : s.Alike R extra t) {i j : ChainId} (at_ : R i j) :
    t.invocation j = s.invocation i := by
  have request : (t.chain? j).map Chain.request = (s.chain? i).map Chain.request :=
    ((h.chain? at_).map_eq fun _ _ alike => (alike.same (f := Chain.request) fun _ => rfl).symm).symm
  simp only [Session.invocation, upNext, Option.map_map, h.head? at_]
  cases (s.chain? i).bind (·.queue.head?) with
  | none => rfl
  | some handler => exact congrArg (fun request => some (handler, request)) request

namespace Machine

/-- The handler that the next step calls, and the request that is handed to it. -/
def invoked? (m : Machine) : Option (Handler × Option Request) :=
  (m.nextAct?.bind ChainAct.callee?).bind m.session.invocation

variable {m n : Machine}

theorem Alike.callee? (h : m.Alike R extra n) :
    Option.Rel R (m.nextAct?.bind ChainAct.callee?) (n.nextAct?.bind ChainAct.callee?) := by
  obtain ⟨s, frames, failure⟩ := m
  obtain ⟨t, frames', failure'⟩ := n
  obtain ⟨session, under, rfl⟩ := h
  cases failure' with
  | some e => exact .none
  | none =>
    cases under with
    | nil => exact .none
    | @cons f g below below' top under =>
      obtain ⟨scene, todo, guarded⟩ := f
      obtain ⟨scene', todo', guarded'⟩ := g
      obtain rfl : todo' = todo := top.todo
      cases todo' with
      | nil => exact .none
      | cons a rest => exact Action.callee?_alike session top.scene a

theorem Alike.invoked? (h : m.Alike R extra n) : n.invoked? = m.invoked? := by
  rw [Machine.invoked?, Machine.invoked?]
  obtain ⟨left, right⟩ | ⟨i, j, left, right, at_⟩ := h.callee?.either <;> rw [left, right]
  · rfl
  · exact h.session.invocation at_

/-- What there is to say of machines that are alike. -/
theorem Alike.collect {ε : Type} {f : Machine → Option ε}
    (same : ∀ {m n : Machine}, m.Alike R extra n → f n = f m) (h : m.Alike R extra n) (limit : Nat) :
    n.collect f limit = m.collect f limit := by
  induction limit generalizing m n with
  | zero => rfl
  | succ limit ih => simp only [Machine.collect, h.isEmpty, same h, ih h.step]

/-! ## Handlers that prevent the default -/

/-- The next step does nothing, or prevents the default of one chain. -/
def Idles (id : ChainId) (m : Machine) : Prop :=
  m.step.failure = none ∧ (m.nextAct? = some (.preventDefault id) ∨
    (m.nextAct? = none ∧ m.step.session = m.session))

theorem session_of_preventDefault {id : ChainId} (next : m.nextAct? = some (.preventDefault id)) :
    m.step.session = m.session.modify id Chain.preventDefault := by
  obtain ⟨s, frames, failure⟩ := m
  match failure, frames with
  | some e, _ => simp [nextAct?] at next
  | none, [] => simp [nextAct?] at next
  | none, ⟨scene, [], guarded⟩ :: below => simp [nextAct?] at next
  | none, ⟨scene, a :: rest, guarded⟩ :: below =>
    change a.act? s scene = _ at next
    cases a with
    | preventDefault =>
      obtain ⟨⟨i, c⟩, here, same⟩ := Option.map_eq_some_iff.1 next
      obtain rfl := ChainAct.preventDefault.inj same
      simp only [Machine.step, take, here]
      rfl
    | _ => simp [Action.act?] at next

theorem Idles.invoked? {id : ChainId} (h : m.Idles id) : m.invoked? = none := by
  rw [Machine.invoked?]
  obtain ⟨-, next | ⟨next, -⟩⟩ := h <;> rw [next] <;> rfl

/-- As long as no more is done than to prevent the default, no handler is called. -/
theorem no_invocation_of_idle {id : ChainId} {limit : Nat} (idle : ∀ m' ∈ m.course limit, m'.Idles id) :
    m.collect Machine.invoked? limit = [] := by
  induction limit generalizing m with
  | zero => rfl
  | succ limit ih =>
    simp only [course, Machine.collect] at idle ⊢
    split at idle
    · next done => rw [if_pos done]
    · next busy =>
      have here : m.Idles id := idle m (List.mem_append_left _ (List.mem_singleton.2 rfl))
      rw [if_neg busy, here.invoked?, ih fun m' later => idle m' (List.mem_append_right _ later)]
      rfl

/-- What is done to a chain that corresponds to none leaves the session alike. -/
theorem run_of_idle {id : ChainId} {limit : Nat} {m' : Machine} {t : Session} (ready : m.failure = none)
    (idle : ∀ m' ∈ m.course limit, m'.Idles id) (out : ∀ j, ¬ R id j)
    (alike : m.session.Alike R extra t) (ran : m.run limit = some m') :
    m'.failure = none ∧ m'.session.Alike R extra t := by
  induction limit generalizing m with
  | zero =>
    simp only [Machine.run] at ran
    split at ran
    · obtain rfl := Option.some.inj ran
      exact ⟨ready, alike⟩
    · cases ran
  | succ limit ih =>
    simp only [Machine.run] at ran
    simp only [course, Machine.collect] at idle
    split at ran
    · obtain rfl := Option.some.inj ran
      exact ⟨ready, alike⟩
    · next busy =>
      rw [if_neg busy] at idle
      obtain ⟨fine, did⟩ := idle m (List.mem_append_left _ (List.mem_singleton.2 rfl))
      refine ih fine (fun m' later => idle m' (List.mem_append_right _ later)) ?_ ran
      obtain next | ⟨-, same⟩ := did
      · rw [session_of_preventDefault next]
        exact alike.modify_more out Chain.preventDefault
      · rwa [same]

end Machine

end Routing
