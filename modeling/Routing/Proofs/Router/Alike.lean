import Routing.Proofs.Router.Veto
import Routing.Proofs.Session.AlikeRuns

/-!
# Routers that are alike

Two routers that have the same listeners and show the same path, on sessions that are alike, evaluate a route
alike, whatever their routes are.

* `Router.Alike`: alike up to the numbers of chains
* `Showing`, `Turn.showings`: what listeners and handlers are given in an evaluation
* `Turn.Alike.evaluate`, `Turn.Alike.showings`: an evaluation in both routers
-/
namespace Routing

open Router

variable {L : Type} [Host L]

variable {R : Renumbering} {extra : Observation → Prop} {limit : Nat}

/-! ## Listeners -/

/-- What is given to a listener or to a handler. -/
inductive Showing where
  | told (l : Listener) (o : Observation)
  | called (h : Handler) (request : Option Request)

def Showing.ofCall : Handler × Option Request → Showing
  | (h, request) => .called h request

/-- What is shown while listeners are told of an event. -/
def Session.tellShowings (limit : Nat) (e : Event) : List Listener → Session → List Showing :=
  tellTrace (fun l m => .told l e.observation :: (m.collect Machine.invoked? limit).map .ofCall) limit e

/-- What ends in the same way, with sessions that are alike. -/
theorem Session.running_alike {s t : Session} {start start' : Session → Machine}
    (h : (start s).Alike R extra (start' t)) :
    Option.Rel (fun o o' => o'.1 = o.1 ∧ o.2.Alike R extra o'.2) ((running limit start).start s)
      ((running limit start').start t) :=
  (h.run limit).map fun _ _ ended => ended.result

namespace Session.Alike

variable {s t : Session} {e e' : Event}

/-- Two sessions when a listener is told of an event that is the same in both. -/
theorem hearing (h : s.Alike R extra t) (same : e'.observation = e.observation)
    (chain : Option.Rel R e.chain? e'.chain?) (l : Listener) :
    (l.hearing e s).Alike R extra (l.hearing e' t) := by
  refine ⟨?_, .cons ⟨⟨chain, .none⟩, rfl, rfl⟩ .nil, rfl⟩
  rw [Listener.hearing, Listener.hearing, same]
  exact h.observe _

theorem hear (h : s.Alike R extra t) (same : e'.observation = e.observation)
    (chain : Option.Rel R e.chain? e'.chain?) (l : Listener) :
    Option.Rel (fun o o' => o.2.Alike R extra o'.2) ((l.hear limit e).start s)
      ((l.hear limit e').start t) := by
  rw [Listener.start_hear, Listener.start_hear, same]
  have acted : Option.Rel (fun o o' => o'.1 = o.1 ∧ o.2.Alike R extra o'.2)
      ((Session.act limit e.chain? l.actions).start (s.observe e.observation))
      ((Session.act limit e'.chain? l.actions).start (t.observe e.observation)) :=
    Session.running_alike ⟨h.observe _, .cons ⟨⟨chain, .none⟩, rfl, rfl⟩ .nil, rfl⟩
  refine acted.map fun o o' both => ?_
  obtain ⟨result, u⟩ := o
  obtain ⟨result', u'⟩ := o'
  obtain ⟨rfl, alike⟩ := both
  cases result' with
  | ok _ => exact alike
  | error failure => exact alike.observe _

theorem tell (h : s.Alike R extra t) (limit : Nat) (same : e'.observation = e.observation)
    (chain : Option.Rel R e.chain? e'.chain?) (ls : List Listener) :
    Option.Rel (Session.Alike R extra) (s.tell limit e ls) (t.tell limit e' ls) := by
  induction ls generalizing s t with
  | nil => exact .some h
  | cons l ls ih =>
    simp only [Session.tell, List.foldlM_cons]
    refine ((h.hear same chain l).map (f := Prod.snd) (g := Prod.snd) fun _ _ both => both).bind
      fun u u' alike => ?_
    exact ih alike

theorem tellTrace {ε : Type} {f : Listener → Machine → List ε}
    (blind : ∀ l {m n : Machine}, m.Alike R extra n → f l n = f l m) (h : s.Alike R extra t)
    (same : e'.observation = e.observation) (chain : Option.Rel R e.chain? e'.chain?) (ls : List Listener) :
    t.tellTrace f limit e' ls = s.tellTrace f limit e ls := by
  induction ls generalizing s t with
  | nil => rfl
  | cons l ls ih =>
    simp only [Session.tellTrace, blind l (h.hearing same chain l)]
    congr 1
    obtain ⟨left, right⟩ | ⟨o, o', left, right, alike⟩ := (h.hear same chain l).either <;>
      rw [left, right]
    · rfl
    · exact ih alike

theorem tellShowings (h : s.Alike R extra t) (same : e'.observation = e.observation)
    (chain : Option.Rel R e.chain? e'.chain?) (ls : List Listener) :
    t.tellShowings limit e' ls = s.tellShowings limit e ls := by
  rw [Session.tellShowings, Session.tellShowings, same]
  refine h.tellTrace (fun l m n alike => ?_) same chain ls
  rw [alike.collect (f := Machine.invoked?) fun alike => alike.invoked?]

end Session.Alike

/-! ## Routers -/

/-- The routers differ in nothing that an evaluation looks at, up to the numbers of chains. -/
structure Router.Alike (R : Renumbering) (extra : Observation → Prop) (r q : Router L) : Prop where
  options : q.options = r.options
  location : q.location = r.location
  globals : q.globals = r.globals
  listeners : q.listeners = r.listeners
  current : Option.Rel R r.current q.current
  session : r.session.Alike R extra q.session

namespace Turn

/-- What is shown in an evaluation: listeners are told of the match, and the chain runs. -/
def showings (limit : Nat) (t : Turn L) : List Showing :=
  if t.request.matched then
    t.opened.tellShowings limit t.event (t.before.listenersOf .matched) ++
      (t.entrance? limit).elim [] fun e =>
        if e.ran then
          let started := e.moment.session.modify t.id Chain.start
          ((started.invocation t.id).toList ++
            (Machine.call started t.id false []).collect Machine.invoked? limit).map .ofCall
        else []
  else []

theorem showings_of_unmatched {t : Turn L} (limit : Nat) (miss : t.request.matched = false) :
    t.showings limit = [] := by
  rw [showings, miss]
  rfl

end Turn

namespace Router.Alike

variable {r q : Router L}

theorem path (h : r.Alike R extra q) : q.path = r.path := by
  rw [Router.path, Router.path, h.options, h.location]

theorem listenersOf (h : r.Alike R extra q) (kind : EventKind) : q.listenersOf kind = r.listenersOf kind := by
  rw [Router.listenersOf, Router.listenersOf, h.listeners]

theorem with_session (h : r.Alike R extra q) {s t : Session} (alike : s.Alike R extra t) :
    Router.Alike R extra { r with session := s } { q with session := t } :=
  ⟨h.options, h.location, h.globals, h.listeners, h.current, alike⟩

theorem admitted (h : r.Alike R extra q) {i j : ChainId} (at_ : R i j) : q.admitted j = r.admitted i := by
  obtain ⟨c, d, hc, hd, alike⟩ := h.session.chains at_
  rw [Router.admitted, Router.admitted, hc, hd]
  exact alike.same (f := Chain.runsDefault) fun _ => rfl

theorem vetoed (h : r.Alike R extra q) {i j : ChainId} (at_ : R i j) : q.vetoed j = r.vetoed i := by
  have before : ((q.session.parent? j).bind q.session.chain?).map Chain.propagates =
      ((r.session.parent? i).bind r.session.chain?).map Chain.propagates := by
    refine (((h.session.parent? at_).bind fun _ _ there => h.session.chain? there).map_eq
      fun c d alike => ?_).symm
    exact (alike.same (f := Chain.propagates) fun _ => rfl).symm
  have any {x : Option Chain} : x.any (fun c => !c.propagates) = (x.map Chain.propagates).any (!·) := by
    cases x <;> rfl
  rw [Router.vetoed, Router.vetoed, any, any, before]

end Router.Alike

/-! ## Turns -/

/-- Two operations have ended in the same way, and the routers are alike. -/
def EndAlike {α : Type} (R : Renumbering) (extra : Observation → Prop)
    (o o' : Except RouterError α × Router L) : Prop :=
  o'.1 = o.1 ∧ o.2.Alike R extra o'.2

/-- If the route matches, the chains that are made for it in the two routers correspond. -/
def Renumbering.after (R : Renumbering) (t u : Turn L) : Renumbering :=
  if t.request.matched then R.insert t.id u.id else R

/-- One route is evaluated on routers that are alike. -/
structure Turn.Alike (R : Renumbering) (extra : Observation → Prop) (t u : Turn L) : Prop where
  route : u.route = t.route
  before : t.before.Alike R extra u.before

namespace Turn.Alike

variable {t u : Turn L}

theorem request (h : t.Alike R extra u) : u.request = t.request := by
  rw [Turn.request, Turn.request, h.route, h.before.path]

theorem observation (h : t.Alike R extra u) : u.event.observation = t.event.observation := by
  simp only [Turn.event, Event.observation, h.route, h.request]

theorem opened (h : t.Alike R extra u) : t.opened.Alike (R.insert t.id u.id) extra u.opened := by
  have made : u.made = t.made := by
    rw [Turn.made, Turn.made, h.request, h.route, h.before.globals]
  have before : (t.reported.session.report [t.matchLog]).Alike R extra
      (u.reported.session.report [u.matchLog]) := (h.before.session.report _ _).report _ _
  have created := before.create t.made rfl
  have enqueued := created.enqueue (.inr ⟨rfl, rfl⟩) t.route.handlers
  rw [Turn.opened, Turn.opened, made, h.route]
  exact enqueued

/-- The chains that are made correspond. -/
theorem new (R : Renumbering) (t u : Turn L) : R.insert t.id u.id t.id u.id :=
  .inr ⟨rfl, rfl⟩

theorem heard (h : t.Alike R extra u) (limit : Nat) :
    Option.Rel (Router.Alike (R.insert t.id u.id) extra) (t.heard? limit) (u.heard? limit) := by
  have told := h.opened.tell limit h.observation (.some (new R t u))
    (t.before.listenersOf .matched)
  rw [Turn.heard?, Turn.heard?, h.before.listenersOf]
  refine told.map fun s s' alike => ?_
  have current := h.before.current.imp fun _ _ there => (.inl there : R.insert t.id u.id _ _)
  exact ⟨h.before.options, h.before.location, h.before.globals, h.before.listeners, current, alike⟩

theorem entrance {heard heard' : Router L} (alike : heard.Alike (R.insert t.id u.id) extra heard') :
    (t.entrance heard).moment.Alike (R.insert t.id u.id) extra (u.entrance heard').moment ∧
      (u.entrance heard').ran = (t.entrance heard).ran := by
  have moment : (t.entrance heard).moment.Alike (R.insert t.id u.id) extra (u.entrance heard').moment :=
    ⟨alike.options, alike.location, alike.globals, alike.listeners, .some (new R t u),
      alike.session.link (new R t u) alike.current⟩
  exact ⟨moment, congrArg (!·) (moment.vetoed (new R t u))⟩

/-- A chain runs alike in both routers, and asks for the same. -/
theorem runs {moment moment' : Router L} (h : moment.Alike (R.insert t.id u.id) extra moment') :
    Option.Rel (EndAlike (R.insert t.id u.id) extra) (t.runs limit moment) (u.runs limit moment') := by
  have started : (moment.session.modify t.id Chain.start).Alike (R.insert t.id u.id) extra
      (moment'.session.modify u.id Chain.start) := h.session.change (new R t u) (fun _ => rfl) fun _ => rfl
  have ran : Option.Rel (fun o o' => o'.1 = o.1 ∧ o.2.Alike (R.insert t.id u.id) extra o'.2)
      ((Session.run limit t.id).start moment.session) ((Session.run limit u.id).start moment'.session) :=
    Session.running_alike (Machine.alike_call started (new R t u) false .nil)
  refine ran.map fun o o' ended => ?_
  obtain ⟨result, s⟩ := o
  obtain ⟨result', s'⟩ := o'
  obtain ⟨rfl, alike⟩ := ended
  cases result' with
  | ok _ =>
    obtain ⟨asked, taken⟩ := alike.takeRedirect (new R t u)
    exact ⟨congrArg Except.ok asked, h.with_session taken⟩
  | error e => exact ⟨rfl, h.with_session (alike.report _ _)⟩

theorem silenced {moment moment' : Router L} (h : moment.Alike (R.insert t.id u.id) extra moment') :
    (t.silenced moment).Alike (R.insert t.id u.id) extra (u.silenced moment') := by
  have stopped := h.session.change (new R t u) (f := Chain.stopPropagation) (fun _ => rfl) fun _ => rfl
  exact h.with_session (stopped.report _ _)

theorem evaluate (h : t.Alike R extra u) (limit : Nat) :
    Option.Rel (EndAlike (R.after t u) extra) ((evaluate limit t.route).start t.before)
      ((evaluate limit u.route).start u.before) := by
  rw [Turn.start_evaluate, Turn.start_evaluate, Turn.fate?, Turn.fate?, h.request, Renumbering.after]
  cases t.request.matched with
  | false => exact .some ⟨rfl, h.before.with_session (h.before.session.report _ _)⟩
  | true =>
    simp only [if_true, Option.bind_map]
    refine (h.heard limit).bind fun heard heard' alike => ?_
    have entered := entrance alike
    simp only [Function.comp_apply, alike.admitted (new R t u)]
    cases heard.admitted t.id with
    | false => exact .some ⟨rfl, alike.with_session (alike.session.report _ _)⟩
    | true =>
      simp only [if_true, ending, entered.2]
      cases (t.entrance heard).ran with
      | false => exact .some ⟨rfl, silenced entered.1⟩
      | true => exact runs entered.1

theorem entrance? (h : t.Alike R extra u) (limit : Nat) (hit : t.request.matched = true) :
    Option.Rel (fun e e' => e'.ran = e.ran ∧ e.moment.Alike (R.insert t.id u.id) extra e'.moment)
      (t.entrance? limit) (u.entrance? limit) := by
  have hit' : u.request.matched = true := by rw [h.request, hit]
  simp only [Turn.entrance?, Turn.fate?, hit, hit', if_true]
  obtain ⟨left, right⟩ | ⟨heard, heard', left, right, alike⟩ := (h.heard limit).either
  · simp only [left, right]
    exact .none
  · have entered := entrance alike
    simp only [left, right, Option.map_some, alike.admitted (new R t u)]
    cases heard.admitted t.id with
    | false => exact .none
    | true => exact .some ⟨entered.2, entered.1⟩

theorem showings (h : t.Alike R extra u) : u.showings limit = t.showings limit := by
  rw [Turn.showings, Turn.showings, h.request]
  cases hit : t.request.matched with
  | false => rfl
  | true =>
    simp only [if_true, h.opened.tellShowings h.observation (.some (new R t u)), h.before.listenersOf]
    congr 1
    obtain ⟨left, right⟩ | ⟨e, e', left, right, ran, moment⟩ := (h.entrance? limit hit).either
    · rw [left, right]
      rfl
    · rw [left, right, Option.elim_some, Option.elim_some, ran]
      have started : (e.moment.session.modify t.id Chain.start).Alike (R.insert t.id u.id) extra
          (e'.moment.session.modify u.id Chain.start) :=
        moment.session.change (new R t u) (fun _ => rfl) fun _ => rfl
      have called := Machine.alike_call started (new R t u) false .nil
      rw [started.invocation (new R t u), called.collect (f := Machine.invoked?) fun alike => alike.invoked?]

end Turn.Alike

end Routing
