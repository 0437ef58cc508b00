import Routing.Proofs.Session.Aging
import Routing.Router.Cycle

/-!
# Turns

A router evaluates one route after another, each on the path that it shows then.

* `Turn`: a route that is evaluated, and the router before that
* `Turn.fate?`: how far the route comes
* `Turn.start_evaluate`: the evaluation goes on as the fate says
* `Turn.entrance?`: the moment at which its chain becomes the current one
* `Turn.keeps_and_grown`: what no evaluation touches
-/
namespace Routing

variable {L : Type} [Host L]

/-! ## Telling listeners -/

/-- The session after listeners were told of an event, one by one; `none` if one of them does not end. -/
def Session.tell (limit : Nat) (e : Event) (ls : List Listener) (s : Session) : Option Session :=
  ls.foldlM (fun s l => ((l.hear limit e).start s).map Prod.snd) s

/-- A listener that is being told of an event. -/
def Listener.hearing (e : Event) (l : Listener) (s : Session) : Machine :=
  ⟨s.observe e.observation, [⟨⟨e.chain?, none⟩, l.actions, false⟩], none⟩

/-- What there is to say of listeners, one by one, while they are told of an event. -/
def Session.tellTrace {ε : Type} (f : Listener → Machine → List ε) (limit : Nat) (e : Event) :
    List Listener → Session → List ε
  | [], _ => []
  | l :: ls, s =>
    f l (l.hearing e s) ++ ((l.hear limit e).start s).elim [] fun o => tellTrace f limit e ls o.2

/-- What happens to a listener is never a failure of the router. -/
theorem Listener.start_hear (limit : Nat) (e : Event) (l : Listener) (s : Session) :
    (l.hear limit e).start s =
      ((Session.act limit e.chain? l.actions).start (s.observe e.observation)).map fun
        | (.ok (), t) => (.ok (), t)
        | (.error failure, t) => (.ok (), t.observe (.caught (some failure))) := by
  simp only [hear, Operation.start_bind, Operation.start_modify, Option.bind_some,
    Operation.start_tryCatch]
  cases (Session.act limit e.chain? l.actions).start (s.observe e.observation) with
  | none => rfl
  | some o =>
    obtain ⟨_ | _, t⟩ := o <;> rfl

theorem Listener.hear_aged {limit : Nat} {e : Event} {l : Listener} {s t : Session}
    {out : Except RouterError Unit} (h : (l.hear limit e).start s = some (out, t)) :
    out = .ok () ∧ s.Aged t := by
  rw [start_hear] at h
  obtain ⟨⟨result, u⟩, acted, same⟩ := Option.map_eq_some_iff.1 h
  have aged : s.Aged u := ((Session.Aged.refl s).observe _).trans (Session.act_aged acted)
  cases result with
  | ok _ =>
    obtain ⟨rfl, rfl⟩ := Prod.mk.inj same
    exact ⟨rfl, aged⟩
  | error failure =>
    obtain ⟨rfl, rfl⟩ := Prod.mk.inj same
    exact ⟨rfl, aged.observe _⟩

theorem Session.tell_aged {limit : Nat} {e : Event} {ls : List Listener} {s t : Session}
    (h : s.tell limit e ls = some t) : s.Aged t := by
  induction ls generalizing s with
  | nil =>
    obtain rfl := Option.some.inj h
    exact .refl s
  | cons l ls ih =>
    obtain ⟨u, heard, rest⟩ := Option.bind_eq_some_iff.1 h
    obtain ⟨⟨out, v⟩, first, rfl⟩ := Option.map_eq_some_iff.1 heard
    exact (Listener.hear_aged first).2.trans (ih rest)

namespace Router

theorem start_report (records : List Log.Record) (r : Router L) :
    (report records).start r = some (.ok (), { r with session := r.session.report records }) :=
  rfl

theorem start_announce (limit : Nat) (e : Event) (r : Router L) :
    (announce limit e).start r =
      (r.session.tell limit e (r.listenersOf e.kind)).map fun s =>
        (.ok (), { r with session := s }) := by
  have told (ls : List Listener) (r : Router L) :
      (ls.forM fun l => inSession (l.hear limit e)).start r =
        (r.session.tell limit e ls).map fun s => (.ok (), { r with session := s }) := by
    induction ls generalizing r with
    | nil => rfl
    | cons l ls ih =>
      change (inSession (l.hear limit e) >>= fun _ =>
        ls.forM fun l => inSession (l.hear limit e)).start r = _
      simp only [Session.tell, List.foldlM_cons, Operation.start_bind, inSession,
        Operation.start_within]
      cases first : (l.hear limit e).start r.session with
      | none => rfl
      | some o =>
        obtain ⟨out, s⟩ := o
        obtain ⟨rfl, -⟩ := Listener.hear_aged first
        exact ih { r with session := s }
  simp only [announce, Operation.start_bind, Operation.start_get, Option.bind_some]
  exact told _ r

/-- Only the session and the current chain may have changed. -/
structure Keeps (r r' : Router L) : Prop where
  options : r'.options = r.options
  location : r'.location = r.location
  globals : r'.globals = r.globals
  routes : r'.routes = r.routes
  listeners : r'.listeners = r.listeners
  redirectDepth : r'.redirectDepth = r.redirectDepth
  cache : r'.cache = r.cache

theorem keeps_of_session (r : Router L) (s : Session) (current : Option ChainId) :
    r.Keeps { r with session := s, current := current } :=
  ⟨rfl, rfl, rfl, rfl, rfl, rfl, rfl⟩

theorem Keeps.refl (r : Router L) : r.Keeps r :=
  r.keeps_of_session r.session r.current

theorem Keeps.trans {a b c : Router L} (h : a.Keeps b) (k : b.Keeps c) : a.Keeps c :=
  ⟨k.options.trans h.options, k.location.trans h.location, k.globals.trans h.globals,
    k.routes.trans h.routes, k.listeners.trans h.listeners,
    k.redirectDepth.trans h.redirectDepth, k.cache.trans h.cache⟩

end Router

/-! ## Turns -/

/-- A route that is evaluated, and the router before the evaluation. -/
structure Turn (L : Type) [Host L] where
  route : Route
  before : Router L

/-- A chain that became the current one: its route matched, and no listener cancelled it. -/
structure Entrance (L : Type) [Host L] where
  id : ChainId
  /-- The router when the chain has just become the current one. -/
  moment : Router L
  /-- The router starts the chain. Otherwise the chain before has a veto. -/
  ran : Bool

/-- How far a route comes. -/
inductive Fate (L : Type) [Host L] where
  | unmatched
  | cancelled (heard : Router L)
  | entered (e : Entrance L)

namespace Turn

def request (t : Turn L) : Request :=
  t.route.pattern.parse t.before.path

/-- The number of the chain that is made if the route matches. -/
def id (t : Turn L) : ChainId :=
  t.before.session.chains.length

def event (t : Turn L) : Event :=
  .matched t.id t.route.pattern.source t.request.path

def reported (t : Turn L) : Router L :=
  { t.before with session := t.before.session.report (t.route.pattern.parseLog t.request) }

def matchLog (t : Turn L) : Log.Record :=
  Log.debug ("Route '" ++ t.route.pattern.source ++ "' matched '" ++ t.request.path ++ "'")

/-- The chain before it has its handlers. -/
def made (t : Turn L) : Chain :=
  .opened t.request.path (t.route.pattern.context t.request) t.before.globals

/-- The chain was made, and nobody was told yet. -/
def opened (t : Turn L) : Session :=
  ((t.reported.session.report [t.matchLog]).create t.made).2.enqueue t.id t.route.handlers

/-- The listeners were told. -/
def heard? (limit : Nat) (t : Turn L) : Option (Router L) :=
  (t.opened.tell limit t.event (t.before.listenersOf .matched)).map fun s =>
    { t.before with session := s }

/-- The chain becomes the current one. -/
def entrance (t : Turn L) (heard : Router L) : Entrance L :=
  let moment := { heard with
    session := heard.session.link t.id heard.current, current := some t.id }
  ⟨t.id, moment, !moment.vetoed t.id⟩

/-- How far the route comes; `none` if a listener does not end. -/
def fate? (limit : Nat) (t : Turn L) : Option (Fate L) :=
  if t.request.matched then
    (t.heard? limit).map fun heard =>
      if heard.admitted t.id then .entered (t.entrance heard) else .cancelled heard
  else some .unmatched

def entrance? (limit : Nat) (t : Turn L) : Option (Entrance L) :=
  match t.fate? limit with
  | some (.entered e) => some e
  | _ => none

def cancelLog (t : Turn L) : Log.Record :=
  Log.debug ("Dispatch of '" ++ t.route.pattern.source ++ "' cancelled by a match listener")

def vetoLog (t : Turn L) : Log.Record :=
  Log.debug ("Route '" ++ t.route.pattern.source ++ "' vetoed by an earlier route on '" ++
    t.request.path ++ "'")

def failureLog (t : Turn L) (e : RouterError) : Log.Record :=
  Log.error ("Route '" ++ t.route.pattern.source ++ "' failed on '" ++ t.request.path ++ "': " ++
    e.message)

/-- The run of a chain, and what the chain asks for then. -/
def runs (limit : Nat) (t : Turn L) (moment : Router L) :
    Option (Except RouterError (Option String) × Router L) :=
  ((Session.run limit t.id).start moment.session).map fun
    | (.ok (), s) =>
      (.ok ((s.chain? t.id).bind (·.redirect)), { moment with session := (s.takeRedirect t.id).2 })
    | (.error e, s) => (.error e, { moment with session := s.report [t.failureLog e] })

/-- The router when the chain was vetoed. -/
def silenced (t : Turn L) (moment : Router L) : Router L :=
  { moment with
    session := (moment.session.modify t.id Chain.stopPropagation).report [t.vetoLog] }

/-- The end of an evaluation: what the chain asks for, or its failure. -/
def ending (limit : Nat) (t : Turn L) : Fate L → Option (Except RouterError (Option String) × Router L)
  | .unmatched => some (.ok none, t.reported)
  | .cancelled heard =>
    some (.ok none, { heard with session := heard.session.report [t.cancelLog] })
  | .entered e => if e.ran then t.runs limit e.moment else some (.ok none, t.silenced e.moment)

/-- A chain that is not vetoed is run, and asked for a redirect. -/
theorem start_runCurrent (limit : Nat) (t : Turn L) (heard : Router L) :
    (Router.runCurrent limit t.route t.request t.id).start (t.entrance heard).moment =
      t.ending limit (.entered (t.entrance heard)) := by
  have decided : (t.entrance heard).ran = !(t.entrance heard).moment.vetoed t.id := rfl
  simp only [Router.runCurrent, Operation.start_bind, Operation.start_get, Option.bind_some, ending,
    decided]
  cases (t.entrance heard).moment.vetoed t.id with
  | true => rfl
  | false =>
    simp only [runs, Router.start, Router.inSession]
    change ((tryCatch _ _ : Operation (Router L) Unit) >>= _).start (t.entrance heard).moment = _
    simp only [Operation.start_bind, Operation.start_tryCatch, Operation.start_within]
    cases (Session.run limit t.id).start (t.entrance heard).moment.session with
    | none => rfl
    | some o => obtain ⟨_ | _, s⟩ := o <;> rfl

/-- An evaluation goes as far as its fate says. It does not end if a listener or the chain does not. -/
theorem start_evaluate (limit : Nat) (t : Turn L) :
    (Router.evaluate limit t.route).start t.before = (t.fate? limit).bind (t.ending limit) := by
  unfold fate?
  simp only [Router.evaluate, Operation.start_bind, Operation.start_get, Option.bind_some,
    Router.start_report]
  change (if t.request.matched then Router.enter limit t.route t.request else pure none).start
    t.reported = _
  split
  · have heard : (Router.announce limit t.event).start { t.before with session := t.opened } =
        (t.heard? limit).map fun r => (.ok (), r) := by
      rw [Router.start_announce, heard?, Option.map_map]
      rfl
    simp only [Router.enter, Operation.start_bind, Router.start_report, Option.bind_some,
      Router.openChain, Operation.start_modifyGet]
    change ((Router.announce limit t.event).start { t.before with session := t.opened }).bind _ = _
    rw [heard]
    cases t.heard? limit with
    | none => rfl
    | some r =>
      simp only [Option.map_some, Option.bind_some, Operation.start_get]
      change (if r.admitted t.id then _ else _ : Operation (Router L) _).start r = _
      split
      · exact start_runCurrent limit t r
      · rfl
  · rfl

theorem start_evaluate_of_unmatched {t : Turn L} (limit : Nat) (miss : t.request.matched = false) :
    (Router.evaluate limit t.route).start t.before = some (.ok none, t.reported) := by
  rw [start_evaluate, fate?, miss]
  rfl

/-! ## What a turn leaves -/

theorem chain?_opened (t : Turn L) :
    t.opened.chain? t.id = some (t.made.enqueue t.route.handlers) := by
  rw [opened, Session.chain?_enqueue, if_pos rfl, Session.chain?_create]
  exact congrArg _ (if_pos rfl)

theorem grown_opened (t : Turn L) : t.before.session.Grown t.opened := by
  have reported : t.before.session.Aged (t.reported.session.report [t.matchLog]) :=
    ((Session.Aged.refl _).report _).report _
  exact (reported.grown.trans (Session.grown_create _ t.made)).trans (Session.aged_enqueue ..).grown

/-- The listeners only age the chains there are. -/
theorem aged_heard {limit : Nat} {t : Turn L} {r : Router L} (h : t.heard? limit = some r) :
    t.opened.Aged r.session ∧ r.current = t.before.current ∧ t.before.Keeps r := by
  obtain ⟨s, told, rfl⟩ := Option.map_eq_some_iff.1 h
  exact ⟨Session.tell_aged told, rfl, t.before.keeps_of_session s _⟩

theorem exists_chain_of_heard? {limit : Nat} {t : Turn L} {r : Router L} (h : t.heard? limit = some r) :
    ∃ c, r.session.chain? t.id = some c := by
  obtain ⟨c, hc, -⟩ := (aged_heard h).1.grown t.id _ t.chain?_opened
  exact ⟨c, hc⟩

theorem fate?_cases {limit : Nat} {t : Turn L} {fate : Fate L} (h : t.fate? limit = some fate) :
    (fate = .unmatched ∧ t.request.matched = false) ∨
      t.request.matched = true ∧ ∃ heard, t.heard? limit = some heard ∧
        ((fate = .cancelled heard ∧ heard.admitted t.id = false) ∨
          (fate = .entered (t.entrance heard) ∧ heard.admitted t.id = true)) := by
  unfold fate? at h
  split at h
  · next hit =>
    obtain ⟨heard, told, rfl⟩ := Option.map_eq_some_iff.1 h
    refine .inr ⟨hit, heard, told, ?_⟩
    split
    · next admitted => exact .inr ⟨rfl, admitted⟩
    · next refused => exact .inl ⟨rfl, by simpa using refused⟩
  · next miss => exact .inl ⟨(Option.some.inj h).symm, by simpa using miss⟩

theorem fate?_of_entrance? {limit : Nat} {t : Turn L} {e : Entrance L} (h : t.entrance? limit = some e) :
    t.fate? limit = some (.entered e) := by
  unfold entrance? at h
  split at h
  · next fate => rwa [← Option.some.inj h]
  · cases h

/-- A chain is entered after the listeners were told of it and let it be. -/
theorem exists_of_entrance? {limit : Nat} {t : Turn L} {e : Entrance L}
    (h : t.entrance? limit = some e) :
    ∃ heard, t.heard? limit = some heard ∧ heard.admitted t.id = true ∧ e = t.entrance heard := by
  obtain ⟨off, -⟩ | ⟨-, heard, told, ⟨off, -⟩ | ⟨same, admitted⟩⟩ :=
    fate?_cases (fate?_of_entrance? h)
  · cases off
  · cases off
  · exact ⟨heard, told, admitted, Fate.entered.inj same⟩

theorem start_evaluate_of_entrance? {limit : Nat} {t : Turn L} {e : Entrance L}
    (h : t.entrance? limit = some e) :
    (Router.evaluate limit t.route).start t.before =
      if e.ran then t.runs limit e.moment else some (.ok none, t.silenced e.moment) := by
  rw [start_evaluate, fate?_of_entrance? h]
  rfl

/-- Without an entrance nothing is asked for, and the current chain stays. -/
theorem end_of_no_entrance {limit : Nat} {t : Turn L} (h : t.entrance? limit = none)
    {out : Except RouterError (Option String)} {r' : Router L}
    (ended : (Router.evaluate limit t.route).start t.before = some (out, r')) :
    out = .ok none ∧ r'.current = t.before.current ∧ t.before.Keeps r' ∧
      t.before.session.Grown r'.session := by
  rw [start_evaluate] at ended
  obtain ⟨fate, known, ended⟩ := Option.bind_eq_some_iff.1 ended
  obtain ⟨rfl, -⟩ | ⟨-, heard, told, ⟨rfl, -⟩ | ⟨rfl, -⟩⟩ := fate?_cases known
  · obtain ⟨rfl, rfl⟩ := Prod.mk.inj (Option.some.inj ended)
    exact ⟨rfl, rfl, t.before.keeps_of_session _ _, ((Session.Aged.refl _).report _).grown⟩
  · obtain ⟨rfl, rfl⟩ := Prod.mk.inj (Option.some.inj ended)
    obtain ⟨aged, current, keeps⟩ := aged_heard told
    exact ⟨rfl, current, keeps.trans (heard.keeps_of_session _ _),
      t.grown_opened.trans (aged.report _).grown⟩
  · simp [entrance?, known] at h

/-- A chain that is entered is new. -/
theorem entrance_facts {limit : Nat} {t : Turn L} {e : Entrance L} (h : t.entrance? limit = some e) :
    e.id = t.id ∧ e.moment.current = some t.id ∧ t.before.Keeps e.moment ∧
      t.opened.Aged e.moment.session := by
  obtain ⟨heard, told, -, rfl⟩ := exists_of_entrance? h
  obtain ⟨aged, -, keeps⟩ := aged_heard told
  exact ⟨rfl, rfl, keeps.trans (heard.keeps_of_session _ _), aged.trans (Session.aged_link ..)⟩

/-- After the entrance of a chain no evaluation touches more than the session. -/
theorem end_of_entrance {limit : Nat} {t : Turn L} {e : Entrance L} (h : t.entrance? limit = some e)
    {out : Except RouterError (Option String)} {r' : Router L}
    (ended : (Router.evaluate limit t.route).start t.before = some (out, r')) :
    r'.current = some t.id ∧ e.moment.Keeps r' ∧ e.moment.session.Aged r'.session := by
  rw [start_evaluate_of_entrance? h] at ended
  have current := (entrance_facts h).2.1
  split at ended
  · obtain ⟨⟨result, s⟩, ran, same⟩ := Option.map_eq_some_iff.1 ended
    have aged := Session.run_aged ran
    cases result with
    | ok _ =>
      obtain ⟨-, rfl⟩ := Prod.mk.inj same
      exact ⟨current, e.moment.keeps_of_session _ _,
        aged.trans (s.aged_modify t.id _ fun _ => ⟨rfl, rfl, fun h => h⟩)⟩
    | error f =>
      obtain ⟨-, rfl⟩ := Prod.mk.inj same
      exact ⟨current, e.moment.keeps_of_session _ _, aged.report _⟩
  · obtain ⟨-, rfl⟩ := Prod.mk.inj (Option.some.inj ended)
    have aged := e.moment.session.aged_modify t.id Chain.stopPropagation fun _ =>
      ⟨rfl, rfl, fun h => nomatch h⟩
    exact ⟨current, e.moment.keeps_of_session _ _, aged.report _⟩

/-- No evaluation touches more than the session and the current chain, and no chain is lost. -/
theorem keeps_and_grown {limit : Nat} {t : Turn L} {out : Except RouterError (Option String)}
    {r' : Router L} (ended : (Router.evaluate limit t.route).start t.before = some (out, r')) :
    t.before.Keeps r' ∧ t.before.session.Grown r'.session := by
  cases entrance : t.entrance? limit with
  | none => exact (end_of_no_entrance entrance ended).2.2
  | some e =>
    obtain ⟨-, -, keeps, aged⟩ := entrance_facts entrance
    obtain ⟨-, keeps', aged'⟩ := end_of_entrance entrance ended
    exact ⟨keeps.trans keeps', t.grown_opened.trans (aged.trans aged').grown⟩

end Turn

end Routing
