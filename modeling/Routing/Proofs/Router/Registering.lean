import Routing.Proofs.Router.Closed
import Routing.Proofs.Router.Dispatch

/-!
# Registering routes early or late

Routes may be registered before the path is set that they are for, and wait for a dispatch; or they may be
registered after it, and each has its turn at once.

* `RouteSpec`: a route that is to be registered
* `Calm`: no route fails or asks for a redirect
* `serve_unmatched`: routes are registered that do not match
* `InStep`, `cycle_and_register`: a cycle over routes, and their registration
* `Agree`, `registered_early_or_late`: both orders come to the same
-/
namespace Routing

open Router

variable {L : Type} [Host L]

variable {limit : Nat}

/-- A route that is to be registered. -/
structure RouteSpec where
  pattern : Pattern
  middleware : List Handler := []
  handler : Handler

namespace RouteSpec

def command (s : RouteSpec) : Command L :=
  .register s.pattern s.middleware s.handler

/-- The route, if the pattern is valid. -/
def compile (o : MatchOptions) (s : RouteSpec) : Except RouterError Route :=
  (s.pattern.compile o).map (⟨·, s.middleware, s.handler⟩)

end RouteSpec

/-- All patterns are valid, and these are the routes. -/
def CompileTo (o : MatchOptions) : List RouteSpec → List Route → Prop :=
  List.Forall₂ fun s route => s.compile o = .ok route

/-- The cache after the patterns were compiled, one after another. -/
def PatternCache.compileAll (o : MatchOptions) (specs : List RouteSpec) (c : PatternCache) : PatternCache :=
  specs.foldl (fun c s => (c.compile o s.pattern).2) c

/-! ## Calm -/

/-- Every route that has its turn ends well, and asks for no redirect. -/
def Calm (limit : Nat) (os : List (Occasion L)) : Prop :=
  ∀ t ∈ turns os, ∃ r', (evaluate limit t.route).start t.before = some (.ok none, r')

theorem calm_append {os ps : List (Occasion L)} : Calm limit (os ++ ps) ↔ Calm limit os ∧ Calm limit ps := by
  simp only [Calm, turns_append, List.mem_append, or_imp, forall_and]

theorem calm_turn_cons {t : Turn L} {os : List (Occasion L)} : Calm limit (.turn t :: os) ↔
    (∃ r', (evaluate limit t.route).start t.before = some (.ok none, r')) ∧ Calm limit os := by
  simp [Calm]

/-! ## One route more -/

/-- The router with one route more, before that has its turn. -/
def Router.joined (r : Router L) (s : RouteSpec) (route : Route) (records : List Log.Record) : Router L :=
  { r with
    session := r.session.report records
    cache := (r.cache.compile r.options.matching s.pattern).2
    routes := r.routes ++ [route] }

/-- The router with further routes, none of which has its turn. -/
def Router.registered (r : Router L) (specs : List RouteSpec) (routes : List Route) : Router L :=
  { r with
    cache := r.cache.compileAll r.options.matching specs
    routes := r.routes ++ routes }

/-- A route joins the others and has its turn; if it is calm, that is all. -/
theorem serve_register (limit : Nat) {r : Router L} (sound : r.cache.Sound) {s : RouteSpec} {route : Route}
    (made : s.compile r.options.matching = .ok route) (rest : List (Command L)) :
    ∃ records,
      (∃ os, serveTrace limit (s.command :: rest) r = .turn ⟨route, r.joined s route records⟩ :: os) ∧
      ∀ r', (evaluate limit route).start (r.joined s route records) = some (.ok none, r') →
        serve limit (s.command :: rest) r = serve limit rest r' ∧
          serveTrace limit (s.command :: rest) r =
            .turn ⟨route, r.joined s route records⟩ :: serveTrace limit rest r' := by
  obtain ⟨records, enlisted⟩ := start_enlist s.pattern s.middleware s.handler r
  have compiled : routeOf s.pattern s.middleware s.handler r = .ok route := by
    rw [routeOf, (PatternCache.compile_sound sound _ _).1]
    exact made
  rw [compiled] at enlisted
  have own : (s.command.own limit).start r =
      (evaluate limit route).start (r.joined s route records) := by
    simp only [RouteSpec.command, Command.own, Operation.start_bind, enlisted]
    rfl
  have ownTrace : s.command.ownTrace limit r = [.turn ⟨route, r.joined s route records⟩] := by
    simp only [RouteSpec.command, Command.ownTrace, Operation.thereafter, enlisted]
    rfl
  refine ⟨records, ?_, fun r' ended => ?_⟩
  · rw [serveTrace, Command.trace, ownTrace]
    exact ⟨_, rfl⟩
  · obtain ⟨performed, trace⟩ := Command.perform_of_quiet (own.trans ended)
    rw [serve, serveTrace, performed, trace, ownTrace]
    exact ⟨rfl, rfl⟩

/-! ## Routes that do not match -/

/-- Routes that do not match join the others, and nothing else happens. -/
theorem serve_unmatched (limit : Nat) {o : MatchOptions} {specs : List RouteSpec} {routes : List Route}
    (made : CompileTo o specs routes) {r : Router L} (options : r.options.matching = o)
    (sound : r.cache.Sound) (miss : ∀ route ∈ routes, (route.pattern.parse r.path).matched = false) :
    ∃ records, serve limit (specs.map RouteSpec.command) r =
        some { r.registered specs routes with session := r.session.report records } ∧
      Calm limit (serveTrace limit (specs.map RouteSpec.command) r) ∧
      (turns (serveTrace limit (specs.map RouteSpec.command) r)).flatMap (Turn.showings limit) = [] := by
  induction made generalizing r with
  | nil =>
    refine ⟨[], ?_, by simp [Calm, serveTrace, turns], rfl⟩
    rw [Router.registered, Session.report_nil, List.append_nil]
    rfl
  | @cons s route specs routes here rest ih =>
    subst options
    obtain ⟨records, -, goes_on⟩ := serve_register limit sound here (specs.map RouteSpec.command)
    let t : Turn L := ⟨route, r.joined s route records⟩
    have off : t.request.matched = false := by
      rw [Turn.request, show t.before.path = r.path from rfl]
      exact miss route (List.mem_cons_self ..)
    have missed := Turn.start_evaluate_of_unmatched limit off
    obtain ⟨served, trace⟩ := goes_on t.reported missed
    have still (q : Route) (known : q ∈ routes) : (q.pattern.parse t.reported.path).matched = false := by
      rw [show t.reported.path = r.path from rfl]
      exact miss q (List.mem_cons_of_mem _ known)
    have cache : t.reported.cache = (r.cache.compile r.options.matching s.pattern).2 := rfl
    obtain ⟨more, ended, calm, shows⟩ := ih (r := t.reported) rfl
      (cache ▸ (PatternCache.compile_sound sound _ _).2) still
    rw [List.map_cons, served, trace]
    refine ⟨records ++ route.pattern.parseLog t.request ++ more, ?_, ?_, ?_⟩
    · have joined : t.reported.routes ++ routes = r.routes ++ route :: routes :=
        (List.append_cons r.routes route routes).symm
      rw [ended, Router.registered, joined, Session.report_append, Session.report_append]
      rfl
    · exact calm_turn_cons.2 ⟨⟨_, missed⟩, calm⟩
    · change t.showings limit ++ _ = []
      rw [Turn.showings_of_unmatched limit off]
      exact shows

/-! ## Routes that wait for a cycle, and routes that do not -/

namespace Router

variable {r q : Router L} {s : RouteSpec} {route : Route} {specs : List RouteSpec} {routes : List Route}

theorem Keeps.registered (h : r.Keeps q) : (r.registered specs routes).Keeps (q.registered specs routes) where
  options := h.options
  location := h.location
  globals := h.globals
  routes := congrArg (· ++ routes) h.routes
  listeners := h.listeners
  redirectDepth := h.redirectDepth
  cache := by simp only [Router.registered, h.options, h.cache]

theorem keeps_joined (records : List Log.Record) : (r.registered (s :: specs) (route :: routes)).Keeps
    ((r.joined s route records).registered specs routes) where
  options := rfl
  location := rfl
  globals := rfl
  routes := (List.append_cons r.routes route routes).symm
  listeners := rfl
  redirectDepth := rfl
  cache := rfl

/-- What its routes are makes no difference to a twin. -/
theorem Twins.joined (h : r.Twins q) (s : RouteSpec) (route : Route) (records : List Log.Record) :
    r.Twins (q.joined s route records) := by
  obtain ⟨⟨options, location, globals, listeners, current, session⟩, length⟩ := h
  exact ⟨⟨options, location, globals, listeners, current, session.unique, session.chains, session.parked,
    session.handles, session.library, session.counters, session.observations⟩, length⟩

/-- Twins that have the same routes and the same cache are the same but for what was reported. -/
theorem Twins.eq (h : r.Twins q) (routes : q.routes = r.routes)
    (redirectDepth : q.redirectDepth = r.redirectDepth) (cache : q.cache = r.cache) :
    q = { r with session := { r.session with log := q.session.log } } := by
  obtain ⟨alike, length⟩ := h
  have session := alike.session.eq_of_length length
  have current := Session.eq_of_rel_upTo alike.current
  have options := alike.options
  have location := alike.location
  have globals := alike.globals
  have listeners := alike.listeners
  obtain ⟨_, _, _, _, _, _, _, _, _⟩ := q
  simp only [Router.mk.injEq]
  exact ⟨options, location, globals, routes, listeners, current, redirectDepth, cache, session⟩

end Router

/-- What a cycle over routes at one router, and their registration at its twin, come to. -/
structure InStep (limit : Nat) (specs : List RouteSpec) (routes : List Route) (e l : Router L) : Prop where
  calm : Calm limit (cycleTrace limit routes e) ↔
    Calm limit (serveTrace limit (specs.map RouteSpec.command) l)
  ends : Calm limit (cycleTrace limit routes e) → ∃ e' l',
    (cycle limit routes).start e = some (.ok none, e') ∧
      serve limit (specs.map RouteSpec.command) l = some l' ∧
      e'.Twins l' ∧ e.Keeps e' ∧ (l.registered specs routes).Keeps l'
  shows : Calm limit (cycleTrace limit routes e) →
    (turns (serveTrace limit (specs.map RouteSpec.command) l)).flatMap (Turn.showings limit) =
      (turns (cycleTrace limit routes e)).flatMap (Turn.showings limit)

/-- Routes have their turns in a cycle, or one by one when they are registered. -/
theorem cycle_and_register (limit : Nat) {o : MatchOptions} {specs : List RouteSpec} {routes : List Route}
    (made : CompileTo o specs routes) {e l : Router L} (twins : e.Twins l) (options : l.options.matching = o)
    (sound : l.cache.Sound) : InStep limit specs routes e l := by
  induction made generalizing e l with
  | nil =>
    have nothing : l.registered [] [] = l := by
      rw [Router.registered, List.append_nil]
      rfl
    refine ⟨Iff.rfl, fun _ => ⟨e, l, rfl, rfl, twins, .refl e, ?_⟩, fun _ => rfl⟩
    rw [nothing]
    exact .refl l
  | @cons s route specs routes here rest ih =>
    subst options
    obtain ⟨records, ⟨os, starts⟩, goes_on⟩ :=
      serve_register limit sound here (specs.map RouteSpec.command)
    have joined := twins.joined s route records
    -- one route has its turn in both; as long as it is calm, the routers stay twins
    obtain ⟨e', l', left, right, after⟩ | ⟨left, right⟩ :=
      Option.Rel.both_or_neither (r := Router.Twins) (joined.evaluate limit route) (.ok none)
    · obtain ⟨served, trace⟩ := goes_on l' right
      obtain ⟨cycled, cycleTrace_eq⟩ := cycle_of_evaluate routes left
      have keeps := (Turn.keeps_and_grown (t := ⟨route, e⟩) left).1
      have keeps' := (Turn.keeps_and_grown (t := ⟨route, l.joined s route records⟩) right).1
      have sound' : l'.cache.Sound := by
        rw [keeps'.cache]
        exact (PatternCache.compile_sound sound _ _).2
      have step := ih after (congrArg RouterOptions.matching keeps'.options) sound'
      refine ⟨?_, fun calm => ?_, fun calm => ?_⟩
      · rw [List.map_cons, trace, cycleTrace_eq, calm_turn_cons, calm_turn_cons, step.calm]
        exact and_congr_left fun _ => iff_of_true ⟨e', left⟩ ⟨l', right⟩
      · rw [cycleTrace_eq] at calm
        obtain ⟨e'', l'', ended, more, twins', kept, kept'⟩ := step.ends (calm_turn_cons.1 calm).2
        exact ⟨e'', l'', cycled.trans ended, served.trans more, twins', keeps.trans kept,
          (keeps_joined records).trans (keeps'.registered.trans kept')⟩
      · have turn : Turn.Alike _ _ ⟨route, e⟩ ⟨route, l.joined s route records⟩ :=
          ⟨rfl, joined.alike⟩
        rw [cycleTrace_eq] at calm ⊢
        rw [List.map_cons, trace]
        exact congrArg₂ (· ++ ·) turn.showings (step.shows (calm_turn_cons.1 calm).2)
    · have never : ¬ Calm limit (cycleTrace limit (route :: routes) e) := by
        intro calm
        obtain ⟨e', ended⟩ := (calm_turn_cons.1 calm).1
        exact left e' ended
      have never' : ¬ Calm limit (serveTrace limit ((s :: specs).map RouteSpec.command) l) := by
        rw [List.map_cons, starts]
        intro calm
        obtain ⟨l', ended⟩ := (calm_turn_cons.1 calm).1
        exact right l' ended
      exact ⟨iff_of_false never never', fun calm => absurd calm never, fun calm => absurd calm never⟩

/-! ## Early or late -/

/-- The routes are registered, and then the path is set and dispatched. -/
def registerEarly (specs : List RouteSpec) (path : String) : List (Command L) :=
  specs.map RouteSpec.command ++ [.change (.setPath path), .dispatch]

/-- The path is set, and then the routes are registered. -/
def registerLate (specs : List RouteSpec) (path : String) : List (Command L) :=
  .change (.setPath path) :: specs.map RouteSpec.command

/-- Both orders come to the same: one is calm if the other is, and then the listeners are told and the handlers
are called the same in the same order, and the routers in the end differ in nothing but their logs. -/
structure Agree (limit : Nat) (specs : List RouteSpec) (routes : List Route) (path : String) (r : Router L) :
    Prop where
  calm : Calm limit (serveTrace limit (registerEarly specs path) r) ↔
    Calm limit (serveTrace limit (registerLate specs path) r)
  ends : Calm limit (serveTrace limit (registerEarly specs path) r) → ∃ e l,
    serve limit (registerEarly specs path) r = some e ∧ serve limit (registerLate specs path) r = some l ∧
      e.routes = routes ∧ l = { e with session := { e.session with log := l.session.log } }
  shows : Calm limit (serveTrace limit (registerEarly specs path) r) →
    (turns (serveTrace limit (registerEarly specs path) r)).flatMap (Turn.showings limit) =
      (turns (serveTrace limit (registerLate specs path) r)).flatMap (Turn.showings limit)

theorem sound_of_serve {commands : List (Command L)} {r r' : Router L} (sound : r.cache.Sound)
    (served : serve limit commands r = some r') : r'.cache.Sound :=
  ((passage_serve limit commands r).invariant (fun _ r => r.cache.Sound) (fun sound rests => rests.cache sound)
    (fun sound ended => (Occasion.keeps ended).cache ▸ sound) [] sound).2 r' served

theorem serve_change (limit : Nat) (c : Change L) (rest : List (Command L)) (r : Router L) :
    serve limit (.change c :: rest) r = serve limit rest (c.apply r) ∧
      serveTrace limit (.change c :: rest) r = serveTrace limit rest (c.apply r) := by
  have own : ((Command.change c).own limit).start r = some (.ok none, c.apply r) := rfl
  obtain ⟨performed, trace⟩ := Command.perform_of_quiet own
  rw [serve, serveTrace, performed, trace]
  exact ⟨rfl, rfl⟩

/-- A dispatch begins with a cycle, and is no more than that if the cycle asks for no redirect. -/
theorem serve_dispatch (limit : Nat) (r : Router L) :
    (∃ os, serveTrace limit [.dispatch] r = cycleTrace limit r.routes r ++ os) ∧
      ∀ r', (cycle limit r.routes).start r = some (.ok none, r') →
        serve limit [.dispatch] r = some r' ∧
          serveTrace limit [.dispatch] r = cycleTrace limit r.routes r := by
  constructor
  · rw [serveTrace, Command.trace, List.append_assoc]
    exact ⟨_, rfl⟩
  · intro r' ended
    have own : (Command.dispatch.own limit).start r = some (.ok none, r') := ended
    obtain ⟨performed, trace⟩ := Command.perform_of_quiet own
    rw [serve, serveTrace, performed, trace]
    exact ⟨rfl, List.append_nil _⟩

theorem agree_of_closed {r : Router L} (closed : r.Closed) (sound : r.cache.Sound) (fresh : r.routes = [])
    {specs : List RouteSpec} {routes : List Route} (made : CompileTo r.options.matching specs routes)
    (miss : ∀ route ∈ routes, (route.pattern.parse r.path).matched = false) (path : String) :
    Agree limit specs routes path r := by
  obtain ⟨records, registered, quiet, nothing⟩ := serve_unmatched limit made rfl sound miss
  -- the two routers when the path is set: one has all the routes, the other none
  let e : Router L := { r.registered specs routes with session := r.session.report records }.setPath path
  let l : Router L := r.setPath path
  have table : e.routes = routes := by
    rw [show e.routes = r.routes ++ routes from rfl, fresh, List.nil_append]
  have twins : e.Twins l := by
    have self := (twins_self_iff.2 closed).alike
    exact ⟨⟨rfl, rfl, rfl, rfl, self.current, self.session.report_more records⟩, rfl⟩
  have step : InStep limit specs routes e l := cycle_and_register limit made twins rfl sound
  obtain ⟨⟨os, begins⟩, dispatched⟩ := serve_dispatch limit e
  rw [table] at begins dispatched
  have early_serve : serve limit (registerEarly specs path) r = serve limit [.dispatch] e := by
    rw [registerEarly, serve_append, registered, Option.bind_some, (serve_change ..).1]
    rfl
  have early_trace : serveTrace limit (registerEarly specs path) r =
      serveTrace limit (specs.map RouteSpec.command) r ++ serveTrace limit [.dispatch] e := by
    rw [registerEarly, serveTrace_append, registered, Option.elim_some, (serve_change ..).2]
    rfl
  have late_serve : serve limit (registerLate specs path) r = serve limit (specs.map RouteSpec.command) l :=
    (serve_change ..).1
  have late_trace : serveTrace limit (registerLate specs path) r =
      serveTrace limit (specs.map RouteSpec.command) l := (serve_change ..).2
  have cycled (calm : Calm limit (serveTrace limit (registerEarly specs path) r)) :
      Calm limit (cycleTrace limit routes e) := by
    rw [early_trace, begins] at calm
    exact (calm_append.1 (calm_append.1 calm).2).1
  refine ⟨⟨fun calm => ?_, fun calm => ?_⟩, fun calm => ?_, fun calm => ?_⟩
  · rw [late_trace]
    exact step.calm.1 (cycled calm)
  · rw [late_trace] at calm
    have calm' := step.calm.2 calm
    obtain ⟨e', l', ended, -⟩ := step.ends calm'
    rw [early_trace, (dispatched e' ended).2]
    exact calm_append.2 ⟨quiet, calm'⟩
  · obtain ⟨e', l', ended, served, twins', kept, kept'⟩ := step.ends (cycled calm)
    refine ⟨e', l', by rw [early_serve, (dispatched e' ended).1], by rw [late_serve, served],
      kept.routes.trans table, ?_⟩
    exact twins'.eq (kept'.routes.trans kept.routes.symm) (kept'.redirectDepth.trans kept.redirectDepth.symm)
      (kept'.cache.trans kept.cache.symm)
  · obtain ⟨e', l', ended, -⟩ := step.ends (cycled calm)
    rw [early_trace, (dispatched e' ended).2, turns_append, List.flatMap_append, nothing, List.nil_append,
      late_trace, step.shows (cycled calm)]

/-- For every router that there can be, as long as it has no routes: valid routes that do not match its path may
be registered before another path is set and dispatched or after it is set, and both come to the same. -/
theorem registered_early_or_late (limit : Nat) :
    (∀ options (location : L) library commands r,
      serve limit commands (.hosted options location library) = some r → r.Closed ∧ r.cache.Sound) ∧
    ∀ (r : Router L) (specs : List RouteSpec) (routes : List Route) (path : String),
      r.Closed → r.cache.Sound → r.routes = [] → CompileTo r.options.matching specs routes →
      (∀ route ∈ routes, (route.pattern.parse r.path).matched = false) →
        Agree limit specs routes path r :=
  ⟨fun options location library _ _ served =>
      ⟨closed_of_serve (.hosted options location library) served,
        sound_of_serve (PatternCache.sound_withCapacity _) served⟩,
    fun _ _ _ path closed sound fresh made miss => agree_of_closed closed sound fresh made miss path⟩

/-- Two pages that both match the path "/a" in the end. -/
theorem registered_early_or_late_pages :
    ∃ specs routes, ∃ r : Router, Agree 20 specs routes "/a" r ∧
      (turns (serveTrace 20 (registerEarly specs "/a") r)).map (·.request.matched) =
        [false, false, true, true] ∧
      Calm 20 (serveTrace 20 (registerEarly specs "/a") r) := by
  let first : RouteSpec := ⟨.path "/a", [[.note "before", .next]], [.note "page"]⟩
  let second : RouteSpec := ⟨.path "/:page", [], [.note "any"]⟩
  let r : Router := .created {} (.memory (.opened "/")) []
  let calm? (t : Turn Location) : Bool :=
    ((evaluate 20 t.route).start t.before).any fun o => o.1.toOption == some none
  have misses (s : RouteSpec) (h : s = first ∨ s = second) :
      (s.compile {}).toOption.map (fun route => (route.pattern.parse "").matched) = some false := by
    obtain rfl | rfl := h <;> decide +kernel
  have path : r.path = "" := by decide +kernel
  have facts : (turns (serveTrace 20 (registerEarly [first, second] "/a") r)).map
      (fun t => (t.request.matched, calm? t)) =
        [(false, true), (false, true), (true, true), (true, true)] := by decide +kernel
  have made (s : RouteSpec) (h : s = first ∨ s = second) :
      ∃ route, s.compile r.options.matching = .ok route ∧ (route.pattern.parse r.path).matched = false := by
    have miss := misses s h
    rw [path]
    change ∃ route, s.compile {} = .ok route ∧ _
    cases compiled : s.compile {} with
    | error e =>
      rw [compiled] at miss
      cases miss
    | ok route =>
      rw [compiled] at miss
      exact ⟨route, rfl, Option.some.inj miss⟩
  obtain ⟨p, hp, missed⟩ := made first (.inl rfl)
  obtain ⟨q, hq, missed'⟩ := made second (.inr rfl)
  refine ⟨[first, second], [p, q], r, ?_, ?_, ?_⟩
  · refine (registered_early_or_late 20).2 r _ _ "/a" (.hosted ..) (PatternCache.sound_withCapacity _) rfl
      (.cons hp (.cons hq .nil)) ?_
    intro route known
    obtain rfl | rfl : route = p ∨ route = q := by simpa using known
    · exact missed
    · exact missed'
  · have matched := congrArg (List.map Prod.fst) facts
    rwa [List.map_map] at matched
  · intro t ht
    have known := List.mem_map_of_mem (f := fun t : Turn Location => (t.request.matched, calm? t)) ht
    have calm : calm? t = true := by
      rw [facts] at known
      simp only [List.mem_cons, Prod.mk.injEq, List.not_mem_nil, or_false] at known
      obtain ⟨-, calm⟩ | ⟨-, calm⟩ | ⟨-, calm⟩ | ⟨-, calm⟩ := known <;> exact calm
    obtain ⟨⟨out, r'⟩, ended, fine⟩ := (Option.any_eq_true ..).1 calm
    cases out with
    | error e => cases fine
    | ok asked =>
      obtain rfl : asked = none := by simpa [Except.toOption] using fine
      exact ⟨r', ended⟩

end Routing
