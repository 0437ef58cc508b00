import Routing.Proofs.Router.Serving

/-!
# A cycle without incident

If the listeners and handlers in a cycle only pass or halt, the cycle serves the routes that match, one after
another and each of them once, and changes nothing but the chains.

* `Service`: a route that was served
* `InOrder`: what a cycle comes to
* `Undisturbed`: every route that matches in a cycle is served
* `cycle_in_order`, `dispatch_in_order`: a cycle, and a dispatch
-/
namespace Routing

open Router

variable {L : Type} [Host L]

/-- A route that had its turn and was served, the handlers that were called, and the session after that. -/
structure Service (L : Type) [Host L] where
  turn : Turn L
  called : List Handler
  after : Session

/-- Of the routes those that match are served in order, and nothing else is touched. -/
structure InOrder (routes : List Route) (r : Router L) (served : List (Service L)) (r' : Router L) : Prop where
  routes : served.map (·.turn.route) =
    routes.filter fun route => (route.pattern.parse r.path).matched
  services : ∀ v ∈ served, r.Keeps v.turn.before ∧ v.turn.Served v.called v.after
  /-- The handlers of the router, then those of the route, up to the first that halts. -/
  called : ∀ v ∈ served, v.called <+: r.globals ++ v.turn.route.handlers
  keeps : r.Keeps r'
  /-- A chain for every route that was served; the chains before them are there as they were. -/
  ids : served.map (·.turn.id) = List.range' r.session.chains.length served.length
  faces : r'.session.faces = r.session.faces ++ served.map (·.turn.made.face)
  current : r'.current = (served.getLast?.map (·.turn.id)).or r.current

/-- What is performed when routes are served: for each of them the listeners are told, and its handlers are
called. -/
def servicesPerformed (listeners : List Listener) (served : List (Service L)) : List Performance :=
  served.flatMap fun v =>
    listeners.map (.told · v.turn.event) ++ v.called.map (.called v.turn.id)

namespace InOrder

variable {route : Route} {rest : List Route} {r q r' : Router L} {served : List (Service L)}

theorem nil (r : Router L) : InOrder [] r [] r where
  routes := rfl
  services := by simp
  called := by simp
  keeps := .refl r
  ids := rfl
  faces := (List.append_nil _).symm
  current := rfl

/-- A route that does not match comes before the others. -/
theorem miss (h : InOrder rest q served r') (keeps : r.Keeps q)
    (off : (route.pattern.parse r.path).matched = false) (faces : q.session.faces = r.session.faces)
    (current : q.current = r.current) : InOrder (route :: rest) r served r' where
  routes := by
    rw [List.filter_cons, if_neg (by simp [off]), h.routes, keeps.path]
  services v hv := ⟨keeps.trans (h.services v hv).1, (h.services v hv).2⟩
  called v hv := by
    rw [← keeps.globals]
    exact h.called v hv
  keeps := keeps.trans h.keeps
  ids := by
    have same := congrArg List.length faces
    simp only [Session.faces, List.length_map] at same
    rw [h.ids, same]
  faces := by rw [h.faces, faces]
  current := by rw [h.current, current]

/-- A route that is served comes before the others. -/
theorem serve {called : List Handler} {s : Session}
    (h : InOrder rest (Turn.served ⟨route, r⟩ s) served r') (here : Turn.Served ⟨route, r⟩ called s)
    (hit : (route.pattern.parse r.path).matched = true) :
    InOrder (route :: rest) r (⟨⟨route, r⟩, called, s⟩ :: served) r' where
  routes := by
    rw [List.filter_cons, if_pos hit, List.map_cons, h.routes]
    rfl
  services v hv := by
    obtain rfl | hv := List.mem_cons.1 hv
    · exact ⟨.refl r, here⟩
    · exact ⟨(r.keeps_of_session s _).trans (h.services v hv).1, (h.services v hv).2⟩
  called v hv := by
    obtain rfl | hv := List.mem_cons.1 hv
    · obtain ⟨heard, -, -, serves⟩ := here
      exact serves.called_prefix
    · exact h.called v hv
  keeps := (r.keeps_of_session s _).trans h.keeps
  ids := by
    have one := congrArg List.length here.faces
    simp only [Session.faces, List.length_map, List.length_append, List.length_singleton] at one
    rw [List.map_cons, h.ids, List.length_cons, List.range'_succ]
    exact congrArg (fun n => _ :: List.range' n served.length) one
  faces := by
    rw [h.faces]
    change s.faces ++ _ = _
    rw [here.faces, List.append_assoc]
    rfl
  current := by
    rw [h.current, List.getLast?_cons]
    cases served.getLast? <;> rfl

end InOrder

/-! ## Cycles -/

/-- After a route that asks for nothing, the cycle goes on with the others. -/
theorem cycle_of_evaluate {limit : Nat} {route : Route} (rest : List Route) {r q : Router L}
    (ended : (evaluate limit route).start r = some (.ok none, q)) :
    (cycle limit (route :: rest)).start r = (cycle limit rest).start q ∧
      cycleTrace limit (route :: rest) r = .turn ⟨route, r⟩ :: cycleTrace limit rest q := by
  simp only [cycle, cycleTrace, Operation.start_bind, Operation.thereafter, ended, Option.bind_some,
    and_self]

/-- In a cycle on the routes each one that matches is served when it has its turn. -/
def Undisturbed (enough : Nat) (routes : List Route) (r : Router L) : Prop :=
  ∀ limit, enough ≤ limit → ∀ t ∈ turns (cycleTrace limit routes r),
    t.request.matched = true → ∃ called s, t.Served called s

theorem Undisturbed.rest {enough k : Nat} {route : Route} {rest : List Route} {r q : Router L}
    (h : Undisturbed enough (route :: rest) r)
    (ended : ∀ limit, k ≤ limit → (evaluate limit route).start r = some (.ok none, q)) :
    Undisturbed (max enough k) rest q := by
  intro limit le t ht
  refine h limit (Nat.le_trans (Nat.le_max_left ..) le) t ?_
  rw [(cycle_of_evaluate rest (ended limit (Nat.le_trans (Nat.le_max_right ..) le))).2]
  exact List.mem_cons_of_mem _ ht

/-- A cycle on the routes ends well, and what is performed in it is that the routes are served. -/
def Performs (routes : List Route) (r : Router L) (served : List (Service L)) (r' : Router L) : Prop :=
  ∃ n, ∀ limit, n ≤ limit → (cycle limit routes).start r = some (.ok none, r') ∧
    (turns (cycleTrace limit routes r)).filter (·.request.matched) = served.map (·.turn) ∧
    performances limit (cycleTrace limit routes r) =
      servicesPerformed (r.listenersOf .matched) served

/-- Before a cycle, a route has its turn, at which it is served or does not match. -/
theorem Performs.cons {rest : List Route} {t : Turn L} {q r' : Router L} {served : List (Service L)} {k : Nat}
    (h : Performs rest q served r') (keeps : t.before.Keeps q) (own : List (Service L))
    (mine : [t].filter (·.request.matched) = own.map (·.turn))
    (turn : ∀ limit, k ≤ limit → (evaluate limit t.route).start t.before = some (.ok none, q) ∧
      t.performances limit = servicesPerformed (t.before.listenersOf .matched) own) :
    Performs (t.route :: rest) t.before (own ++ served) r' := by
  obtain ⟨n, ends⟩ := h
  refine ⟨max n k, fun limit le => ?_⟩
  obtain ⟨ended, turned, performed⟩ := ends limit (Nat.le_trans (Nat.le_max_left ..) le)
  obtain ⟨here, first⟩ := turn limit (Nat.le_trans (Nat.le_max_right ..) le)
  obtain ⟨goes_on, trace⟩ := cycle_of_evaluate rest here
  rw [goes_on, trace]
  refine ⟨ended, ?_, ?_⟩
  · rw [List.map_append, ← mine, ← turned, ← List.filter_append]
    rfl
  · change t.performances limit ++ performances limit (cycleTrace limit rest q) = _
    rw [first, performed, keeps.listenersOf]
    exact List.flatMap_append.symm

/-- If no route that matches is disturbed and there is no veto, the cycle serves the routes in order. -/
theorem cycle_in_order (routes : List Route) {r : Router L}
    (clear : r.path ≠ "" → ¬ r.Silent r.path) {enough : Nat} (fair : Undisturbed enough routes r) :
    ∃ served r', InOrder routes r served r' ∧ Performs routes r served r' := by
  induction routes generalizing r enough with
  | nil => exact ⟨[], r, .nil r, 0, fun _ _ => ⟨rfl, rfl, rfl⟩⟩
  | cons route rest ih =>
    let t : Turn L := ⟨route, r⟩
    cases matched : t.request.matched with
    | false =>
      have missed (limit : Nat) :
          (evaluate limit t.route).start t.before = some (.ok none, t.reported) :=
        Turn.start_evaluate_of_unmatched limit matched
      have keeps : r.Keeps t.reported := r.keeps_of_session _ r.current
      obtain ⟨served, r', order, performs⟩ := ih (r := t.reported) clear
        (fair.rest (k := 0) fun limit _ => missed limit)
      refine ⟨served, r', order.miss keeps matched rfl rfl, ?_⟩
      refine performs.cons (t := t) (k := 0) keeps [] (by simp [matched]) fun limit _ => ?_
      exact ⟨missed limit, by simp [Turn.performances, matched, servicesPerformed]⟩
    | true =>
      obtain ⟨called, s, here⟩ := fair enough (Nat.le_refl _) t (List.mem_cons_self ..) matched
      obtain ⟨k, ends⟩ := here.ends matched clear
      obtain ⟨served, r', order, performs⟩ := ih (r := t.served s) (fun _ => here.not_silent _)
        (fair.rest fun limit le => (ends limit le).1)
      refine ⟨⟨t, called, s⟩ :: served, r', order.serve here matched, ?_⟩
      refine performs.cons (t := t) (k := k) (r.keeps_of_session s _) [⟨t, called, s⟩]
        (by simp [matched]) fun limit le => ?_
      simpa [servicesPerformed] using ends limit le

/-- A dispatch that nobody disturbs ends well, and serves the routes that match, in the order in which they
were registered: for each of them the listeners are told in order, then the handlers of the router and those
of the route are called, up to the first that halts. -/
theorem dispatch_in_order {r : Router L} (clear : r.path ≠ "" → ¬ r.Silent r.path) {enough : Nat}
    (fair : Undisturbed enough r.routes r) :
    ∃ served r', InOrder r.routes r served r' ∧ ∃ n, ∀ limit, n ≤ limit →
      (dispatch limit).start r = some (.ok (), r') ∧
        (turns (Command.dispatch.trace limit r)).filter (·.request.matched) = served.map (·.turn) ∧
        performances limit (Command.dispatch.trace limit r) =
          servicesPerformed (r.listenersOf .matched) served := by
  obtain ⟨served, r', order, n, ends⟩ := cycle_in_order r.routes clear fair
  refine ⟨served, r', order, n, fun limit le => ?_⟩
  obtain ⟨ended, turned, performed⟩ := ends limit le
  have own : (Command.dispatch.own limit).start r = some (.ok none, r') := ended
  have trace : Command.dispatch.trace limit r = cycleTrace limit r.routes r := by
    rw [Command.trace, Command.legs, Operation.thereafter, own]
    simp only [legs_none, List.flatMap_nil, List.append_nil]
    rfl
  rw [trace]
  refine ⟨?_, turned, performed⟩
  change (Command.dispatch.perform limit).start r = _
  rw [Command.start_perform, Operation.start_bind, own]
  exact Command.start_follow_none limit r'

/-- Of three pages the second one does not match. The first one is served behind its middleware; the last one has a
middleware that halts. -/
theorem dispatch_in_order_page :
    ∃ p q w, Pattern.compile {} (.path "/a") = .ok p ∧ Pattern.compile {} (.path "/b") = .ok q ∧
      Pattern.compile {} (.path "/:page") = .ok w ∧ ∃ r : Router,
        r = { location := .plain "/" "#/a"
              globals := [[.note "global", .next]]
              routes := [⟨p, [[.note "middleware", .next]], [.note "page"]⟩, ⟨q, [], [.note "other"]⟩,
                ⟨w, [[.note "halts"]], [.note "last"]⟩]
              listeners := [⟨.matched, [.note "first"]⟩, ⟨.matched, [.note "second"]⟩] } ∧
        ∃ served r', InOrder r.routes r served r' ∧
          served.map (·.turn.route.pattern) = [p, w] ∧ served.map (·.turn.id) = [0, 1] ∧
          ∃ n, ∀ limit, n ≤ limit → (dispatch limit).start r = some (.ok (), r') ∧
            performances limit (Command.dispatch.trace limit r) =
              servicesPerformed (r.listenersOf .matched) served := by
  have facts : (Pattern.compile {} (.path "/a")).toOption.bind (fun p =>
      (Pattern.compile {} (.path "/b")).toOption.bind fun q =>
        (Pattern.compile {} (.path "/:page")).toOption.map fun w =>
          ((p.parse "/a").matched, (q.parse "/a").matched, (w.parse "/a").matched)) =
      some (true, false, true) := by decide +kernel
  obtain ⟨p, hp, facts⟩ := Option.bind_eq_some_iff.1 facts
  obtain ⟨q, hq, facts⟩ := Option.bind_eq_some_iff.1 facts
  obtain ⟨w, hw, facts⟩ := Option.map_eq_some_iff.1 facts
  obtain ⟨first, second, last⟩ : (p.parse "/a").matched = true ∧ (q.parse "/a").matched = false ∧
      (w.parse "/a").matched = true := by simpa using facts
  refine ⟨p, q, w, Except.eq_ok_of_toOption hp, Except.eq_ok_of_toOption hq,
    Except.eq_ok_of_toOption hw, _, rfl, ?_⟩
  generalize pages : Router.mk (L := Location) .. = r
  have path : r.path = "/a" := by
    subst pages
    change Host.path {} (Location.plain "/" "#/a") = "/a"
    decide +kernel
  have clear : ¬ r.Silent r.path := by
    rintro ⟨id, c, current, -⟩
    simp [← pages] at current
  have fair : Undisturbed 0 r.routes r := by
    intro limit _ t ht _
    refine exists_served_of_plain ?_ ?_ ?_ t ht <;>
      simp [← pages, listenersOf, Route.handlers, Action.plain, Action.quiet, Action.passes?]
  obtain ⟨served, r', order, n, ends⟩ := dispatch_in_order (fun _ => clear) fair
  have routes : served.map (·.turn.route.pattern) = [p, w] := by
    have patterns := congrArg (List.map Route.pattern) order.routes
    rw [path, List.map_map] at patterns
    simpa [← pages, first, second, last, Function.comp_def] using patterns
  refine ⟨served, r', order, routes, ?_, n, fun limit le => ⟨(ends limit le).1, (ends limit le).2.2⟩⟩
  have two : served.length = 2 := by simpa using congrArg List.length routes
  rw [order.ids, two, ← pages]
  rfl

/-- What a dispatch makes known, if it ends well. -/
def Router.dispatchNotes? (limit : Nat) (r : Router L) : Option (List Observation) :=
  match (dispatch limit).start r with
  | some (.ok (), r') => some (r'.session.observations.drop r.session.observations.length)
  | _ => none

/-- Handlers that queue others, start their chain again or call a continuation of another chain make more
happen than the routes have handlers for, although each of them passes or halts. -/
theorem dispatch_beyond_order :
    (serve 100 [.register (.path "/a") [[.note "first", .enqueue [[.note "more"]], .next]]
          [.note "second", .next], .change (.setPath "/a")]
        (.created {} (.memory (.opened "/")) [])).bind (dispatchNotes? 100) =
      some [.note "first", .note "second", .note "more"] ∧
    (serve 100 [.register (.path "/a") [[.note "again", .run, .next], [.note "halts"]] [.note "last"],
          .change (.setPath "/a")]
        (.created {} (.memory (.opened "/")) [])).bind (dispatchNotes? 100) =
      some [.note "again", .note "halts", .note "last"] ∧
    (serve 100 [.register (.path "/a") [[.note "parks", .park "slot"]] [.note "parked"],
          .register (.path "/a") [[.note "resumes", .resume "slot", .next]] [.note "last"],
          .change (.setPath "/a")]
        (.created {} (.memory (.opened "/")) [])).bind (dispatchNotes? 100) =
      some [.note "parks", .note "resumes", .note "parked", .note "last"] := by
  decide +kernel

end Routing
