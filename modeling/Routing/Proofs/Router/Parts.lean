import Routing.Proofs.Router.Asking
import Routing.Proofs.Router.Traces

/-!
# Parts of a command

A command has a part of its own, and each redirect that it follows is another part. In a part, routes of a
table are evaluated in order, up to the first that asks for a redirect or fails.

* `Part`: what all parts have in common
* `part_cycle`, `part_raise`, `part_visit`: cycles, and what starts one
* `routes_of_visit`: without a redirect or a failure all routes are evaluated
* `Command.setting`, `Command.table`, `part_own`: the part of a command before any redirect
-/
namespace Routing

open Router

variable {L : Type} [Host L]

/-- The routes that have their turn, in order. -/
def turns (os : List (Occasion L)) : List (Turn L) :=
  os.filterMap Occasion.turn?

theorem turns_append (os ps : List (Occasion L)) : turns (os ++ ps) = turns os ++ turns ps :=
  List.filterMap_append

@[simp] theorem mem_turns {t : Turn L} {os : List (Occasion L)} : t ∈ turns os ↔ .turn t ∈ os := by
  simp only [turns, List.mem_filterMap]
  constructor
  · rintro ⟨o, ho, same⟩
    cases o with
    | turn u => rwa [← Option.some.inj same]
    | change | act => cases same
  · exact fun h => ⟨.turn t, h, rfl⟩

/-- From a router on, routes of a table are evaluated in order, and the outcome is a redirect if one of them
asks for it. Nothing but the session and the current chain changes. -/
structure Part (limit : Nat) (outcome : Option (Except RouterError (Option String) × Router L))
    (os : List (Occasion L)) (r : Router L) (table : List Route) : Prop where
  inside : ∀ o ∈ os, r.Keeps o.before
  keeps : ∀ {out r'}, outcome = some (out, r') → r.Keeps r'
  routes : (turns os).map (·.route) <+: table
  asks : ∀ {target r'}, outcome = some (.ok (some target), r') ↔
    ∃ t ∈ turns os, t.asks? limit = some (target, r')

namespace Part

variable {limit : Nat} {outcome : Option (Except RouterError (Option String) × Router L)}
  {os : List (Occasion L)} {r : Router L} {table : List Route}

theorem of_keeps {q : Router L} (k : q.Keeps r) (h : Part limit outcome os r table) :
    Part limit outcome os q table where
  inside o ho := k.trans (h.inside o ho)
  keeps ended := k.trans (h.keeps ended)
  routes := h.routes
  asks := h.asks

/-- A part in which no route has its turn. -/
theorem of_no_turn (inside : ∀ o ∈ os, r.Keeps o.before) (keeps : ∀ {out r'},
    outcome = some (out, r') → r.Keeps r') (no_turn : turns os = [])
    (asks : ∀ {target r'}, outcome ≠ some (.ok (some target), r')) :
    Part limit outcome os r table where
  inside := inside
  keeps := keeps
  routes := by simp [no_turn]
  asks := by simp [no_turn, asks]

theorem idle (r : Router L) (table : List Route) : Part limit (some (.ok none, r)) [] r table :=
  .of_no_turn (by simp) (fun ended => (Prod.mk.inj (Option.some.inj ended)).2 ▸ .refl r) rfl (by simp)

theorem failed (e : RouterError) (r : Router L) (table : List Route) :
    Part limit (some (.error e, r)) [] r table :=
  .of_no_turn (by simp) (fun ended => (Prod.mk.inj (Option.some.inj ended)).2 ▸ .refl r) rfl (by simp)

theorem stuck (r : Router L) (table : List Route) : Part limit none [] r table :=
  .of_no_turn (by simp) (by simp) rfl (by simp)

/-- Before a part, occasions at which no route has its turn. -/
theorem after {q : Router L} (ps : List (Occasion L)) (inside : ∀ o ∈ ps, q.Keeps o.before)
    (no_turn : turns ps = []) (k : q.Keeps r) (h : Part limit outcome os r table) :
    Part limit outcome (ps ++ os) q table where
  inside o ho := (List.mem_append.1 ho).elim (inside o) ((h.of_keeps k).inside o)
  keeps := (h.of_keeps k).keeps
  routes := by simpa [turns_append, no_turn] using h.routes
  asks := by
    intro target r'
    simpa [turns_append, no_turn] using h.asks

theorem change {q : Router L} {kind : EventKind} (k : q.Keeps r)
    (h : Part limit outcome os r table) : Part limit outcome (.change kind q :: os) q table :=
  .after [.change kind q] (by simpa using .refl q) rfl k h

/-- A route has its turn. -/
theorem turn (limit : Nat) (route : Route) (table : List Route) (r : Router L) :
    Part limit ((evaluate limit route).start r) [.turn ⟨route, r⟩] r (route :: table) where
  inside o ho := by
    obtain rfl := List.mem_singleton.1 ho
    exact .refl _
  keeps ended := (Turn.keeps_and_grown (t := ⟨route, r⟩) ended).1
  routes := ⟨table, rfl⟩
  asks := by simp [turns, Occasion.turn?, Turn.asks?_eq_some_iff]

/-- Before a part, a route has its turn that neither asks for a redirect nor fails. -/
theorem skip {route : Route} {q : Router L} (ended : (evaluate limit route).start q = some (.ok none, r))
    (h : Part limit outcome os r table) :
    Part limit outcome (.turn ⟨route, q⟩ :: os) q (route :: table) where
  inside o ho := by
    obtain rfl | ho := List.mem_cons.1 ho
    · exact .refl _
    · exact (h.of_keeps (Turn.keeps_and_grown (t := ⟨route, q⟩) ended).1).inside o ho
  keeps := (h.of_keeps (Turn.keeps_and_grown (t := ⟨route, q⟩) ended).1).keeps
  routes := List.prefix_cons_inj _ |>.2 h.routes
  asks := by
    intro target r'
    have quiet : Turn.asks? limit ⟨route, q⟩ = none := by simp only [Turn.asks?, ended]
    simp only [h.asks, turns, List.filterMap_cons, Occasion.turn?, List.mem_cons, exists_eq_or_imp,
      quiet, reduceCtorEq, false_or]

end Part

theorem part_cycle (limit : Nat) (routes : List Route) (r : Router L) :
    Part limit ((cycle limit routes).start r) (cycleTrace limit routes r) r routes := by
  induction routes generalizing r with
  | nil => exact .idle r []
  | cons route rest ih =>
    simp only [cycle, cycleTrace, Operation.start_bind, Operation.thereafter]
    have turn := Part.turn limit route rest r
    cases ended : (evaluate limit route).start r with
    | none => rwa [ended] at turn
    | some o =>
      rw [ended] at turn
      obtain ⟨e | _ | target, r'⟩ := o
      · exact turn
      · exact (ih r').skip ended
      · exact turn

theorem keeps_tellChange {limit : Nat} {kind : EventKind} {r r' : Router L}
    {out : Except RouterError Unit} (h : (tellChange limit kind).start r = some (out, r')) :
    out = .ok () ∧ r.Keeps r' := by
  rw [start_tellChange] at h
  obtain ⟨s, -, same⟩ := Option.map_eq_some_iff.1 h
  obtain ⟨rfl, rfl⟩ := Prod.mk.inj same
  exact ⟨rfl, r.keeps_of_session s _⟩

/-- No occasion touches more than the session and the current chain. -/
theorem Occasion.keeps {limit : Nat} {o : Occasion L} {r' : Router L} (h : o.after? limit = some r') :
    o.before.Keeps r' := by
  cases o with
  | turn t =>
    obtain ⟨out, ended⟩ := after_turn h
    exact (Turn.keeps_and_grown ended).1
  | change kind r =>
    obtain ⟨s, -, rfl⟩ := after_change h
    exact r.keeps_of_session s r.current
  | act chain actions r =>
    obtain ⟨-, s, -, rfl⟩ := after_act h
    exact r.keeps_of_session s r.current

theorem part_raise (limit : Nat) (kind : EventKind) (r : Router L) :
    Part limit ((raise limit kind).start r) (raiseTrace limit kind r) r r.routes := by
  simp only [raise_eq, raiseTrace, Operation.start_bind, Operation.thereafter]
  cases ended : (tellChange limit kind).start r with
  | none => exact .change (.refl r) (.stuck r _)
  | some o =>
    obtain ⟨out, r'⟩ := o
    obtain ⟨rfl, keeps⟩ := keeps_tellChange ended
    refine .change keeps ?_
    simp only [Option.bind_some, Operation.start_get]
    split
    · rw [← keeps.routes]
      exact part_cycle limit r'.routes r'
    · exact .idle r' r.routes

theorem turns_raiseTrace_of_idle {limit : Nat} {kind : EventKind} {r : Router L}
    (idle : kind.starts r.options.trigger = false) : turns (raiseTrace limit kind r) = [] := by
  simp only [raiseTrace, Operation.thereafter]
  split
  · next ended =>
    rw [(keeps_tellChange ended).2.options, idle]
    rfl
  · rfl

theorem part_visit (limit : Nat) (path : String) (r : Router L) :
    Part limit ((visit limit path).start r) (visitTrace limit path r) (r.setPath path) r.routes := by
  have sent : (r.setPath path).Keeps (r.sent path) := (r.setPath path).keeps_of_session _ _
  refine .of_keeps sent ?_
  have first : Part limit _ _ (r.sent path) r.routes := part_raise limit .navigate (r.sent path)
  simp only [visit, start_report, Operation.start_bind, Operation.start_get, Operation.start_modify,
    Option.bind_some, ← sent_eq, visitTrace, Operation.thereafter]
  cases ended : (raise limit .navigate).start (r.sent path) with
  | none => simpa [ended] using first
  | some o =>
    obtain ⟨e | asked, r'⟩ := o
    · simpa [ended] using first
    · have keeps := first.keeps ended
      simp only [Option.bind_some]
      cases trigger : r'.options.trigger with
      | navigate => simpa [ended] using first
      | hashChange =>
        have idle : EventKind.navigate.starts (r.sent path).options.trigger = false := by
          rw [← keeps.options, trigger]
          rfl
        refine .after _ first.inside (turns_raiseTrace_of_idle idle) keeps ?_
        have second := part_raise limit .hashChange r'
        rwa [keeps.routes] at second

/-! ### Cycles that come to their end -/

section
variable {limit : Nat} {r r' : Router L}

/-- A cycle in which no route asks for a redirect or fails evaluates all of its routes. -/
theorem routes_of_cycle {routes : List Route}
    (ended : (cycle limit routes).start r = some (.ok none, r')) :
    (turns (cycleTrace limit routes r)).map (·.route) = routes := by
  induction routes generalizing r with
  | nil => rfl
  | cons route rest ih =>
    simp only [cycle, Operation.start_bind] at ended
    obtain ⟨⟨out, q⟩, first, later⟩ := Option.bind_eq_some_iff.1 ended
    cases out with
    | error e => cases later
    | ok asked =>
      cases asked with
      | some target => cases later
      | none =>
        have turn : turns (cycleTrace limit (route :: rest) r) =
            ⟨route, r⟩ :: turns (cycleTrace limit rest q) := by
          simp only [cycleTrace, Operation.thereafter, first]
          rfl
        rw [turn, List.map_cons, ih later]

theorem routes_of_raise {kind : EventKind} (starts : kind.starts r.options.trigger = true)
    (ended : (raise limit kind).start r = some (.ok none, r')) :
    (turns (raiseTrace limit kind r)).map (·.route) = r.routes := by
  simp only [raise_eq, Operation.start_bind] at ended
  obtain ⟨⟨out, q⟩, told, later⟩ := Option.bind_eq_some_iff.1 ended
  obtain ⟨rfl, keeps⟩ := keeps_tellChange told
  simp only [Operation.start_get, Option.bind_some, keeps.options, starts, if_true] at later
  have trace : turns (raiseTrace limit kind r) = turns (cycleTrace limit q.routes q) := by
    simp only [raiseTrace, Operation.thereafter, told, keeps.options, starts, if_true]
    rfl
  rw [trace, routes_of_cycle later, keeps.routes]

/-- A visit in which no route asks for a redirect or fails evaluates all routes. -/
theorem routes_of_visit {path : String}
    (ended : (visit limit path).start r = some (.ok none, r')) :
    (turns (visitTrace limit path r)).map (·.route) = r.routes := by
  simp only [visit, start_report, Operation.start_bind, Operation.start_get, Operation.start_modify,
    Option.bind_some, ← sent_eq] at ended
  obtain ⟨⟨out, q⟩, first, later⟩ := Option.bind_eq_some_iff.1 ended
  have table : (r.sent path).routes = r.routes := rfl
  cases out with
  | error e => cases later
  | ok asked =>
    have keeps := (part_raise limit .navigate (r.sent path)).keeps first
    simp only [visitTrace, Operation.thereafter, first, turns_append]
    simp only at later
    cases trigger : q.options.trigger with
    | navigate =>
      simp only [trigger, Operation.start_pure, Option.some.injEq, Prod.mk.injEq,
        Except.ok.injEq] at later
      rw [later.1] at first
      have starts : EventKind.navigate.starts (r.sent path).options.trigger = true := by
        rw [← keeps.options, trigger]
        rfl
      have all := routes_of_raise starts first
      rw [table] at all
      simpa [turns] using all
    | hashChange =>
      simp only [trigger] at later
      have idle : EventKind.navigate.starts (r.sent path).options.trigger = false := by
        rw [← keeps.options, trigger]
        rfl
      have starts : EventKind.hashChange.starts q.options.trigger = true := by
        rw [trigger]
        rfl
      rw [turns_raiseTrace_of_idle idle, List.nil_append, routes_of_raise starts later, keeps.routes,
        table]

end

/-! ## The part of a command before any redirect -/

namespace Command

/-- What a command would add to the routes. -/
def enlists? : Command L → Option (Pattern × List Handler × Handler)
  | register p middleware h => some (p, middleware, h)
  | registerIn scope value middleware h =>
    some (.path (scope.patternFor value), scope.middleware ++ middleware, h)
  | _ => none

/-- The route that a command adds; `none` if its pattern is invalid. -/
def route? (c : Command L) (r : Router L) : Option Route :=
  c.enlists?.bind fun (p, middleware, h) => (routeOf p middleware h r).toOption

/-- What a command sets before any route is evaluated. -/
def setting (c : Command L) (r : Router L) : Router L :=
  match c with
  | navigate path => r.setPath path
  | change c => c.apply r
  | c => c.enlists?.elim r fun (p, _) =>
    { r with
      cache := (r.cache.compile r.options.matching p).2
      routes := r.routes ++ (c.route? r).toList }

theorem setting_facts (c : Command L) (r : Router L) :
    (c.setting r).redirectDepth = r.redirectDepth ∧ (c.setting r).options = r.options ∧
      (c.setting r).routes = r.routes ++ (c.route? r).toList := by
  cases c with
  | register p middleware h => exact ⟨rfl, rfl, rfl⟩
  | registerIn scope value middleware h => exact ⟨rfl, rfl, rfl⟩
  | change change => cases change <;> exact ⟨rfl, rfl, (List.append_nil _).symm⟩
  | _ => exact ⟨rfl, rfl, (List.append_nil _).symm⟩

/-- The routes that a command evaluates, as far as none of them asks for a redirect or fails. -/
def table (c : Command L) (r : Router L) : List Route :=
  match c with
  | navigate _ | dispatch | handleChange _ => r.routes
  | emit kind => if kind = .matched then [] else r.routes
  | c => (c.route? r).toList

end Command

/-- A route that has just joined the others has its turn. -/
theorem part_enlisted {limit : Nat} {x : Operation (Router L) Route} {r : Router L} (set : Router L)
    {route : Except RouterError Route}
    (enlisted : ∃ records, x.start r = some (route, { set with session := r.session.report records })) :
    Part limit ((do evaluate limit (← x) : Operation (Router L) (Option String)).start r)
      (x.thereafter (fun route r => [.turn ⟨route, r⟩]) r) set route.toOption.toList := by
  obtain ⟨records, ended⟩ := enlisted
  have keeps := set.keeps_of_session (r.session.report records) set.current
  simp only [Operation.start_bind, Operation.thereafter, ended]
  cases route with
  | error e => exact .of_keeps keeps (.failed e _ _)
  | ok route => exact .of_keeps keeps (.turn limit route [] _)

theorem Command.start_own_handleChange (limit : Nat) (signal : Signal) (r : Router L) :
    ((handleChange signal).own limit).start r = (raise limit signal.kind).start (r.signalled signal) := by
  simp only [own, Operation.start_bind, start_report, Option.bind_some, signalled]

theorem part_own (limit : Nat) (c : Command L) (r : Router L) :
    Part limit ((c.own limit).start r) (c.ownTrace limit r) (c.setting r) (c.table r) := by
  cases c with
  | register p middleware h =>
    exact part_enlisted ((Command.register p middleware h).setting r)
      (start_enlist p middleware h r)
  | registerIn scope value middleware h =>
    exact part_enlisted ((Command.registerIn scope value middleware h).setting r)
      (start_enlistIn scope value middleware h r)
  | navigate path => exact part_visit limit path r
  | dispatch => exact part_cycle limit r.routes r
  | emit kind =>
    cases kind with
    | matched => exact .of_keeps (r.keeps_of_session _ r.current) (.idle _ [])
    | navigate => exact part_raise limit .navigate r
    | hashChange => exact part_raise limit .hashChange r
  | handleChange signal =>
    rw [Command.start_own_handleChange]
    exact .of_keeps (r.keeps_of_session _ r.current) (part_raise limit signal.kind (r.signalled signal))
  | act chain actions =>
    have only : Part limit ((Command.act chain actions |>.own limit).start r) [] r [] := by
      simp only [Command.own, Operation.start_bind, inSession, Operation.start_within]
      cases (Session.act limit chain actions).start r.session with
      | none => exact .stuck _ _
      | some o =>
        obtain ⟨e | _, s⟩ := o
        · exact .of_keeps (r.keeps_of_session s _) (.failed e _ _)
        · exact .of_keeps (r.keeps_of_session s _) (.idle _ _)
    exact .after [.act chain actions r] (by simpa using .refl r) rfl (.refl r) only
  | change c => exact .idle _ []

end Routing
