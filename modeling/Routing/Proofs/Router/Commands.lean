import Routing.Proofs.Operation
import Routing.Proofs.Session.Aging
import Routing.Router.Registration

/-!
# Commands

What anyone can ask of a router.

* `Command.perform`: the operation of a command
* `Command.own`, `Command.start_perform`: a command before any redirect, and the redirects after it
* `serve`: command after command
-/
namespace Routing

variable {L : Type} [Host L]

/-! ## Commands -/

/-- What is set without a look at the routes. -/
inductive Change (L : Type) [Host L] where
  | useGlobal (h : Handler)
  | listenFor (l : Listener)
  | setPath (path : String)
  | clearPath
  /-- The host goes elsewhere. -/
  | relocate (location : L)

def Change.apply : Change L → Router L → Router L
  | useGlobal h, r => r.useGlobal h
  | listenFor l, r => r.listenFor l
  | setPath path, r => r.setPath path
  | clearPath, r => r.clearPath
  | relocate location, r => { r with location }

/-- What anyone can ask of a router, or do to what it made. -/
inductive Command (L : Type) [Host L] where
  | register (p : Pattern) (middleware : List Handler) (handler : Handler)
  | registerIn (scope : Scope) (value : String) (middleware : List Handler) (handler : Handler)
  | navigate (path : String)
  | dispatch
  | emit (kind : EventKind)
  | handleChange (signal : Signal)
  /-- Actions from outside: on a chain that someone holds, or with continuations that were put aside. -/
  | act (chain : Option ChainId) (actions : List Action)
  | change (change : Change L)

namespace Router

theorem start_compile (p : Pattern) (r : Router L) :
    (compile p).start r = some ((r.cache.compile r.options.matching p).1,
      { r with
        session := r.session.report (r.cache.compileLog r.options.matching p)
        cache := (r.cache.compile r.options.matching p).2 }) := by
  simp only [compile, report, Operation.start_bind, Operation.start_get, Operation.start_modify,
    Option.bind_some]
  cases (r.cache.compile r.options.matching p).1 <;> rfl

/-- A route joins the others. -/
def enlist (p : Pattern) (middleware : List Handler) (handler : Handler) : Operation (Router L) Route := do
  let route : Route := ⟨← compile p, middleware, handler⟩
  report [Log.info ("Registered route '" ++ route.pattern.source ++ "' (" ++
    toString middleware.length ++ " middleware)")]
  modify fun r => { r with routes := r.routes ++ [route] }
  return route

/-- The route that is made of a pattern and handlers. -/
def routeOf (p : Pattern) (middleware : List Handler) (handler : Handler) (r : Router L) :
    Except RouterError Route :=
  (r.cache.compile r.options.matching p).1.map (⟨·, middleware, handler⟩)

/-- The route joins the others if its pattern is valid. -/
theorem start_enlist (p : Pattern) (middleware : List Handler) (h : Handler) (r : Router L) :
    ∃ records, (enlist p middleware h).start r = some (routeOf p middleware h r,
      { r with
        session := r.session.report records
        cache := (r.cache.compile r.options.matching p).2
        routes := r.routes ++ (routeOf p middleware h r).toOption.toList }) := by
  simp only [enlist, routeOf, Operation.start_bind, start_compile, Option.bind_some]
  cases (r.cache.compile r.options.matching p).1 with
  | error e =>
    exact ⟨r.cache.compileLog r.options.matching p, by simp [Except.map, Except.toOption]⟩
  | ok compiled =>
    refine ⟨r.cache.compileLog r.options.matching p ++ [Log.info ("Registered route '" ++
      compiled.source ++ "' (" ++ toString middleware.length ++ " middleware)")], ?_⟩
    rw [Session.report_append]
    rfl

/-- A route below the stem of a scope joins the others. -/
def enlistIn (scope : Scope) (value : String) (middleware : List Handler) (handler : Handler) :
    Operation (Router L) Route := do
  report [Log.trace ("Scope '" ++ scope.stem ++ "' registering '" ++ scope.patternFor value ++ "'")]
  enlist (.path (scope.patternFor value)) (scope.middleware ++ middleware) handler

theorem start_enlistIn (scope : Scope) (value : String) (middleware : List Handler) (h : Handler)
    (r : Router L) :
    ∃ records, (enlistIn scope value middleware h).start r = some
      (routeOf (.path (scope.patternFor value)) (scope.middleware ++ middleware) h r,
        { r with
          session := r.session.report records
          cache := (r.cache.compile r.options.matching (.path (scope.patternFor value))).2
          routes := r.routes ++ (routeOf (.path (scope.patternFor value))
            (scope.middleware ++ middleware) h r).toOption.toList }) := by
  simp only [enlistIn, Operation.start_bind, report, Operation.start_modify, Option.bind_some]
  obtain ⟨records, ended⟩ := start_enlist (.path (scope.patternFor value))
    (scope.middleware ++ middleware) h { r with session := r.session.report [Log.trace
      ("Scope '" ++ scope.stem ++ "' registering '" ++ scope.patternFor value ++ "'")] }
  rw [← Session.report_append] at ended
  exact ⟨_, ended⟩

end Router

namespace Command
open Router

def perform (limit : Nat) : Command L → Operation (Router L) Unit
  | register p middleware h => Router.register limit p middleware h
  | registerIn scope value middleware h => scope.register limit value middleware h
  | navigate path => Router.navigate limit path
  | dispatch => Router.dispatch limit
  | emit kind => Router.emit limit kind
  | handleChange signal => Router.handleChange limit signal
  | act chain actions => inSession (Session.act limit chain actions)
  | change c => modify c.apply

/-- What a command is before any redirect. -/
def own (limit : Nat) : Command L → Operation (Router L) (Option String)
  | register p middleware h => do evaluate limit (← enlist p middleware h)
  | registerIn scope value middleware h => do evaluate limit (← enlistIn scope value middleware h)
  | navigate path => visit limit path
  | dispatch => do cycle limit (← get).routes
  | emit .matched => do
    report [Log.trace "Ignoring external emit of a match event"]
    return none
  | emit kind => raise limit kind
  | handleChange signal => do
    report [Log.trace ("Navigation signal " ++ signal.describe)]
    raise limit signal.kind
  | act chain actions => do
    inSession (Session.act limit chain actions)
    return none
  | change c => do
    modify c.apply
    return none

theorem start_follow_none (limit : Nat) (r : Router L) :
    (follow limit none).start r = some (.ok (), r) := by
  simp only [follow, Operation.start_bind, Operation.start_get, Option.bind_some]
  cases maxRedirectDepth - r.redirectDepth <;> rfl

/-- A command is what it is before any redirect, and then the redirects. -/
theorem start_perform (limit : Nat) (c : Command L) (r : Router L) :
    (c.perform limit).start r = (do follow limit (← c.own limit) : Operation (Router L) Unit).start r := by
  cases c with
  | register p middleware h =>
    simp only [perform, own, Router.register, enlist, bind_assoc, pure_bind]
  | registerIn scope value middleware h =>
    simp only [perform, own, Scope.register, Router.register, enlistIn, enlist, bind_assoc, pure_bind]
  | navigate path => rfl
  | dispatch => simp only [perform, own, Router.dispatch, bind_assoc]
  | emit kind =>
    cases kind with
    | matched => exact (start_follow_none limit _).symm
    | navigate => rfl
    | hashChange => rfl
  | handleChange signal =>
    cases signal <;>
      simp only [perform, own, Router.handleChange, Router.emit, Signal.kind, bind_assoc]
  | act chain actions =>
    simp only [perform, own, Operation.start_bind]
    cases (inSession (Session.act limit chain actions)).start r with
    | none => rfl
    | some o =>
      obtain ⟨_ | _, r'⟩ := o
      · rfl
      · exact (start_follow_none limit r').symm
  | change c => exact (start_follow_none limit _).symm

end Command

/-- The router after a series of commands, whether they succeed or fail; `none` if one does not end. -/
def serve (limit : Nat) : List (Command L) → Router L → Option (Router L)
  | [], r => some r
  | c :: rest, r => ((c.perform limit).start r).bind fun o => serve limit rest o.2

theorem serve_append (limit : Nat) (first second : List (Command L)) (r : Router L) :
    serve limit (first ++ second) r = (serve limit first r).bind (serve limit second) := by
  induction first generalizing r with
  | nil => rfl
  | cons c rest ih => simp only [List.cons_append, serve, ih, Option.bind_assoc]

end Routing
