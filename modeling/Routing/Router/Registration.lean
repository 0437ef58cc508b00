import Routing.Router.Cycle

/-!
# Registration

A route is evaluated on the present path as soon as it is registered.

* `Router.register`: adds a route
* `Scope.patternFor`: the pattern of a route below a common stem
* `Scope.register`: adds a route below the stem, with common middleware
-/
namespace Routing

variable {L : Type} [Host L]

namespace Router

/-- Compiles a pattern through the cache. -/
def compile (p : Pattern) : Operation (Router L) CompiledPattern := do
  let r ← get
  report (r.cache.compileLog r.options.matching p)
  let (result, cache) := r.cache.compile r.options.matching p
  modify fun r => { r with cache := cache }
  match result with
  | .ok compiled => return compiled
  | .error e => throw e

/-- Adds a route behind the others and evaluates it. An invalid pattern adds nothing. -/
def register (limit : Nat) (p : Pattern) (middleware : List Handler) (handler : Handler) :
    Operation (Router L) Unit := do
  let route : Route := ⟨← compile p, middleware, handler⟩
  report [Log.info ("Registered route '" ++ route.pattern.source ++ "' (" ++
    toString middleware.length ++ " middleware)")]
  modify fun r => { r with routes := r.routes ++ [route] }
  follow limit (← evaluate limit route)

/-- Adds a route without middleware. -/
def add (limit : Nat) (p : Pattern) (handler : Handler) : Operation (Router L) Unit :=
  register limit p [] handler

/-- Adds routes without middleware, up to the first that fails. -/
def addAll (limit : Nat) (table : List (Pattern × Handler)) : Operation (Router L) Unit :=
  table.forM fun (p, h) => add limit p h

end Router

/-- A stem that routes have in common, and middleware that runs before their own. -/
structure Scope where
  stem : String
  middleware : List Handler := []

namespace Scope

/-- Puts a slash between the stem and the value, unless there is one or nothing follows. -/
def patternFor (scope : Scope) (value : String) : String :=
  let rest := match value.toList with
    | '/' :: rest => rest
    | all => all
  let joined := scope.stem.toList.getLast? != some '/' && value != "/" && !value.isEmpty
  String.ofList (scope.stem.toList ++ (if joined then ['/'] else []) ++ rest)

/-- Adds a route below the stem. -/
def register (limit : Nat) (scope : Scope) (value : String) (middleware : List Handler)
    (handler : Handler) : Operation (Router L) Unit := do
  let text := scope.patternFor value
  Router.report [Log.trace ("Scope '" ++ scope.stem ++ "' registering '" ++ text ++ "'")]
  Router.register limit (.path text) (scope.middleware ++ middleware) handler

end Scope

end Routing
