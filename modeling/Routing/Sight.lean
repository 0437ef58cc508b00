import Routing.Request

/-!
# What handlers see

A handler sees its chain with the chains before it, its continuation, and what it has counted and put
aside.

* `ChainReport`: a chain as others see it
* `Sight`: all that a handler may go by
-/
namespace Routing

/-- What a chain knows about the route that produced it. -/
structure RouteContext where
  route : String
  request : Request
  regex : Regex
  deriving Repr

structure ChainSummary where
  route : String
  value : String
  propagates : Bool
  deriving DecidableEq, Repr

/-- A chain with the chains before it. -/
structure ChainReport where
  route : String
  value : String
  pending : Nat
  runsDefault : Bool
  propagates : Bool
  started : Bool
  redirect : Option String
  previous : Option ChainSummary
  /-- The chain before the previous one. -/
  grandparent : Option ChainSummary
  parent : Option ChainSummary
  params : Params
  deriving DecidableEq, Repr

/-- A continuation that is not used yet. `own` says that it belongs to the chain at hand. -/
structure NextReport where
  value : String
  pending : Nat
  own : Bool
  text : String
  deriving DecidableEq, Repr

/-- What a handler sees at one moment, as far as it has a chain and a continuation. -/
structure Sight where
  chain : Option ChainReport
  context : Option RouteContext
  next : Option NextReport
  counters : List (String × Nat)
  /-- The slots that hold a continuation. -/
  parked : List String
  /-- The slots that hold a chain. -/
  handles : List String

end Routing
