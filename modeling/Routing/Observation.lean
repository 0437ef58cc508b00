import Routing.Chain
import Routing.Event

/-!
# Observations

What handlers and listeners make known, in the order in which it happens.

* `Observation`: one thing made known
-/
namespace Routing

def Chain.summary (c : Chain) : ChainSummary :=
  ⟨c.route, c.value, c.propagates⟩

inductive Observation where
  | note (data : String)
  /-- How a guarded call ended. -/
  | caught (failure : Option RouterError)
  /-- The continuation; `none` if it is used. -/
  | next (report : Option NextReport)
  | param (name : String) (value : Option String)
  | index (n : Nat) (value : Option String)
  | request (request : Option Request)
  | chain (report : ChainReport)
  | context (route regex : String) (request : Request) (isMatch : Bool)
  | text (description : String)
  /-- A listener heard that a route matched a path. -/
  | heardMatch (route path : String)
  /-- A listener heard of a change of the path. -/
  | heardChange (kind : EventKind) (path : String)
  deriving DecidableEq, Repr

end Routing
