import Routing.Pattern

/-!
# Options

* `RouterOptions`: how a router reads its location and compares paths
* `RouterOptions.trigger`: the event that starts a cycle
-/
namespace Routing

/-- A server has no fragments that change. -/
inductive Environment where
  | client
  | server
  deriving DecidableEq, Repr

/-- The event that makes a router look at its routes. -/
inductive Trigger where
  | hashChange
  | navigate
  deriving DecidableEq, Repr

structure RouterOptions where
  env : Environment := .client
  /-- Paths are read from the pathname, not from the fragment. -/
  pushState : Bool := false
  /-- What stands in front of every path in the pathname. -/
  root : String := ""
  /-- Fragments start with an exclamation mark. -/
  hashBang : Bool := false
  caseSensitive : Bool := false
  strict : Bool := false
  deriving DecidableEq, Repr

namespace RouterOptions

/-- Fragments are watched by a client that does not use the pathname. -/
def trigger (o : RouterOptions) : Trigger :=
  if !o.pushState && o.env != .server then .hashChange else .navigate

/-- What stands before the path in a fragment. -/
def hashMarker (o : RouterOptions) : List Char :=
  if o.hashBang then ['#', '!'] else ['#']

def matching (o : RouterOptions) : MatchOptions :=
  ⟨o.caseSensitive, o.strict⟩

end RouterOptions

end Routing
