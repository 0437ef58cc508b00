import Routing.Options

/-!
# Events

What a router announces to its listeners.

* `EventKind.starts`: the events that start a cycle
-/
namespace Routing

inductive EventKind where
  /-- A route matched, and its chain has not run yet. -/
  | matched
  /-- The path was changed by navigation, or an entry of the history was popped. -/
  | navigate
  | hashChange
  deriving DecidableEq, Repr

namespace EventKind

/-- Whether an event of this kind starts a cycle. -/
def starts (t : Trigger) : EventKind → Bool
  | matched => false
  | navigate => t == .navigate
  | hashChange => t == .hashChange

def describe : EventKind → String
  | matched => "Match"
  | navigate => "Navigate"
  | hashChange => "HashChange"

end EventKind

/-- A change that a host reports on its own. -/
inductive Signal where
  | hashChange
  | popState
  deriving DecidableEq, Repr

namespace Signal

def kind : Signal → EventKind
  | hashChange => .hashChange
  | popState => .navigate

def describe : Signal → String
  | hashChange => "HashChange"
  | popState => "PopState"

end Signal

end Routing
