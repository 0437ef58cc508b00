/-!
# Log records

What the library reports while it works, for whoever listens.

* `Log.Record`: a text with its level
* `Log.Level.admits`: which levels a threshold lets through
-/
namespace Routing.Log

inductive Level where
  | trace
  | debug
  | info
  | warn
  | error
  deriving DecidableEq, Repr

namespace Level

def severity : Level → Nat
  | trace => 0
  | debug => 1
  | info => 2
  | warn => 3
  | error => 4

/-- A threshold lets through its own level and the more severe ones. -/
def admits (threshold l : Level) : Bool :=
  decide (threshold.severity ≤ l.severity)

end Level

structure Record where
  level : Level
  text : String
  deriving DecidableEq, Repr

def trace (text : String) : Record := ⟨.trace, text⟩
def debug (text : String) : Record := ⟨.debug, text⟩
def info (text : String) : Record := ⟨.info, text⟩
def warn (text : String) : Record := ⟨.warn, text⟩
def error (text : String) : Record := ⟨.error, text⟩

end Routing.Log
