/-!
# What can fail

A pattern may be invalid, and a handler may fail. A path that no route matches is no error. Of the diagnosis of an
invalid pattern the message keeps the last line.
-/
namespace Routing

inductive RouterError where
  | invalidPattern (pattern message : String)
  | handler (message : String)
  deriving DecidableEq, Repr

namespace RouterError

def message : RouterError → String
  | invalidPattern pattern reason => "Invalid route pattern '" ++ pattern ++ "': " ++ reason
  | handler reason => "Handler failed: " ++ reason

def isInvalidPattern : RouterError → Bool
  | invalidPattern .. => true
  | handler _ => false

def isHandler : RouterError → Bool
  | invalidPattern .. => false
  | handler _ => true

end RouterError

end Routing
