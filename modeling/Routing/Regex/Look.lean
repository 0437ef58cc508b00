import Routing.Unicode.Property

/-!
# Assertions about a place

A place in a text lies between two characters, either of which may be missing.

* `Look.holdsBetween`: whether an assertion holds between two characters
-/
namespace Routing.Regex

open Routing.Unicode

/-- What an assertion asks of a place in the text. `unicode` widens words beyond ASCII. -/
inductive Look where
  | start
  | stop
  | lineStart
  | lineEnd
  /-- A carriage return with the line feed after it ends a line as one. -/
  | lineStartCrlf
  | lineEndCrlf
  | boundary (unicode : Bool)
  | notBoundary (unicode : Bool)
  | wordStart (unicode : Bool)
  | wordEnd (unicode : Bool)
  | wordStartHalf (unicode : Bool)
  | wordEndHalf (unicode : Bool)
  deriving DecidableEq, Repr

def isWordAt (unicode : Bool) (c : Option Char) : Bool :=
  c.any (if unicode then Unicode.word else Unicode.asciiWord).contains

/-- Whether the assertion holds between two characters, either of which may be missing. -/
def Look.holdsBetween (before after : Option Char) : Look → Bool
  | start => before.isNone
  | stop => after.isNone
  | lineStart => before.isNone || before == some '\n'
  | lineEnd => after.isNone || after == some '\n'
  | lineStartCrlf =>
    before.isNone || before == some '\n' || (before == some '\r' && after != some '\n')
  | lineEndCrlf => after.isNone || after == some '\r' || (after == some '\n' && before != some '\r')
  | boundary u => isWordAt u before != isWordAt u after
  | notBoundary u => isWordAt u before == isWordAt u after
  | wordStart u => !isWordAt u before && isWordAt u after
  | wordEnd u => isWordAt u before && !isWordAt u after
  | wordStartHalf u => !isWordAt u before
  | wordEndHalf u => !isWordAt u after

end Routing.Regex
