import Routing.Regex.Lowering
import Routing.Regex.Matching
import Routing.Regex.Reader
import Routing.Regex.Size

/-!
# Regular expressions

* `Regex.compile`: the matcher for a text, or what is wrong with the text
* `Regex.isMatch`: whether a text has a match anywhere
* `Regex.find`: the leftmost match with its groups
-/
namespace Routing

structure Regex where
  /-- The text it was compiled from. -/
  text : String
  ignoreCase : Bool
  node : Regex.Node
  deriving Repr

namespace Regex

/-- The largest automaton that is accepted, in bytes. -/
def sizeLimit : Nat := 10 * Nat.pow 2 20

def compile (text : String) (ignoreCase : Bool) : Except RegexError Regex := do
  let expr ← Expr.read text.toList
  let (node, _) ← expr.lower { ignoreCase := ignoreCase }
  if node.settled.fits sizeLimit then return ⟨text, ignoreCase, node.settled⟩
  else throw (.sizeLimitExceeded sizeLimit)

/-- The number of capture groups: those that take part, and any before them that do not. -/
def groupCount (r : Regex) : Nat :=
  (r.node.groups.map (·.1)).foldl max 0

/-- The index of the group with this name. -/
def groupIndex? (r : Regex) (name : String) : Option Nat :=
  (r.node.groups.find? (·.2 == some name)).map (·.1)

/-- A match from `start` to `stop`, with the text that each group matched last. -/
structure Match where
  start : Nat
  stop : Nat
  groups : List (Option String)
  deriving DecidableEq, Repr

namespace Match

/-- What group `i` matched, counted from one. -/
def group? (m : Match) (i : Nat) : Option String :=
  m.groups[i - 1]?.join

end Match

/-- The text of a group in the outcome of a match. -/
def boundText? (text : List Char) (t : Thread) (group : Nat) : Option String :=
  (t.bindings.find? (·.1 == group)).map fun (_, start, stop) =>
    String.ofList ((text.drop start).take (stop - start))

def find? (r : Regex) (text : String) : Option Match :=
  (r.node.search text.toList).map fun (start, t) =>
    ⟨start, t.index, (List.range r.groupCount).map fun i => boundText? text.toList t (i + 1)⟩

def isMatch (r : Regex) (text : String) : Bool :=
  (r.find? text).isSome

end Regex

end Routing
