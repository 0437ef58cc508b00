import Routing.Regex.Look
import Routing.Unicode.CharSet

/-!
# Threads

* `Thread`: a place in the text with what was matched on the way to it
* `Thread.step`: takes a character of a set
* `Thread.bind`: notes what a group has matched
-/
namespace Routing.Regex

open Routing.Unicode

/-- A place in the text, between the character before it and the rest, with the groups that were
matched on the way, the latest first. -/
structure Thread where
  index : Nat
  before : Option Char
  rest : List Char
  bindings : List (Nat × Nat × Nat)
  deriving DecidableEq, Repr

namespace Thread

/-- Takes the next character if it belongs to the set. -/
def step (t : Thread) (s : CharSet) : Option Thread :=
  match t.rest with
  | [] => none
  | c :: rest => if s.contains c then some ⟨t.index + 1, some c, rest, t.bindings⟩ else none

/-- Notes that a group has matched from `start` to the present place. -/
def bind (t : Thread) (group start : Nat) : Thread :=
  { t with bindings := (group, start, t.index) :: t.bindings }

/-- Whether an assertion holds at the present place. -/
def satisfies (t : Thread) (l : Look) : Bool :=
  l.holdsBetween t.before t.rest.head?

end Thread

end Routing.Regex
