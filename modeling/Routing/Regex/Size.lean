import Routing.Regex.Size.Shape

/-!
# The size of an expression

An expression is limited by the automata that it could be turned into, one that reads a text forward and
notes its groups, and one that reads it backward. A counted part stands in them once for each pass.

* `Node.size`: the room that an automaton takes
* `Node.sizeBound`: a bound on it that is quickly found
* `Node.fits`: whether both automata stay within a limit
-/
namespace Routing.Regex

open Routing.Unicode

namespace Node

/-- Whether every match begins at the start of the text, as far as the assertions at the front tell. -/
def startsAtStart : Node → Bool
  | look l => l == .start
  | empty | set _ => false
  | seq a b => a.startsAtStart || (a.takesNothing && b.startsAtStart)
  | alt a b => a.startsAtStart && b.startsAtStart
  | group _ _ a => a.startsAtStart
  | rep least _ _ a => decide (0 < least) && a.startsAtStart

/-- Whether every match ends at the end of the text, as far as the assertions at the back tell. -/
def stopsAtStop : Node → Bool
  | look l => l == .stop
  | empty | set _ => false
  | seq a b => b.stopsAtStop || (b.takesNothing && a.stopsAtStop)
  | alt a b => a.stopsAtStop && b.stopsAtStop
  | group _ _ a => a.stopsAtStop
  | rep least _ _ a => decide (0 < least) && a.stopsAtStop

/-- The room of an automaton: a loop over any bytes, unless matches are tied to the place where reading
begins, the node, the whole match as a group when reading forward, and a last state. -/
def size (limit : Nat) (d : Direction) (node : Node) : Nat :=
  let shape := node.shape false
  let tied := match d with | .forward => node.startsAtStart | .backward => node.stopsAtStop
  let before : Tally := if tied then ⟨1, 0⟩ else ⟨3, Tally.transition + 2 * Tally.way⟩
  match d with
  | .forward => ((shape.tally limit d (before.add 1 0)).add 2 (shape.linkRoom d)).bytes
  | .backward => ((shape.tally limit d before).add 1 (shape.linkRoom d)).bytes

/-! ## A bound -/

/-- No fewer than the members of a set, if there is a bound that is quickly found. -/
def memberBound? : CharSet → Option Nat
  | .empty => some 0
  | .range first last => some (last.toNat + 1 - first.toNat)
  | .union a b => do return (← memberBound? a) + (← memberBound? b)
  | _ => none

/-- No fewer ranges than a set has. A case class has four members at most, and all of them together have
less than four thousand. -/
def rangeBound : CharSet → Nat
  | .empty => 0
  | .any | .range .. => 1
  | .spans table =>
    table.foldl (fun n s => n + if s.step = 1 then 1 else s.last - s.first + 1) 0
  | .union a b | .inter a b => rangeBound a + rangeBound b
  | .compl a => rangeBound a + 1
  | .foldsAs _ => 8
  | .folded a => rangeBound a + (memberBound? a).elim 4000 fun n => min 4000 (4 * n)
  | .asciiFolded a => rangeBound a + 64

/-- A bound on the room of a node. A range of characters takes no more than seventeen sequences, of at most
four states each. -/
def roomBound : Node → Nat
  | empty | look _ => 64
  | set s => 3000 * rangeBound s + 64
  | seq a b => a.roomBound + b.roomBound
  | alt a b => a.roomBound + b.roomBound + 128
  | group _ _ a => a.roomBound + 128
  | rep least most _ a => (max least (most.getD 0) + 1) * (a.roomBound + 64) + 128

def sizeBound (node : Node) : Nat :=
  node.roomBound + 512

/-- Whether both automata stay within a limit. -/
def fits (limit : Nat) (node : Node) : Bool :=
  decide (node.sizeBound ≤ limit) ||
    (decide (node.size limit .backward ≤ limit) && decide (node.size limit .forward ≤ limit))

end Node

end Routing.Regex
