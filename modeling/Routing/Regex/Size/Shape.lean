import Routing.Regex.Node
import Routing.Regex.Size.Tally

/-!
# What takes room in an automaton

A node with its sets turned into sequences of byte ranges, so that a part that stands in the automaton many
times is prepared once.

* `Node.shape`: the shape of a node
* `Shape.tally`: the states of a shape, for reading forward and for reading backward
-/
namespace Routing.Regex

open Routing.Unicode

inductive Direction where
  | forward
  | backward
  deriving DecidableEq, Repr

inductive Shape where
  /-- States that are built anew wherever the shape stands. -/
  | plain (states entries : Nat)
  | table (sequences : List (List Utf8.ByteRange))
  | words (list : List (List Nat))
  | seq (a b : Shape)
  /-- An alternation leans to the left. -/
  | alt (a b : Shape)
  | group (a : Shape)
  | rep (least : Nat) (most : Option Nat) (mayTakeNothing : Bool) (a : Shape)
  deriving Repr

/-- The states for one character of a set. -/
def setShape (s : CharSet) : Shape :=
  match s.single? with
  | some c => .plain (Utf8.encodeChar c).length 0
  | none =>
    let ranges := s.ranges
    if ranges.all (·.2 < 0x80) then .plain 2 (Tally.transition * ranges.length)
    else .table (ranges.flatMap fun (first, last) => Utf8.sequences first last)

namespace Node

/-- The text of a sequence of single characters. -/
def literal? : Node → Option (List Char)
  | set s => s.single?.map ([·])
  | seq a b => do return (← a.literal?) ++ (← b.literal?)
  | _ => none

/-- The bytes of the branches of an alternation of words. -/
def words? : Node → Option (List (List Nat))
  | alt a b => do return (← a.words?) ++ (← b.words?)
  | a => a.literal?.map fun text => [Utf8.encode text]

/-- The shape of a node. `spine` marks an alternation that goes on in the one around it. -/
def shape : (spine : Bool) → Node → Shape
  | _, empty | _, look _ => .plain 1 0
  | _, set s => setShape s
  | _, seq a b => .seq (a.shape false) (b.shape false)
  | spine, alt a b =>
    match if spine then none else (alt a b).words? with
    | some list => .words list
    | none => .alt (a.shape true) (b.shape false)
  | _, group _ _ a => .group (a.shape false)
  | _, rep least most _ a => .rep least most a.mayTakeNothing (a.shape false)

end Node

namespace Shape

/-- Whether each copy takes the same room. -/
def isPlain : Shape → Bool
  | plain .. | words _ => true
  | table _ => false
  | seq a b | alt a b => a.isPlain && b.isPlain
  | group a | rep _ _ _ a => a.isPlain

/-- Whether the last state is a choice, which takes room for the way to what follows. -/
def endsInChoice (d : Direction) : Shape → Bool
  | plain .. | table _ | words _ | alt .. => false
  | seq a b => match d with | .forward => b.endsInChoice d | .backward => a.endsInChoice d
  | group a => match d with | .forward => false | .backward => a.endsInChoice d
  | rep least none mayTakeNothing _ => !(least == 0 && mayTakeNothing)
  | rep least (some most) _ a => decide (most ≤ least) && a.endsInChoice d

/-- The room for the way from the end of a shape to what follows. -/
def linkRoom (d : Direction) (a : Shape) : Nat :=
  if a.endsInChoice d then Tally.way else 0

/-- The same part `n` times over. Past the limit nothing more has to be counted. -/
def copies (limit : Nat) (part : Tally → Tally) : Nat → Tally → Tally
  | 0, t => t
  | n + 1, t => if limit < t.bytes then t else copies limit part n (part t)

/-- The same part `n` times over, in one step where each copy takes the same room. -/
def manyCopies (limit : Nat) (same : Bool) (part : Tally → Tally) (n : Nat) (t : Tally) : Tally :=
  if same then
    let one := part {}
    t.add (n * one.states) (n * one.entries)
  else copies limit part n t

/-- The states of a shape. A choice comes before the optional part, and behind the part that may be
repeated. -/
def tally (limit : Nat) (d : Direction) : Shape → Tally → Tally
  | plain states entries, t => t.add states entries
  | table sequences, t =>
    match d with
    | .forward => t.classForward sequences
    | .backward => t.classBackward sequences
  | words list, t =>
    let list := match d with | .forward => list | .backward => list.map List.reverse
    Tally.words ((list.map List.length).foldl max 0) list (t.add 1 0)
  | seq a b, t =>
    match d with
    | .forward => b.tally limit d ((a.tally limit d t).add 0 (a.linkRoom d))
    | .backward => a.tally limit d ((b.tally limit d t).add 0 (b.linkRoom d))
  | alt a b, t =>
    match a with
    | alt .. => (b.tally limit d (a.tally limit d t)).add 0 (Tally.way + b.linkRoom d)
    | _ =>
      (b.tally limit d (a.tally limit d t)).add 2 (2 * Tally.way + a.linkRoom d + b.linkRoom d)
  | group a, t =>
    match d with
    | .forward => (a.tally limit d (t.add 1 0)).add 1 (a.linkRoom d)
    | .backward => a.tally limit d t
  | rep least most mayTakeNothing a, t =>
    let linked (t : Tally) : Tally := (a.tally limit d t).add 0 (a.linkRoom d)
    let copies := manyCopies limit a.isPlain
    match least, most with
    | 0, some 1 => (linked (t.add 1 (2 * Tally.way))).add 1 0
    | 0, none =>
      if mayTakeNothing then (linked t).add 3 (4 * Tally.way) else linked (t.add 1 Tally.way)
    | n, none => (copies linked n t).add 1 Tally.way
    | n, some m =>
      if m ≤ n then a.tally limit d (copies linked (n - 1) t)
      else
        let t := if n = 0 then t.add 1 0 else copies linked n t
        copies (fun t => linked (t.add 1 (2 * Tally.way))) (m - n) (t.add 1 0)

end Shape

end Routing.Regex
