import Routing.Regex.Look
import Routing.Unicode.Edges

/-!
# What a regular expression matches

The tree that matching runs on. Characters and case are settled to sets, flags and lazy repetition to
the direction of each choice. Sequences and alternations lean to the left, a sequence has no empty
part, and branches of an alternation that begin alike share their beginning.

* `Node.minLength?`: the least number of characters that a match takes
* `Node.takesNothing`: whether every match takes no character
* `Node.groups`: the capture groups that take part
* `Node.append`, `Node.repeated`, `Node.settled`: sequences, repetitions and alternations in normal form
-/
namespace Routing.Regex

open Routing.Unicode

inductive Node where
  | empty
  /-- One character of a set. The set without members is `CharSet.empty`, spelled no other way. -/
  | set (chars : CharSet)
  | look (l : Look)
  | seq (a b : Node)
  | alt (a b : Node)
  | group (index : Nat) (name : Option String) (a : Node)
  /-- Between `least` and `most` times; `none` sets no upper limit. -/
  | rep (least : Nat) (most : Option Nat) (greedy : Bool) (a : Node)
  deriving Repr

namespace Node

/-- One character of a set. -/
def ofSet (s : CharSet) : Node :=
  if s.isEmpty then set .empty else set s

/-- The least number of characters that a match takes, unless a part of the node can never match. -/
def minLength? : Node → Option Nat
  | empty | look _ => some 0
  | set .empty => none
  | set _ => some 1
  | seq a b => do return (← a.minLength?) + (← b.minLength?)
  | alt a b => do return min (← a.minLength?) (← b.minLength?)
  | group _ _ a => a.minLength?
  | rep least _ _ a => a.minLength?.map (least * ·)

/-- A loop over such a node may go round without taking a character, as far as lengths tell. -/
def mayTakeNothing (a : Node) : Bool :=
  a.minLength?.all (· == 0)

def takesNothing : Node → Bool
  | empty | look _ => true
  | set _ => false
  | seq a b | alt a b => a.takesNothing && b.takesNothing
  | group _ _ a => a.takesNothing
  | rep _ most _ a => most.isSome && a.takesNothing

/-- Index and name of each capture group, in the order of the expression. -/
def groups : Node → List (Nat × Option String)
  | empty | set _ | look _ => []
  | seq a b | alt a b => a.groups ++ b.groups
  | group i name a => (i, name) :: a.groups
  | rep _ _ _ a => a.groups

/-! ## Sequences -/

/-- One node after the other. -/
def append : Node → Node → Node
  | a, empty => a
  | a, seq b c => seq (append a b) c
  | empty, b => b
  | a, b => seq a b

def ofFactors (factors : List Node) : Node :=
  factors.foldl append empty

/-- The parts of a sequence. -/
def factors : Node → List Node
  | empty => []
  | seq a b => a.factors ++ b.factors
  | a => [a]

/-! ## Repetitions -/

/-- Between `least` and `most` times. A part that takes nothing needs no second pass. -/
def repeated (a : Node) (greedy : Bool) (least : Nat) (most : Option Nat) : Node :=
  let once := a.takesNothing
  let least := if once then min least 1 else least
  let most := if once then some (most.elim 1 (min 1)) else most
  match least, most with
  | 0, some 0 => empty
  | 1, some 1 => a
  | least, most => rep least most greedy a

/-! ## Alternations -/

/-- The branches of an alternation. -/
def branches : Node → List Node
  | alt a b => a.branches ++ b.branches
  | a => [a]

def ofBranches : List Node → Node
  | [] => set .empty
  | b :: rest => rest.foldl alt b

/-- A single character. -/
def isLiteral : Node → Bool
  | set s => s.single?.isSome
  | _ => false

/-- A set of characters that is no single one. -/
def isClass : Node → Bool
  | set s => s.single?.isNone
  | _ => false

/-- Whether two nodes are the same but for the spelling of their sets. -/
def same : Node → Node → Bool
  | empty, empty => true
  | set s, set t => s.same t
  | look l, look m => l == m
  | seq a b, seq c d | alt a b, alt c d => a.same c && b.same d
  | group i name a, group j name' b => i == j && name == name' && a.same b
  | rep least most greedy a, rep least' most' greedy' b =>
    least == least' && most == most' && greedy == greedy' && a.same b
  | _, _ => false

/-- The parts of a sequence, in which neighbouring single characters are one part. -/
def atoms (a : Node) : List (List Node) :=
  a.factors.splitBy fun x y => x.isLiteral && y.isLiteral

def sameAtom : List Node → List Node → Bool
  | [], [] => true
  | a :: as, b :: bs => a.same b && sameAtom as bs
  | _, _ => false

/-- How many atoms two sequences begin with in common. -/
def commonLength : List (List Node) → List (List Node) → Nat
  | x :: xs, y :: ys => if sameAtom x y then commonLength xs ys + 1 else 0
  | _, _ => 0

/-- An alternation of nothing but single characters, or of nothing but classes, is one set. -/
def merged? (branches : List Node) : Option Node :=
  if branches.all isLiteral || branches.all isClass then
    some (ofSet (.unionAll (branches.filterMap fun b => match b with | set s => some s | _ => none)))
  else none

/-- What all branches begin with, followed by a choice of what is left of each. Only branches of two
atoms or more are taken apart. -/
def shared? (branches : List Node) : Option Node :=
  match branches.map atoms with
  | [] => none
  | first :: rest =>
    let count := rest.foldl (fun n b => min n (commonLength first b)) first.length
    if (first :: rest).all (2 ≤ ·.length) && decide (0 < count) then
      let suffixes := (first :: rest).map fun b => ofFactors (b.drop count).flatten
      let rest := suffixes.flatMap Node.branches
      some ((ofFactors (first.take count).flatten).append ((merged? rest).getD (ofBranches rest)))
    else none

/-- An alternation as it stands alone or in its group, all of its branches known. -/
def settled (a : Node) : Node :=
  match a with
  | alt .. => (merged? a.branches <|> shared? a.branches).getD (ofBranches a.branches)
  | a => a

end Node

end Routing.Regex
