import Routing.Regex.Origins
import Routing.Regex.Rounds

/-!
# Matching

A match begins at the first place from which the expression leads anywhere. From there on, every
choice falls on the preferred way that still leads to an end, so that no choice is ever taken back;
only the rounds of a loop that may take nothing are tried out first.

* `Node.follow`: the preferred way from a place to one of the given ends
* `Node.search`: the leftmost match, preferred among those that start there
-/
namespace Routing.Regex

/-! ## Repetition

`body` follows one round to one of the given ends. -/

/-- One round to each of the given ends in turn. -/
def followAll (body : Places → Thread → Option Thread) : List Places → Thread → Option Thread
  | [], t => some t
  | ends :: later, t => (body ends t).bind (followAll body later)

/-- Whether to go on where going on leads to an end from `onward`, and stopping at `ends` does. -/
def goesOn (greedy : Bool) (onward ends : Places) (t : Thread) : Bool :=
  if greedy then onward.contains t.index else !ends.contains t.index

/-- No more rounds than are listed. -/
def followSome (body : Places → Thread → Option Thread) (round : Places → Places) (ends : Places)
    (greedy : Bool) : List Places → Thread → Option Thread
  | [], t => some t
  | next :: later, t =>
    if goesOn greedy (round next) ends t then
      (body next t).bind (followSome body round ends greedy later)
    else some t

/-- Any number of rounds. Each takes a character, so that there are no more than places left. -/
def followMany (body : Thread → Option Thread) (onward ends : Places) (greedy : Bool) :
    (fuel : Nat) → Thread → Option Thread
  | 0, t => some t
  | fuel + 1, t =>
    if goesOn greedy onward ends t then (body t).bind (followMany body onward ends greedy fuel)
    else some t

/-! ## Nodes -/

namespace Node

/-- The preferred way through a node from a place to one of `ends`; there has to be one. -/
def follow (x : Concordance) : Node → (ends : Places) → Thread → Option Thread
  | empty, _, t => some t
  | set s, _, t => t.step s
  | look l, _, t => if t.satisfies l then some t else none
  | seq a b, ends, t => (a.follow x (b.origins x ends) t).bind (b.follow x ends)
  | alt a b, ends, t =>
    if (a.origins x ends).contains t.index then a.follow x ends t else b.follow x ends t
  | group i _ a, ends, t => (a.follow x ends t).map (·.bind i t.index)
  | rep least most greedy a, ends, t =>
    let round := a.origins x
    match most with
    | some m =>
      let inside := originsWithin round ends (m - least)
      let further := Places.history (fun s => ends.union (round s)) (m - least) ends
      (followAll (a.follow x) (Places.history round least inside) t).bind
        (followSome (a.follow x) round ends greedy further)
    | none =>
      if a.mayTakeNothing then a.roundsTo? ends least greedy t
      else
        let inside := originsWithin round ends (x.size + 1)
        (followAll (a.follow x) (Places.history round least inside) t).bind
          (followMany (a.follow x inside) (round inside) ends greedy (x.size + 1))

/-- Goes through a text to the first of the places `starts`, and from there on to any end. -/
def searchFrom (node : Node) (x : Concordance) (starts : Places) (index : Nat)
    (before : Option Char) : List Char → Option (Nat × Thread)
  | [] =>
    if starts.contains index then
      (node.follow x x.everywhere ⟨index, before, [], []⟩).map (index, ·)
    else none
  | c :: rest =>
    if starts.contains index then
      (node.follow x x.everywhere ⟨index, before, c :: rest, []⟩).map (index, ·)
    else node.searchFrom x starts (index + 1) (some c) rest

/-- The first place where the node matches, and the preferred outcome. -/
def search (node : Node) (text : List Char) : Option (Nat × Thread) :=
  let x := Concordance.ofText text
  node.searchFrom x (node.origins x x.everywhere) 0 none text

end Node

end Routing.Regex
