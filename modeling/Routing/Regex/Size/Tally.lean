import Routing.Text.Utf8Range
import Routing.Unicode.Edges
import Std.Data.HashMap

/-!
# Counting the states of an automaton

How much room an automaton takes that is built state by state. The states of a class are shared as far as
a table of bounded size remembers them: a later state takes the slot of an earlier one.

* `Tally`: the states that have been built and their entries
* `Tally.classForward`, `Tally.classBackward`: the automaton of a class for reading a text forward, and
  for reading it backward
* `Tally.words`: the automaton of an alternation of words
-/
namespace Routing.Regex

open Routing.Unicode

structure Tally where
  states : Nat := 0
  /-- Bytes for the entries of states. -/
  entries : Nat := 0
  deriving DecidableEq, Repr

namespace Tally

/-- The room for the states, each of which takes 32 bytes, and for their entries. -/
def bytes (t : Tally) : Nat :=
  32 * t.states + t.entries

def add (t : Tally) (states : Nat) (entries : Nat) : Tally :=
  ⟨t.states + states, t.entries + entries⟩

/-- The room for a choice to take one more way. -/
def way : Nat := 4

/-- The room for a state to go on by one more range of bytes. -/
def transition : Nat := 8

/-! ## Shared states -/

/-- A tally, with the states that are remembered: what each leads to, and its number. -/
structure Shared where
  tally : Tally
  slots : Std.HashMap Nat (List Nat × Nat) := ∅

/-- The slot of a state among `capacity` of them, from a hash of what it leads to. -/
def slot (capacity : Nat) (key : List Nat) : Nat :=
  let hash := key.foldl (fun (h : UInt64) n => (h ^^^ n.toUInt64) * 1099511628211)
    14695981039346656037
  hash.toNat % capacity

namespace Shared

/-- A new state, which is remembered. -/
def build (place entries : Nat) (key : List Nat) (s : Shared) : Nat × Shared :=
  (s.tally.states, ⟨s.tally.add 1 entries, s.slots.insert place (key, s.tally.states)⟩)

/-- The state that leads to `key`, the remembered one if there is one. -/
def state (capacity entries : Nat) (key : List Nat) (s : Shared) : Nat × Shared :=
  let place := slot capacity key
  match s.slots[place]? with
  | some (known, number) => if known = key then (number, s) else s.build place entries key
  | none => s.build place entries key

end Shared

/-! ## Classes -/

/-- The state for sequences of byte ranges, all of which end in `target`. Sequences that begin alike
stand next to each other. -/
def forwardState (target : Nat) : (fuel : Nat) → List (List Utf8.ByteRange) → Shared → Nat × Shared
  | 0, _, s => (target, s)
  | fuel + 1, sequences, s =>
    let (key, s) := (sequences.splitBy fun x y => x.head? == y.head?).foldl
      (fun (key, s) group =>
        match group with
        | ((first, last) :: tail) :: _ =>
          let (next, s) :=
            if tail.isEmpty then (target, s)
            else forwardState target fuel (group.map List.tail) s
          (key ++ [first, last, next], s)
        | _ => (key, s))
      ([], s)
    s.state 10000 (transition * (key.length / 3)) key

/-- A class that is read forward: a state behind it, and the states of its sequences, of which none is
longer than four bytes. -/
def classForward (sequences : List (List Utf8.ByteRange)) (t : Tally) : Tally :=
  (forwardState t.states 4 sequences { tally := t.add 1 0 }).2.tally

/-- A class that is read backward: a choice of its sequences, and a state behind it, from which each
sequence is built. -/
def classBackward (sequences : List (List Utf8.ByteRange)) (t : Tally) : Tally :=
  (sequences.foldl
    (fun (s : Shared) sequence =>
      let (_, s) := sequence.foldl
        (fun (start, (s : Shared)) (first, last) => s.state 1000 0 [start, first, last])
        (t.states + 1, s)
      { s with tally := s.tally.add 0 way })
    { tally := t.add 2 0 }).tally

/-! ## Words -/

/-- The words before, between and behind the empty ones. -/
def segments : List (List Nat) → List (List (List Nat))
  | [] => [[]]
  | [] :: rest => [] :: segments rest
  | w :: rest =>
    match segments rest with
    | segment :: more => (w :: segment) :: more
    | [] => [[w]]

/-- One empty word at the front is as good as several. -/
def dropRepeatedEmpty : List (List Nat) → List (List Nat)
  | [] :: [] :: rest => dropRepeatedEmpty ([] :: rest)
  | words => words

/-- The states for words that begin at one place, not all of which are empty. The words of a segment share
their beginnings, and what stands behind an empty word comes later. -/
def words : (fuel : Nat) → List (List Nat) → Tally → Tally
  | 0, _, t => t
  | fuel + 1, list, t =>
    let parts := segments (dropRepeatedEmpty list)
    let chunks := parts.filter (!·.isEmpty)
    let t := t.add 1 (way * (chunks.length + (parts.length - 1)))
    chunks.foldl
      (fun t chunk =>
        let heads := (chunk.filterMap List.head?).eraseDups
        let t := t.add 1 (if heads.length = 1 then 0 else transition * heads.length)
        heads.foldl
          (fun t head =>
            let tails := (chunk.filter (·.head? == some head)).map List.tail
            if tails.all (·.isEmpty) then t else words fuel tails t)
          t)
      t

end Tally

end Routing.Regex
