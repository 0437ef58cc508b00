import Routing.Unicode.CharSet

/-!
# Sets by their edges

Along the characters in order a set begins and ends at certain places. These edges are the same for
every expression of the set, so that sets can be compared and listed.

* `CharSet.edges`: where membership changes, in ascending order
* `CharSet.ranges`: the longest runs of members
* `CharSet.single?`: the only member of a set
-/
namespace Routing.Unicode

/-- The number of characters before a code point. Surrogates are no characters, so that what stands
before the gap and what stands after it are neighbours. -/
def position (n : Nat) : Nat :=
  if n < 0xD800 then n else if n < 0xE000 then 0xD800 else n - 0x800

/-- The code point of the character that has `p` characters before it. -/
def pointAt (p : Nat) : Nat :=
  if p < 0xD800 then p else p + 0x800

theorem position_pointAt (p : Nat) : position (pointAt p) = p := by
  simp only [position, pointAt]
  by_cases h : p < 0xD800
  · simp [h]
  · simp only [h, if_false]
    rw [if_neg (by omega), if_neg (by omega), Nat.add_sub_cancel]

/-- The number of all characters. -/
def characterCount : Nat := position 0x110000

namespace Edges

/-- Two edges at one place take each other back. -/
def cancel : List Nat → List Nat
  | a :: b :: rest => if a = b then cancel rest else a :: cancel (b :: rest)
  | edges => edges

/-- The edges of runs of code points, each given with the point after it, in ascending order. -/
def ofRuns (runs : List (Nat × Nat)) : List Nat :=
  (cancel (runs.flatMap fun (first, next) => [position first, position next])).filter
    (· < characterCount)

def ofPoints (points : List Nat) : List Nat :=
  ofRuns (points.map fun n => (n, n + 1))

def ofSpans (table : List Span) : List Nat :=
  ofRuns (table.flatMap fun s =>
    if s.step = 1 then [(s.first, s.last + 1)]
    else (List.range' s.first ((s.last - s.first) / s.step + 1) s.step).map fun n => (n, n + 1))

/-- Puts a code point into an ascending list that has each point once. -/
def insertPoint (n : Nat) : List Nat → List Nat
  | [] => [n]
  | m :: rest => if n < m then n :: m :: rest else if n = m then m :: rest else m :: insertPoint n rest

/-- The edges of a combination of two sets; `a` and `b` tell whether the place before the edges
belongs to the one and to the other. No more than `fuel` edges are passed. -/
def combineFrom (op : Bool → Bool → Bool) : (fuel : Nat) → (a b : Bool) → List Nat → List Nat →
    List Nat
  | 0, _, _, _, _ => []
  | fuel + 1, a, b, xs, ys =>
    let emit (place : Nat) (a' b' : Bool) (rest : List Nat) : List Nat :=
      if op a' b' = op a b then rest else place :: rest
    match xs, ys with
    | [], [] => []
    | x :: xs, [] => emit x (!a) b (combineFrom op fuel (!a) b xs [])
    | [], y :: ys => emit y a (!b) (combineFrom op fuel a (!b) [] ys)
    | x :: xs, y :: ys =>
      if x < y then emit x (!a) b (combineFrom op fuel (!a) b xs (y :: ys))
      else if y < x then emit y a (!b) (combineFrom op fuel a (!b) (x :: xs) ys)
      else emit x (!a) (!b) (combineFrom op fuel (!a) (!b) xs ys)

/-- The edges of the set that holds what `op` takes from two others; `op` takes nothing from
nothing. -/
def combine (op : Bool → Bool → Bool) (xs ys : List Nat) : List Nat :=
  combineFrom op (xs.length + ys.length) false false xs ys

def complement : List Nat → List Nat
  | 0 :: rest => rest
  | edges => 0 :: edges

/-- Whether the character that has `place` characters before it is a member. -/
def contains : (inside : Bool) → List Nat → (place : Nat) → Bool
  | inside, [], _ => inside
  | inside, edge :: rest, place => if place < edge then inside else contains (!inside) rest place

/-- The runs of members, first and last included. -/
def runs : List Nat → List (Nat × Nat)
  | [] => []
  | [first] => [(pointAt first, 0x10FFFF)]
  | first :: next :: rest => (pointAt first, pointAt (next - 1)) :: runs rest

end Edges

/-- The case classes that have more than one member. -/
def caseClasses : List (List Nat) :=
  let targets := foldRuns.flatMap fun r =>
    (List.range' 0 ((r.span.last - r.span.first) / r.span.step + 1) r.span.step).map (r.target + ·)
  targets.mergeSort.eraseReps.map foldClass

namespace CharSet

/-- The places where membership changes, in ascending order. -/
def edges : CharSet → List Nat
  | empty => []
  | any => [0]
  | range first last =>
    if first ≤ last then Edges.ofRuns [(first.toNat, last.toNat + 1)] else []
  | spans table => Edges.ofSpans table
  | union a b => Edges.combine or a.edges b.edges
  | inter a b => Edges.combine and a.edges b.edges
  | compl a => Edges.complement a.edges
  | foldsAs c => Edges.ofPoints ((foldClass c.toNat).foldr Edges.insertPoint [])
  | folded a =>
    let edges := a.edges
    let reached := caseClasses.filter (·.any fun n => Edges.contains false edges (position n))
    Edges.combine or edges (Edges.ofPoints reached.flatten.mergeSort.eraseReps)
  | asciiFolded a =>
    let edges := a.edges
    Edges.combine or edges
      (Edges.ofPoints ((List.range 128).filter fun n => Edges.contains false edges (asciiSwap n)))

/-- The longest runs of members as code points, first and last included. -/
def ranges (s : CharSet) : List (Nat × Nat) :=
  Edges.runs s.edges

/-- Characters of many kinds. -/
def samples : List Char := ['a', '0', '.', ' ', '\x00']

/-- A set with one of the samples is not empty; of other sets the edges are asked. -/
def isEmpty : CharSet → Bool
  | empty => true
  | any => false
  | range first last => decide (last < first)
  | spans table => table.isEmpty
  | union a b => a.isEmpty && b.isEmpty
  | foldsAs _ => false
  | folded a | asciiFolded a => a.isEmpty
  | s => !samples.any s.contains && s.edges.isEmpty

/-- The member of a set that has no other. -/
def single? (s : CharSet) : Option Char :=
  match s.ranges with
  | [(first, last)] => if first = last then some (Char.ofNat first) else none
  | _ => none

/-- Whether two sets have the same members. -/
def same (a b : CharSet) : Bool :=
  a.edges == b.edges

end CharSet

end Routing.Unicode
