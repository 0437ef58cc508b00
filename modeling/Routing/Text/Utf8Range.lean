import Routing.Text.Utf8

/-!
# Ranges of characters as ranges of bytes

A range of characters is written in UTF-8 by a few sequences of byte ranges: every choice of one byte
from each range of a sequence is a character, and the sequences come in ascending order.

* `Utf8.sequences`: the sequences of a range of characters
-/
namespace Routing.Utf8

/-- Bytes from the first number to the last. -/
abbrev ByteRange := Nat × Nat

/-- The first point of a range after which the bytes behind the leading ones start anew, so that the
range has to be cut before it. The masks are those of one, two and three trailing bytes. -/
def cutPoint? (first last : Nat) : Option Nat :=
  [0x40, 0x1000, 0x40000].findSome? fun unit =>
    if first / unit = last / unit then none
    else if first % unit ≠ 0 then some ((first / unit + 1) * unit)
    else if last % unit ≠ unit - 1 then some (last / unit * unit)
    else none

/-- The largest points that are written with one, two and three bytes. -/
def lengthLimits : List Nat := [0x7F, 0x7FF, 0xFFFF]

/-- A range is cut around the surrogates, then where the length changes, then where trailing bytes
start anew. `fuel` bounds how often one part is cut. -/
def sequencesFrom : (fuel : Nat) → (first last : Nat) → List (List ByteRange)
  | 0, _, _ => []
  | fuel + 1, first, last =>
    if last < first then []
    else if first < 0xE000 ∧ 0xD7FF < last then
      sequencesFrom fuel first 0xD7FF ++ sequencesFrom fuel 0xE000 last
    else
      match lengthLimits.find? fun limit => decide (first ≤ limit) && decide (limit < last) with
      | some limit => sequencesFrom fuel first limit ++ sequencesFrom fuel (limit + 1) last
      | none =>
        if last ≤ 0x7F then [[(first, last)]]
        else
          match cutPoint? first last with
          | some cut => sequencesFrom fuel first (cut - 1) ++ sequencesFrom fuel cut last
          | none => [(encodePoint first).zip (encodePoint last)]

/-- The sequences of the characters from `first` to `last`. A part is cut once at the surrogates, three
times by length and twice for each trailing byte. -/
def sequences (first last : Nat) : List (List ByteRange) :=
  sequencesFrom 16 first last

end Routing.Utf8
