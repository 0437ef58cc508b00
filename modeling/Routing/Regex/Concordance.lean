import Routing.Regex.Look
import Routing.Regex.Places
import Routing.Unicode.CharSet

/-!
# Concordances

A concordance lists each character of a text with the places where it stands, the place before a
character being its own. Sets of characters and assertions then become sets of places.

* `Concordance.ofText`: the concordance of a text
* `Concordance.placesOf`: the places before the characters of a set
* `Concordance.placesWhere`: the places where an assertion holds
-/
namespace Routing.Regex

open Routing.Unicode

structure Concordance where
  text : List Char
  /-- The number of characters, which is also the last place. -/
  size : Nat
  entries : List (Char × Places)
  deriving Repr

namespace Concordance

/-- Enters a character at a place. -/
def enter (c : Char) (i : Nat) : List (Char × Places) → List (Char × Places)
  | [] => [(c, Places.empty.insert i)]
  | (d, s) :: rest => if d = c then (d, s.insert i) :: rest else (d, s) :: enter c i rest

def ofText (text : List Char) : Concordance :=
  let (size, entries) := text.foldl (fun (i, entries) c => (i + 1, enter c i entries)) (0, [])
  ⟨text, size, entries⟩

def everywhere (x : Concordance) : Places :=
  .upTo x.size

/-- The places before the characters of a set. -/
def placesOf (x : Concordance) (s : CharSet) : Places :=
  x.entries.foldl (fun found (c, here) => if s.contains c then found.union here else found) .empty

/-- The places from the `i`-th on where the assertion holds, added to those that were found. -/
def placesWhereFrom (l : Look) : (i : Nat) → (before : Option Char) → List Char → Places → Places
  | i, before, [], found => if l.holdsBetween before none then found.insert i else found
  | i, before, c :: rest, found =>
    placesWhereFrom l (i + 1) (some c) rest
      (if l.holdsBetween before (some c) then found.insert i else found)

/-- The places where an assertion holds. -/
def placesWhere (x : Concordance) (l : Look) : Places :=
  placesWhereFrom l 0 none x.text .empty

end Concordance

end Routing.Regex
