import Routing.Regex.Error
import Routing.Text.Hex
import Routing.Unicode.Property

/-!
# The text of an expression

The reader works on the characters that are left. In extended mode blanks and comments between the
parts of an expression are skipped.

* `skipBlanks`: the rest after blanks and comments
* `decimal`: a count, with the blanks around it
* `hexPoint?`: the character that hexadecimal digits name
-/
namespace Routing.Regex.Reader

open Routing.Unicode

def isBlank (c : Char) : Bool :=
  whiteSpace.contains c

/-- The rest after a comment, which ends with its line. -/
def skipComment : List Char → List Char
  | [] => []
  | c :: rest => if c = '\n' then rest else skipComment rest

/-- Skips blanks; `#` opens a comment that runs to the end of its line. -/
def skipExtended : (inComment : Bool) → List Char → List Char
  | _, [] => []
  | true, c :: rest => skipExtended (c != '\n') rest
  | false, c :: rest =>
    if c = '#' then skipExtended true rest
    else if isBlank c then skipExtended false rest
    else c :: rest

def skipBlanks (extended : Bool) (cs : List Char) : List Char :=
  if extended then skipExtended false cs else cs

/-- The next character that counts, as the reader of a range looks ahead for it: one `#` is passed
over together with the blanks, but not the comment that it opens. -/
def peekExtended : (passed : Bool) → List Char → Option Char
  | _, [] => none
  | passed, c :: rest =>
    if isBlank c then peekExtended passed rest
    else if c = '#' ∧ passed = false then peekExtended true rest
    else some c

def peek (extended : Bool) (cs : List Char) : Option Char :=
  if extended then peekExtended false cs <|> cs.head? else cs.head?

/-! ## Numbers -/

/-- The digits at the front; in extended mode blanks and comments may stand between them. -/
def digits (extended : Bool) : (inComment : Bool) → List Char → List Char × List Char
  | _, [] => ([], [])
  | true, c :: rest => digits extended (c != '\n') rest
  | false, c :: rest =>
    if c.isDigit then
      let (ds, after) := digits extended false rest
      (c :: ds, after)
    else if extended ∧ c = '#' then digits extended true rest
    else if extended ∧ isBlank c then digits extended false rest
    else ([], c :: rest)

def natOfDigits (ds : List Char) : Nat :=
  ds.foldl (fun n c => 10 * n + (c.toNat - '0'.toNat)) 0

/-- A count needs a digit and has to fit in 32 bits. The verdict stands beside the rest, since the
reader may find a graver error there. -/
def decimal (extended : Bool) (cs : List Char) : Except RegexError Nat × List Char :=
  let (ds, rest) := digits extended false (cs.dropWhile isBlank)
  let value :=
    if ds.isEmpty then .error .repetitionCountEmpty
    else if natOfDigits ds < Nat.pow 2 32 then .ok (natOfDigits ds)
    else .error .decimalInvalid
  (value, rest.dropWhile isBlank)

/-- The character with this number, if there is one. -/
def charOfPoint? (n : Nat) : Option Char :=
  if n.isValidChar then some (Char.ofNat n) else none

def charOfHex? (values : List Nat) : Option Char :=
  charOfPoint? (values.foldl (fun n v => 16 * n + v) 0)

end Routing.Regex.Reader
