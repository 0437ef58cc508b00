import Routing.Number.Rounding

/-!
# Binary floating point

A double is known by its 64 bits. Values are exact quotients until they are rounded, once.

* `Binary64.ofRatio`: the double nearest to a quotient
* `Binary64.ratio`: the quotient that a finite double stands for
* `Binary64.read?`: the double that a decimal text stands for
-/
namespace Routing.Binary64

open Routing.Number

def infinity : Nat := 0x7FF0000000000000

def notANumber : Nat := 0x7FF8000000000000

def signBit : Nat := 0x8000000000000000

/-- Multiplies a quotient by a power of two. -/
def scaled (num den : Nat) (e : Int) : Nat × Nat :=
  if 0 ≤ e then (num * Nat.pow 2 e.toNat, den) else (num, den * Nat.pow 2 (-e).toNat)

/-- The exponent of the last bit that a double keeps of the quotient. -/
def unit (num den : Nat) : Int :=
  let guess : Int := (num.log2 : Int) - den.log2 - 53
  let (n, d) := scaled num den (-guess)
  max (if n < d * Nat.pow 2 53 then guess else guess + 1) (-1074)

/-- The bits of the double nearest to `num / den`. A carry out of the fraction raises the exponent by
itself. -/
def ofRatio (num den : Nat) : Nat :=
  if num = 0 then 0
  else
    let e := unit num den
    let (n, d) := scaled num den (-e)
    let m := roundDiv n d
    if m < Nat.pow 2 52 then m
    else min infinity ((e + 1074).toNat * Nat.pow 2 52 + m)

/-- Numerator and denominator of the value of a finite double without sign. -/
def ratio (bits : Nat) : Nat × Nat :=
  let field : Nat := bits / Nat.pow 2 52 % Nat.pow 2 11
  let fraction : Nat := bits % Nat.pow 2 52
  if field = 0 then scaled fraction 1 (-1074)
  else scaled (Nat.pow 2 52 + fraction) 1 ((field : Int) - 1075)

/-! ## Reading -/

def natOfDigits (ds : List Char) : Nat :=
  ds.foldl (fun n c => 10 * n + (c.toNat - '0'.toNat)) 0

/-- The double nearest to `m * 10 ^ e`. Outside the range of doubles nothing is computed. -/
def ofDecimal (m : Nat) (e : Int) : Nat :=
  let magnitude : Int := (Nat.toDigits 10 m).length + e
  if m = 0 ∨ magnitude < -324 then 0
  else if 310 < magnitude then infinity
  else if 0 ≤ e then ofRatio (m * Nat.pow 10 e.toNat) 1
  else ofRatio m (Nat.pow 10 (-e).toNat)

/-- An optional sign in front: whether it is a minus, and the rest. -/
def sign : List Char → Bool × List Char
  | '-' :: rest => (true, rest)
  | '+' :: rest => (false, rest)
  | cs => (false, cs)

/-- The exponent at the end of a number; without a mark it is zero. -/
def exponent? : List Char → Option Int
  | [] => some 0
  | c :: rest =>
    if c.toLower = 'e' then
      let (negative, ds) := sign rest
      if ds.isEmpty || !ds.all Char.isDigit then none
      else some (if negative then -(natOfDigits ds : Int) else natOfDigits ds)
    else none

/-- A number without sign: digits, with or without a point, and an exponent. -/
def unsigned? (cs : List Char) : Option Nat :=
  let whole := cs.takeWhile Char.isDigit
  let rest := cs.dropWhile Char.isDigit
  let (fraction, rest) :=
    match rest with
    | '.' :: rest => (rest.takeWhile Char.isDigit, rest.dropWhile Char.isDigit)
    | rest => ([], rest)
  if whole.isEmpty && fraction.isEmpty then none
  else
    (exponent? rest).map fun e =>
      ofDecimal (natOfDigits (whole ++ fraction)) (e - fraction.length)

def special? (cs : List Char) : Option Nat :=
  match String.ofList (cs.map Char.toLower) with
  | "inf" | "infinity" => some infinity
  | "nan" => some notANumber
  | _ => none

/-- The bits of the double that a text stands for. -/
def read? (cs : List Char) : Option Nat :=
  let (negative, body) := sign cs
  (special? body <|> unsigned? body).map fun bits => if negative then signBit + bits else bits

def isNotANumber (bits : Nat) : Bool :=
  decide (infinity < bits % signBit)

/-- The sixteen hexadecimal digits of the bits. -/
def hexText (bits : Nat) : String :=
  let ds := Nat.toDigits 16 bits
  String.ofList (List.replicate (16 - ds.length) '0' ++ ds)

end Routing.Binary64
