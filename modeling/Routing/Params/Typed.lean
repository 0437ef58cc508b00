import Routing.Number.Binary64
import Routing.Params

/-!
# Typed parameters

The value of a parameter read as a number, a truth value, a character or a text.

* `ValueType.read?`: the value that a text stands for
* `Params.getAs?`: the typed value of a named parameter
-/
namespace Routing

inductive ValueType where
  | unsigned (bits : Nat)
  | signed (bits : Nat)
  | bool
  | char
  | text
  | double
  deriving DecidableEq, Repr

inductive TypedValue where
  | integer (n : Int)
  | bool (b : Bool)
  | char (c : Char)
  | text (s : String)
  | double (bits : Nat)
  deriving DecidableEq, Repr

def TypedValue.render : TypedValue → String
  | integer n => toString n
  | bool b => if b then "true" else "false"
  | char c => String.singleton c
  | text s => s
  | double bits => if Binary64.isNotANumber bits then "nan" else Binary64.hexText bits

namespace ValueType

def decimal? (cs : List Char) : Option Nat :=
  if cs.isEmpty || !cs.all Char.isDigit then none else some (Binary64.natOfDigits cs)

/-- A whole number with an optional sign. A type without negative numbers admits no minus, not even
before zero. -/
def integer? (negatives : Bool) : List Char → Option Int
  | '+' :: rest => (decimal? rest).map Int.ofNat
  | '-' :: rest => if negatives then (decimal? rest).map fun n => -(n : Int) else none
  | cs => (decimal? cs).map Int.ofNat

def inRange (low high n : Int) : Bool :=
  decide (low ≤ n) && decide (n ≤ high)

/-- The value of this type that a text stands for. -/
def read? (t : ValueType) (s : String) : Option TypedValue :=
  match t with
  | unsigned bits =>
    ((integer? false s.toList).filter (inRange 0 (Int.pow 2 bits - 1))).map .integer
  | signed bits =>
    let bound := Int.pow 2 (bits - 1)
    ((integer? true s.toList).filter (inRange (-bound) (bound - 1))).map .integer
  | bool =>
    match s with
    | "true" => some (.bool true)
    | "false" => some (.bool false)
    | _ => none
  | char =>
    match s.toList with
    | [c] => some (.char c)
    | _ => none
  | text => some (.text s)
  | double => (Binary64.read? s.toList).map .double

end ValueType

/-- The value of a named parameter, if it has one of this type. -/
def Params.getAs? (p : Params) (name : String) (t : ValueType) : Option TypedValue :=
  (p.getName? name).bind t.read?

end Routing
