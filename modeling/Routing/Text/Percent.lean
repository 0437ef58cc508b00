import Routing.Text.Hex
import Routing.Text.Utf8

/-!
# Percent encoding

A byte may be written as `%` and two hexadecimal digits. Whatever does not have this form stands for
itself.

* `Percent.decode`: the text with its escapes resolved, if they amount to text
* `Percent.encode`: a text with every byte escaped that is no unreserved character
-/
namespace Routing.Percent

/-- The byte that two digits name. -/
def byte? (high low : Char) : Option Nat :=
  match Hex.value? high, Hex.value? low with
  | some h, some l => some (16 * h + l)
  | _, _ => none

/-- The bytes of a text with its escapes resolved. -/
def bytes : List Char → List Nat
  | '%' :: high :: low :: rest =>
    match byte? high low with
    | some b => b :: bytes rest
    | none => '%'.toNat :: bytes (high :: low :: rest)
  | c :: rest => Utf8.encodeChar c ++ bytes rest
  | [] => []

def decode (cs : List Char) : Except Utf8.Error (List Char) :=
  Utf8.decode (bytes cs)

/-! ## Writing -/

/-- The characters that are written as they are. -/
def isUnreserved (n : Nat) : Bool :=
  (Char.ofNat n).isAlphanum || n == '_'.toNat || n == '.'.toNat || n == '~'.toNat || n == '-'.toNat

def encodeByte (b : Nat) : List Char :=
  if b < 128 && isUnreserved b then [Char.ofNat b] else ['%', Hex.digit (b / 16), Hex.digit (b % 16)]

def encode (cs : List Char) : List Char :=
  (Utf8.encode cs).flatMap encodeByte

end Routing.Percent
