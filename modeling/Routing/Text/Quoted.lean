import Routing.Unicode.Latest

/-!
# Quoted text

Text between quotation marks, with escapes for what could not be told apart or would not be seen.

* `Quoted.render`: a text in quotes
-/
namespace Routing.Quoted

open Routing.Unicode

/-- An escape by number: the fewest hexadecimal digits, in braces. -/
def byNumber (c : Char) : List Char :=
  ['\\', 'u', '\x7b'] ++ Nat.toDigits 16 c.toNat ++ ['\x7d']

/-- Marks that combine with the character before them would change the look of the text around, and
are written by number as characters without a glyph are. -/
def escapeChar (c : Char) : List Char :=
  if c = '\x00' then ['\\', '0']
  else if c = '\t' then ['\\', 't']
  else if c = '\r' then ['\\', 'r']
  else if c = '\n' then ['\\', 'n']
  else if c = '"' then ['\\', '"']
  else if c = '\\' then ['\\', '\\']
  else if Latest.unseen.contains c then byNumber c
  else [c]

def render (s : String) : String :=
  String.ofList ('"' :: s.toList.flatMap escapeChar ++ ['"'])

end Routing.Quoted
