import Routing.Regex.Expr
import Routing.Regex.Reader.Text
import Routing.Text.Split

/-!
# Escapes

What a backslash and the characters after it stand for, inside a class and outside.

* `escape`: reads what follows a backslash
* `Primitive`: the parts of an expression that are read in one piece
-/
namespace Routing.Regex.Reader

open Routing.Unicode

inductive Primitive where
  | literal (l : Literal)
  | dot
  | assertion (a : Assertion)
  | property (negated : Bool) (query : PropertyQuery)
  | shorthand (negated : Bool) (kind : Shorthand)
  deriving Repr

def Primitive.toExpr : Primitive → Expr
  | literal l => .literal l
  | dot => .dot
  | assertion a => .assertion a
  | property negated query => .property negated query
  | shorthand negated kind => .shorthand negated kind

/-- A piece that was read, and what is left. -/
abbrev Step (α : Type) := Except RegexError (α × List Char)

/-- Characters that have a meaning of their own in some place of an expression. -/
def isMeta (c : Char) : Bool :=
  "\\.+*?()|[]\x7b\x7d^$#&-~".toList.contains c

/-- ASCII characters that a backslash may precede without giving them a meaning. -/
def isEscapable (c : Char) : Bool :=
  isMeta c || (decide (c.toNat < 128) && !c.isAlphanum && c != '<' && c != '>')

/-! ## Hexadecimal characters -/

/-- The remaining digits of a character written with a fixed number of them. -/
def hexFixed (extended : Bool) : Nat → List Nat → List Char → Step (List Nat)
  | 0, values, cs => .ok (values, cs)
  | _ + 1, _, [] => .error .escapeUnexpectedEnd
  | n + 1, values, c :: rest =>
    match Hex.value? c with
    | none => .error .escapeHexInvalidDigit
    | some v => hexFixed extended n (values ++ [v]) (skipBlanks extended rest)

/-- The digits of a character written in braces, up to the closing one. -/
def hexBraced (extended : Bool) : (fuel : Nat) → List Nat → List Char → Step (List Nat)
  | 0, _, _ => .error .escapeUnexpectedEnd
  | fuel + 1, values, cs =>
    match skipBlanks extended cs with
    | [] => .error .escapeUnexpectedEnd
    | c :: rest =>
      if c = '\x7d' then .ok (values, skipBlanks extended rest)
      else
        match Hex.value? c with
        | none => .error .escapeHexInvalidDigit
        | some v => hexBraced extended fuel (values ++ [v]) rest

/-- Reads the character after `\x` and its longer forms, whose digit count is `width`. -/
def hexLiteral (extended : Bool) (width : Nat) (cs : List Char) : Step Primitive :=
  match skipBlanks extended cs with
  | [] => .error .escapeUnexpectedEnd
  | '\x7b' :: rest =>
    match hexBraced extended (rest.length + 1) [] rest with
    | .error e => .error e
    | .ok ([], _) => .error .escapeHexEmpty
    | .ok (values, after) =>
      match charOfHex? values with
      | none => .error .escapeHexInvalid
      | some c => .ok (.literal ⟨c, false⟩, after)
  | rest =>
    match hexFixed extended width [] rest with
    | .error e => .error e
    | .ok (values, after) =>
      match charOfHex? values with
      | none => .error .escapeHexInvalid
      | some c => .ok (.literal ⟨c, width == 2⟩, after)

/-! ## Properties -/

/-- The text in braces after a property escape. -/
def propertyText (extended : Bool) : (fuel : Nat) → List Char → Step (List Char)
  | 0, _ => .error .escapeUnexpectedEnd
  | fuel + 1, cs =>
    match skipBlanks extended cs with
    | [] => .error .escapeUnexpectedEnd
    | c :: rest =>
      if c = '\x7d' then .ok ([], rest)
      else
        match propertyText extended fuel rest with
        | .error e => .error e
        | .ok (name, after) => .ok (c :: name, after)

/-- `!=`, `:` and `=` separate a property from its value, sought in this order. The first of them asks
for the characters with another value. -/
def propertyOfText (negated : Bool) (text : List Char) : Primitive :=
  match Text.splitFirst ['!', '='] text with
  | some (property, value) => .property (!negated) (.byValue property value)
  | none =>
    match Text.splitFirst [':'] text <|> Text.splitFirst ['='] text with
    | some (property, value) => .property negated (.byValue property value)
    | none => .property negated (.byName text)

def propertyEscape (extended negated : Bool) (cs : List Char) : Step Primitive :=
  match skipBlanks extended cs with
  | [] => .error .escapeUnexpectedEnd
  | '\x7b' :: rest =>
    match propertyText extended (rest.length + 1) rest with
    | .error e => .error e
    | .ok (text, after) => .ok (propertyOfText negated text, after)
  | c :: rest =>
    if c = '\\' then .error .unicodeClassInvalid
    else .ok (.property negated (.byName [c]), skipBlanks extended rest)

/-! ## Word boundaries -/

def isBoundaryChar (c : Char) : Bool :=
  c.isAlpha || c == '-'

/-- The name of a special boundary: letters and hyphens, blanks between them skipped. -/
def boundaryName (extended : Bool) : (fuel : Nat) → List Char → List Char × List Char
  | 0, cs => ([], cs)
  | _ + 1, [] => ([], [])
  | fuel + 1, c :: rest =>
    if isBoundaryChar c then
      let (name, after) := boundaryName extended fuel (skipBlanks extended rest)
      (c :: name, after)
    else ([], c :: rest)

def boundaryOfName? : List Char → Option Assertion
  | ['s', 't', 'a', 'r', 't'] => some .wordStart
  | ['e', 'n', 'd'] => some .wordEnd
  | ['s', 't', 'a', 'r', 't', '-', 'h', 'a', 'l', 'f'] => some .wordStartHalf
  | ['e', 'n', 'd', '-', 'h', 'a', 'l', 'f'] => some .wordEndHalf
  | _ => none

/-- After `\b`, a brace opens the name of a special boundary if a letter or a hyphen follows, and a
repetition of the plain boundary otherwise. -/
def boundary (extended : Bool) (cs : List Char) : Step Primitive :=
  match cs with
  | '\x7b' :: rest =>
    match skipBlanks extended rest with
    | [] => .error .boundaryUnexpectedEnd
    | c :: inner =>
      if isBoundaryChar c then
        let (name, after) := boundaryName extended (inner.length + 2) (c :: inner)
        match after with
        | '\x7d' :: after =>
          match boundaryOfName? name with
          | some a => .ok (.assertion a, after)
          | none => .error .boundaryUnrecognized
        | _ => .error .boundaryUnclosed
      else .ok (.assertion .boundary, cs)
  | _ => .ok (.assertion .boundary, cs)

/-! ## All escapes -/

/-- Reads what follows a backslash. -/
def escape (extended : Bool) : List Char → Step Primitive
  | [] => .error .escapeUnexpectedEnd
  | c :: rest =>
    let plain (x : Char) : Step Primitive := .ok (.literal ⟨x, false⟩, rest)
    let here (a : Assertion) : Step Primitive := .ok (.assertion a, rest)
    if c.isDigit then .error .unsupportedBackreference
    else if isEscapable c then plain c
    else
      match c with
      | 'x' => hexLiteral extended 2 rest
      | 'u' => hexLiteral extended 4 rest
      | 'U' => hexLiteral extended 8 rest
      | 'p' => propertyEscape extended false rest
      | 'P' => propertyEscape extended true rest
      | 'd' => .ok (.shorthand false .digit, rest)
      | 's' => .ok (.shorthand false .space, rest)
      | 'w' => .ok (.shorthand false .word, rest)
      | 'D' => .ok (.shorthand true .digit, rest)
      | 'S' => .ok (.shorthand true .space, rest)
      | 'W' => .ok (.shorthand true .word, rest)
      | 'a' => plain '\x07'
      | 'f' => plain '\x0c'
      | 't' => plain '\t'
      | 'n' => plain '\n'
      | 'r' => plain '\r'
      | 'v' => plain '\x0b'
      | 'A' => here .startText
      | 'z' => here .endText
      | 'b' => boundary extended rest
      | 'B' => here .notBoundary
      | '<' => here .wordStart
      | '>' => here .wordEnd
      | _ => .error .escapeUnrecognized

end Routing.Regex.Reader
