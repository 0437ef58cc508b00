import Routing.Regex.Error
import Routing.Regex.Expr
import Routing.Regex.Node

/-!
# From an expression to its node

Flags hold from the place where they are set to the end of their group; the lowering carries them
from left to right.

* `Flags`: the flags in force
* `ClassExpr.lower`: the set that a class stands for
* `Expr.lower`: the node of an expression, and the flags in force after it
-/
namespace Routing.Regex

open Routing.Unicode

structure Flags where
  ignoreCase : Bool := false
  multiLine : Bool := false
  dotAll : Bool := false
  swapGreed : Bool := false
  unicode : Bool := true
  crlf : Bool := false
  deriving DecidableEq, Repr

namespace Flags

/-- The flags after the settings in a list of items. -/
def set (f : Flags) (items : List FlagItem) : Flags :=
  let get (flag : Flag) (old : Bool) : Bool := (FlagItem.setting? flag items true).getD old
  { ignoreCase := get .ignoreCase f.ignoreCase
    multiLine := get .multiLine f.multiLine
    dotAll := get .dotAll f.dotAll
    swapGreed := get .swapGreed f.swapGreed
    unicode := get .unicode f.unicode
    crlf := get .crlf f.crlf }

/-- A set closed under case, where case is ignored. -/
def fold (f : Flags) (s : CharSet) : CharSet :=
  if f.ignoreCase then (if f.unicode then .folded s else .asciiFolded s) else s

/-- Negating a set of bytes would take in parts of characters. -/
def negate (f : Flags) (negated : Bool) (s : CharSet) : Except RegexError CharSet :=
  if negated then (if f.unicode then .ok (.compl s) else .error .partialCharacter) else .ok s

end Flags

/-! ## Sets -/

/-- The character of a literal; where bytes are matched, two digits name a byte, which has to be a
character of its own. -/
def Literal.lower (f : Flags) (l : Literal) : Except RegexError Char :=
  if !f.unicode && l.isByte && decide (128 ≤ l.char.toNat) then .error .partialCharacter
  else .ok l.char

/-- In a class of bytes only ASCII characters stand for themselves. -/
def Literal.lowerInClass (f : Flags) (l : Literal) : Except RegexError Char :=
  match l.lower f with
  | .error e => .error e
  | .ok c => if f.unicode || decide (c.toNat < 128) then .ok c else .error .unicodeNotAllowed

/-- A literal on its own, in either case where case is ignored. -/
def Literal.toSet (f : Flags) (c : Char) : CharSet :=
  if f.ignoreCase then (if f.unicode then .foldsAs c else .asciiFolded (.single c)) else .single c

namespace AsciiKind

def toSet : AsciiKind → CharSet
  | alnum => .unionAll [.range '0' '9', .range 'A' 'Z', .range 'a' 'z']
  | alpha => .unionAll [.range 'A' 'Z', .range 'a' 'z']
  | ascii => .range '\x00' '\x7f'
  | blank => .unionAll [.single '\t', .single ' ']
  | cntrl => .unionAll [.range '\x00' '\x1f', .single '\x7f']
  | digit => .range '0' '9'
  | graph => .range '!' '~'
  | lower => .range 'a' 'z'
  | print => .range ' ' '~'
  | punct => .unionAll [.range '!' '/', .range ':' '@', .range '[' '\x60', .range '\x7b' '~']
  | space => .unionAll [.range '\t' '\r', .single ' ']
  | upper => .range 'A' 'Z'
  | word => asciiWord
  | xdigit => .unionAll [.range '0' '9', .range 'A' 'F', .range 'a' 'f']

end AsciiKind

def Shorthand.toSet (unicode : Bool) : Shorthand → CharSet
  | digit => if unicode then Unicode.digit else AsciiKind.digit.toSet
  | space => if unicode then whiteSpace else AsciiKind.space.toSet
  | word => if unicode then Unicode.word else AsciiKind.word.toSet

def lowerShorthand (f : Flags) (negated : Bool) (kind : Shorthand) : Except RegexError CharSet :=
  f.negate negated (kind.toSet f.unicode)

def lowerProperty (f : Flags) (negated : Bool) (query : PropertyQuery) :
    Except RegexError CharSet :=
  if f.unicode then
    match query.resolve with
    | .ok s => f.negate negated (f.fold s)
    | .error .unknownProperty => .error .propertyNotFound
    | .error .unknownValue => .error .propertyValueNotFound
  else .error .unicodeNotAllowed

/-- The set that a class stands for. Case is settled before a negation and before an operator. -/
def ClassExpr.lower (f : Flags) : ClassExpr → Except RegexError CharSet
  | empty => .ok .empty
  | literal l => do return .single (← l.lowerInClass f)
  | range first last => do
    let a ← first.lowerInClass f
    let b ← last.lowerInClass f
    return .range a b
  | ascii negated kind => f.negate negated (f.fold kind.toSet)
  | property negated query => lowerProperty f negated query
  | shorthand negated kind => lowerShorthand f negated kind
  | bracketed negated inner => do f.negate negated (f.fold (← inner.lower f))
  | union a b => do
    let a ← a.lower f
    let b ← b.lower f
    return .union a b
  | op kind a b => do
    let a ← a.lower f
    let b ← b.lower f
    match kind with
    | .intersection => return .inter (f.fold a) (f.fold b)
    | .difference => return .diff (f.fold a) (f.fold b)
    | .symmetricDifference => return .symDiff (f.fold a) (f.fold b)

/-! ## Assertions and the dot -/

def Assertion.lower (f : Flags) : Assertion → Look
  | startLine => if f.multiLine then (if f.crlf then .lineStartCrlf else .lineStart) else .start
  | endLine => if f.multiLine then (if f.crlf then .lineEndCrlf else .lineEnd) else .stop
  | startText => .start
  | endText => .stop
  | boundary => .boundary f.unicode
  | notBoundary => .notBoundary f.unicode
  | wordStart => .wordStart f.unicode
  | wordEnd => .wordEnd f.unicode
  | wordStartHalf => .wordStartHalf f.unicode
  | wordEndHalf => .wordEndHalf f.unicode

/-- Any character but those that end a line, unless they are let in. -/
def lowerDot (f : Flags) : Except RegexError CharSet :=
  if !f.unicode then .error .partialCharacter
  else if f.dotAll then .ok .any
  else if f.crlf then .ok (.compl (.union (.single '\n') (.single '\r')))
  else .ok (.compl (.single '\n'))

/-! ## Expressions -/

/-- The node of an expression, and the flags in force after it. -/
def Expr.lower : Expr → Flags → Except RegexError (Node × Flags)
  | empty, f => .ok (.empty, f)
  | flags items, f => .ok (.empty, f.set items)
  | literal l, f => do return (.ofSet (Literal.toSet f (← l.lower f)), f)
  | dot, f => do return (.ofSet (← lowerDot f), f)
  | assertion a, f => .ok (.look (a.lower f), f)
  | property negated query, f => do return (.ofSet (← lowerProperty f negated query), f)
  | shorthand negated kind, f => do return (.ofSet (← lowerShorthand f negated kind), f)
  | bracketed negated inner, f => do
    return (.ofSet (← f.negate negated (f.fold (← inner.lower f))), f)
  | repetition least most greedy a, f => do
    let (node, after) ← a.lower f
    return (node.repeated (greedy != f.swapGreed) least most, after)
  | group (.capture index name) a, f => do
    let (node, _) ← a.lower f
    return (.group index name node.settled, f)
  | group (.plain items) a, f => do
    let (node, _) ← a.lower (f.set items)
    return (node.settled, f)
  | alternation a b, f => do
    let (a, f) ← a.lower f
    let (b, f) ← b.lower f
    return (.alt a b, f)
  | sequence a b, f => do
    let (a, f) ← a.lower f
    let (b, f) ← b.lower f
    return (a.append b, f)

end Routing.Regex
