import Routing.Unicode.Lookup

/-!
# Regular expressions as written

The tree that the reader builds. Sequences and alternations lean to the left; an operand of a sequence
is never itself a sequence, nor an operand of an alternation an alternation, since a group stands
between the two.

* `Expr.nesting`: how deep groups, repetitions, sequences and classes are nested
-/
namespace Routing.Regex

open Routing.Unicode

inductive Flag where
  | ignoreCase
  | multiLine
  | dotAll
  | swapGreed
  | unicode
  | crlf
  | extended
  deriving DecidableEq, Repr

/-- Flags in the order written; those after the negation are turned off. -/
inductive FlagItem where
  | negation
  | flag (f : Flag)
  deriving DecidableEq, Repr

/-- The setting that a list of flag items asks of one flag, if it names it. -/
def FlagItem.setting? (f : Flag) : List FlagItem → Bool → Option Bool
  | [], _ => none
  | .negation :: rest, _ => setting? f rest false
  | .flag g :: rest, on => if g = f then some on else setting? f rest on

/-- A character as written. `isByte` marks the spelling by two hexadecimal digits, which names a byte
where no Unicode is allowed. -/
structure Literal where
  char : Char
  isByte : Bool := false
  deriving DecidableEq, Repr

inductive Shorthand where
  | digit
  | space
  | word
  deriving DecidableEq, Repr

inductive AsciiKind where
  | alnum | alpha | ascii | blank | cntrl | digit | graph | lower | print | punct | space | upper
  | word | xdigit
  deriving DecidableEq, Repr

inductive SetOp where
  | intersection
  | difference
  | symmetricDifference
  deriving DecidableEq, Repr

/-- What stands between the brackets of a class. -/
inductive ClassExpr where
  | empty
  | literal (l : Literal)
  | range (first last : Literal)
  | ascii (negated : Bool) (kind : AsciiKind)
  | property (negated : Bool) (query : PropertyQuery)
  | shorthand (negated : Bool) (kind : Shorthand)
  | bracketed (negated : Bool) (inner : ClassExpr)
  | union (a b : ClassExpr)
  | op (kind : SetOp) (a b : ClassExpr)
  deriving Repr

inductive Assertion where
  | startLine
  | endLine
  | startText
  | endText
  | boundary
  | notBoundary
  | wordStart
  | wordEnd
  | wordStartHalf
  | wordEndHalf
  deriving DecidableEq, Repr

inductive GroupKind where
  | capture (index : Nat) (name : Option String)
  | plain (flags : List FlagItem)
  deriving DecidableEq, Repr

inductive Expr where
  | empty
  | flags (items : List FlagItem)
  | literal (l : Literal)
  | dot
  | assertion (a : Assertion)
  | property (negated : Bool) (query : PropertyQuery)
  | shorthand (negated : Bool) (kind : Shorthand)
  | bracketed (negated : Bool) (inner : ClassExpr)
  /-- Between `least` and `most` times; `none` sets no upper limit. -/
  | repetition (least : Nat) (most : Option Nat) (greedy : Bool) (a : Expr)
  | group (kind : GroupKind) (a : Expr)
  | alternation (a b : Expr)
  | sequence (a b : Expr)
  deriving Repr

/-! ## Nesting -/

/-- A union counts once, however many items it has. -/
def ClassExpr.nesting : (inUnion : Bool) → ClassExpr → Nat
  | _, bracketed _ inner => inner.nesting false + 1
  | true, union a b => max (a.nesting true) (b.nesting true)
  | false, union a b => max (a.nesting true) (b.nesting true) + 1
  | _, op _ a b => max (a.nesting false) (b.nesting false) + 1
  | _, _ => 0

/-- The place of an expression inside another, which tells whether it continues a spine. -/
inductive Expr.Spine where
  | none
  | sequence
  | alternation
  deriving DecidableEq, Repr

/-- A sequence and an alternation each count once, however many operands they have. -/
def Expr.nesting : Expr.Spine → Expr → Nat
  | _, bracketed _ inner => inner.nesting false + 1
  | _, repetition _ _ _ a => a.nesting .none + 1
  | _, group _ a => a.nesting .none + 1
  | s, alternation a b =>
    max (a.nesting .alternation) (b.nesting .none) + (if s = .alternation then 0 else 1)
  | s, sequence a b =>
    max (a.nesting .sequence) (b.nesting .none) + (if s = .sequence then 0 else 1)
  | _, _ => 0

end Routing.Regex
