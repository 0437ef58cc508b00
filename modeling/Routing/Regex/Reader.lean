import Routing.Regex.Reader.Class
import Routing.Regex.Reader.Group

/-!
# Reading a regular expression

The text is read in one pass, with a stack of the groups that are open.

* `Expr.read`: the expression that a text stands for, or the first error in it
-/
namespace Routing.Regex.Reader

/-- How deep groups, classes and repetitions may be nested. -/
def nestLimit : Nat := 250

/-- The operands that were read at one level of nesting, the last one first. -/
structure Level where
  branches : List Expr := []
  items : List Expr := []
  deriving Repr

/-- An open group with the level around it and the mode to return to. -/
structure OpenGroup where
  kind : GroupKind
  outer : Level
  extended : Bool
  deriving Repr

structure State where
  level : Level := {}
  groups : List OpenGroup := []
  extended : Bool := false
  /-- How many capturing groups were opened. -/
  count : Nat := 0
  names : List String := []
  deriving Repr

def sequenceOfItems : List Expr → Expr
  | [] => .empty
  | [item] => item
  | item :: before => .sequence (sequenceOfItems before) item

def alternationOfBranches : List Expr → Expr
  | [] => .empty
  | [branch] => branch
  | branch :: before => .alternation (alternationOfBranches before) branch

namespace Level

def toExpr (l : Level) : Expr :=
  alternationOfBranches (sequenceOfItems l.items :: l.branches)

def push (l : Level) (e : Expr) : Level :=
  { l with items := e :: l.items }

/-- Ends a branch of an alternation and starts the next. -/
def branch (l : Level) : Level :=
  { branches := sequenceOfItems l.items :: l.branches, items := [] }

/-- Takes off the last item, for a repetition to apply to. -/
def popOperand (l : Level) : Except RegexError (Expr × Level) :=
  match l.items with
  | [] | .empty :: _ | .flags _ :: _ => .error .repetitionMissing
  | e :: before => .ok (e, { l with items := before })

end Level

namespace State

def push (s : State) (e : Expr) : State :=
  { s with level := s.level.push e }

/-- The mode that flag items ask for, or the present one. -/
def extendedAfter (s : State) (items : List FlagItem) : Bool :=
  (FlagItem.setting? .extended items true).getD s.extended

def openGroup (s : State) (kind : GroupKind) (extended : Bool) : State :=
  { s with
    level := {}, groups := ⟨kind, s.level, s.extended⟩ :: s.groups, extended := extended }

end State

/-- Reads an opening parenthesis, after it. -/
def readOpening (s : State) (cs : List Char) : Step State :=
  match groupOpening (skipBlanks s.extended cs) with
  | .error e => .error e
  | .ok (.settings items, after) =>
    .ok ({ s.push (.flags items) with extended := s.extendedAfter items }, after)
  | .ok (.plain items, after) => .ok (s.openGroup (.plain items) (s.extendedAfter items), after)
  | .ok (.numbered, after) =>
    let s := { s with count := s.count + 1 }
    .ok (s.openGroup (.capture s.count none) s.extended, after)
  | .ok (.named name, after) =>
    if s.names.contains name then .error .groupNameDuplicate
    else
      let s := { s with count := s.count + 1, names := name :: s.names }
      .ok (s.openGroup (.capture s.count (some name)) s.extended, after)

/-- Reads a closing parenthesis, after it. -/
def readClosing (s : State) (cs : List Char) : Step State :=
  match s.groups with
  | [] => .error .groupUnopened
  | g :: groups =>
    let level := g.outer.push (.group g.kind s.level.toExpr)
    .ok ({ s with level := level, groups := groups, extended := g.extended }, cs)

/-- Reads `?`, `*` or `+`, after it; a question mark next makes the repetition lazy. -/
def readRepetition (s : State) (least : Nat) (most : Option Nat) (cs : List Char) : Step State :=
  match s.level.popOperand with
  | .error e => .error e
  | .ok (operand, level) =>
    let (greedy, after) :=
      match cs with
      | '?' :: after => (false, after)
      | after => (true, after)
    .ok ({ s with level := level.push (.repetition least most greedy operand) }, after)

/-- Reads the bounds of a counted repetition, up to the closing brace, which is left. -/
def readBounds (extended : Bool) (cs : List Char) : Step (Nat × Option Nat) :=
  match decimal extended cs with
  | (_, []) => .error .repetitionCountUnclosed
  | (least, ',' :: rest) =>
    match skipBlanks extended rest with
    | [] => .error .repetitionCountUnclosed
    | '\x7d' :: after =>
      match least with
      | .error e => .error e
      | .ok n => .ok ((n, none), '\x7d' :: after)
    | body =>
      match least, decimal extended body with
      | .error e, _ => .error e
      | .ok _, (.error e, _) => .error e
      | .ok n, (.ok m, after) => .ok ((n, some m), after)
  | (.error e, _) => .error e
  | (.ok n, after) => .ok ((n, some n), after)

/-- Reads a counted repetition after its opening brace. -/
def readCounted (s : State) (cs : List Char) : Step State :=
  match s.level.popOperand with
  | .error e => .error e
  | .ok (operand, level) =>
    match skipBlanks s.extended cs with
    | [] => .error .repetitionCountUnclosed
    | body =>
      match readBounds s.extended body with
      | .error e => .error e
      | .ok ((least, most), '\x7d' :: after) =>
        let (greedy, after) :=
          match skipBlanks s.extended after with
          | '?' :: after => (false, after)
          | after => (true, after)
        if most.all (least ≤ ·) then
          .ok ({ s with level := level.push (.repetition least most greedy operand) }, after)
        else .error .repetitionCountInvalid
      | .ok _ => .error .repetitionCountUnclosed

/-- Reads one part of an expression, which starts with `c`. -/
def readPart (s : State) (c : Char) (rest : List Char) : Step State :=
  match c with
  | '(' => readOpening s rest
  | ')' => readClosing s rest
  | '|' => .ok ({ s with level := s.level.branch }, rest)
  | '[' =>
    match classBody s.extended rest with
    | .error e => .error e
    | .ok ((negated, inner), after) => .ok (s.push (.bracketed negated inner), after)
  | '?' => readRepetition s 0 (some 1) rest
  | '*' => readRepetition s 0 none rest
  | '+' => readRepetition s 1 none rest
  | '\x7b' => readCounted s rest
  | '\\' =>
    match escape s.extended rest with
    | .error e => .error e
    | .ok (p, after) => .ok (s.push p.toExpr, after)
  | '.' => .ok (s.push .dot, rest)
  | '^' => .ok (s.push (.assertion .startLine), rest)
  | '$' => .ok (s.push (.assertion .endLine), rest)
  | c => .ok (s.push (.literal ⟨c, false⟩), rest)

/-- The whole expression, once the text has ended. -/
def finish (s : State) : Except RegexError Expr :=
  match s.groups with
  | _ :: _ => .error .groupUnclosed
  | [] =>
    let e := s.level.toExpr
    if e.nesting .none ≤ nestLimit then .ok e else .error (.nestLimitExceeded nestLimit)

/-- Reads part after part. Each takes at least one character, so that the length of the text is fuel
enough. -/
def readAll : (fuel : Nat) → State → List Char → Except RegexError Expr
  | 0, s, _ => finish s
  | fuel + 1, s, cs =>
    match skipBlanks s.extended cs with
    | [] => finish s
    | c :: rest =>
      match readPart s c rest with
      | .error e => .error e
      | .ok (s, after) => readAll fuel s after

end Reader

/-- The expression that a text stands for, or the first error in the text. -/
def Expr.read (text : List Char) : Except RegexError Expr :=
  Reader.readAll (text.length + 1) {} text

end Routing.Regex
