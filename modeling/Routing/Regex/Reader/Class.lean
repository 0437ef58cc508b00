import Routing.Regex.Reader.Escape

/-!
# Classes in brackets

A class is read with a stack of the brackets and operators that are still open.

* `classBody`: reads a class from its opening bracket to the end
-/
namespace Routing.Regex.Reader

/-- What is still open while a class is read, innermost first: a bracket with the items before it, or
an operator with its left operand. -/
inductive ClassFrame where
  | bracket (before : List ClassExpr) (negated : Bool)
  | op (kind : SetOp) (left : ClassExpr)
  deriving Repr

/-- The union of items that were read, the last one first. -/
def unionOfItems : List ClassExpr → ClassExpr
  | [] => .empty
  | [item] => item
  | item :: before => .union (unionOfItems before) item

def Primitive.toClassItem : Primitive → Except RegexError ClassExpr
  | literal l => .ok (.literal l)
  | property negated query => .ok (.property negated query)
  | shorthand negated kind => .ok (.shorthand negated kind)
  | dot | assertion _ => .error .classEscapeInvalid

def Primitive.toRangeEnd : Primitive → Except RegexError Literal
  | literal l => .ok l
  | _ => .error .classRangeLiteral

def asciiKindOfName? (name : List Char) : Option AsciiKind :=
  match String.ofList name with
  | "alnum" => some .alnum
  | "alpha" => some .alpha
  | "ascii" => some .ascii
  | "blank" => some .blank
  | "cntrl" => some .cntrl
  | "digit" => some .digit
  | "graph" => some .graph
  | "lower" => some .lower
  | "print" => some .print
  | "punct" => some .punct
  | "space" => some .space
  | "upper" => some .upper
  | "word" => some .word
  | "xdigit" => some .xdigit
  | _ => none

/-- A class such as `[:alpha:]`, read after its bracket; anything else is left to be read as a
nested class. -/
def asciiClass? : List Char → Option (ClassExpr × List Char)
  | ':' :: rest =>
    let (negated, body) :=
      match rest with
      | '^' :: body => (true, body)
      | body => (false, body)
    match body.dropWhile (· != ':') with
    | ':' :: ']' :: after =>
      (asciiKindOfName? (body.takeWhile (· != ':'))).map fun kind => (.ascii negated kind, after)
    | _ => none
  | _ => none

/-- Hyphens right after the opening bracket stand for themselves. -/
def openingHyphens (extended : Bool) : (fuel : Nat) → List ClassExpr → List Char →
    Step (List ClassExpr)
  | 0, _, _ => .error .classUnclosed
  | fuel + 1, items, cs =>
    match cs with
    | '-' :: rest =>
      match skipBlanks extended rest with
      | [] => .error .classUnclosed
      | after => openingHyphens extended fuel (.literal ⟨'-', false⟩ :: items) after
    | _ => .ok (items, cs)

/-- Reads what may stand only at the front of a class: a negation, hyphens, and a closing bracket that
stands for itself. Gives the negation and the items. -/
def openClass (extended : Bool) (cs : List Char) : Step (Bool × List ClassExpr) :=
  match skipBlanks extended cs with
  | [] => .error .classUnclosed
  | c :: rest =>
    let negated := c == '^'
    match if negated then skipBlanks extended rest else c :: rest with
    | [] => .error .classUnclosed
    | body =>
      match openingHyphens extended (body.length + 1) [] body with
      | .error e => .error e
      | .ok ([], ']' :: after) =>
        match skipBlanks extended after with
        | [] => .error .classUnclosed
        | after => .ok ((negated, [.literal ⟨']', false⟩]), after)
      | .ok (items, after) => .ok ((negated, items), after)

/-- One character or escape of a class. -/
def classPrimitive (extended : Bool) : List Char → Step Primitive
  | [] => .error .classUnclosed
  | '\\' :: rest => escape extended rest
  | c :: rest => .ok (.literal ⟨c, false⟩, rest)

/-- An item, or a range if a hyphen follows that does not close the class or open a difference. -/
def classItem (extended : Bool) (cs : List Char) : Step ClassExpr :=
  match classPrimitive extended cs with
  | .error e => .error e
  | .ok (first, after) =>
    match skipBlanks extended after with
    | [] => .error .classUnclosed
    | c :: rest =>
      let next := peek extended rest
      if c ≠ '-' ∨ next = some ']' ∨ next = some '-' then
        match first.toClassItem with
        | .error e => .error e
        | .ok item => .ok (item, c :: rest)
      else
        match skipBlanks extended rest with
        | [] => .error .classUnclosed
        | body =>
          match classPrimitive extended body with
          | .error e => .error e
          | .ok (last, after) =>
            match first.toRangeEnd, last.toRangeEnd with
            | .ok a, .ok b =>
              if a.char ≤ b.char then .ok (.range a b, after) else .error .classRangeInvalid
            | .error e, _ => .error e
            | _, .error e => .error e

/-- Gives an operand to the operator that waits for it, if one does. -/
def closeOp : List ClassFrame → ClassExpr → List ClassFrame × ClassExpr
  | .op kind left :: frames, right => (frames, .op kind left right)
  | frames, right => (frames, right)

def setOp? : List Char → Option (SetOp × List Char)
  | '&' :: '&' :: rest => some (.intersection, rest)
  | '-' :: '-' :: rest => some (.difference, rest)
  | '~' :: '~' :: rest => some (.symmetricDifference, rest)
  | _ => none

/-- Reads to the end of the outermost open bracket. `items` are those of the innermost union. -/
def classRest (extended : Bool) : (fuel : Nat) → List ClassFrame → List ClassExpr → List Char →
    Step (Bool × ClassExpr)
  | 0, _, _, _ => .error .classUnclosed
  | fuel + 1, frames, items, cs =>
    match skipBlanks extended cs with
    | [] => .error .classUnclosed
    | '[' :: rest =>
      match asciiClass? rest with
      | some (item, after) => classRest extended fuel frames (item :: items) after
      | none =>
        match openClass extended rest with
        | .error e => .error e
        | .ok ((negated, inner), after) =>
          classRest extended fuel (.bracket items negated :: frames) inner after
    | ']' :: rest =>
      let (frames, inner) := closeOp frames (unionOfItems items)
      match frames with
      | .bracket before negated :: outer =>
        if outer.isEmpty then .ok ((negated, inner), rest)
        else classRest extended fuel outer (.bracketed negated inner :: before) rest
      | _ => .error .classUnclosed
    | body =>
      match setOp? body with
      | some (kind, after) =>
        let (frames, left) := closeOp frames (unionOfItems items)
        classRest extended fuel (.op kind left :: frames) [] after
      | none =>
        match classItem extended body with
        | .error e => .error e
        | .ok (item, after) => classRest extended fuel frames (item :: items) after

/-- Reads a class after its opening bracket: whether it is negated, and what it holds. -/
def classBody (extended : Bool) (cs : List Char) : Step (Bool × ClassExpr) :=
  match openClass extended cs with
  | .error e => .error e
  | .ok ((negated, items), after) =>
    classRest extended (after.length + 1) [.bracket [] negated] items after

end Routing.Regex.Reader
