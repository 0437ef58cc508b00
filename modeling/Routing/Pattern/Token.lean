import Routing.Params

/-!
# The tokens of a path pattern

A pattern is cut into tokens from left to right; each goes into the regular expression as one piece,
and some declare a slot.

* `Token.text`: the token as written
* `Token.next?`: the first token of a text, and the rest
* `Token.expansion`: the piece of regular expression that the token stands for
* `Token.spec?`: the slot that the token declares
-/
namespace Routing.Pattern

/-- A parameter `[/][.]:name[(capture)][?]`. -/
structure ParamToken where
  slash : Bool
  dot : Bool
  name : List Char
  capture : Option (List Char)
  optional : Bool
  deriving DecidableEq, Repr

inductive Token where
  | param (p : ParamToken)
  /-- `/(`, which opens a group that holds the slash and captures nothing. -/
  | slashGroup
  | slash
  | dot
  | plus
  | star
  /-- A backslash with the character after it, if there is one. -/
  | escape (c : Option Char)
  /-- `(?`, with a colon that follows at once. -/
  | special (colon : Bool)
  | group
  /-- A class, from its opening bracket on. -/
  | charClass (body : List Char)
  | char (c : Char)
  deriving DecidableEq, Repr

/-! ## Parameters -/

def isNameChar (c : Char) : Bool :=
  c.isAlphanum || c == '_'

/-- The text up to the parenthesis that closes the group, and the rest. `depth` counts the groups that
are open inside. Parentheses in a class and escaped characters do not count. -/
def balanced : (depth : Nat) → (inClass : Bool) → List Char → Option (List Char × List Char)
  | _, _, [] => none
  | _, _, ['\\'] => none
  | d, k, '\\' :: c :: rest => (balanced d k rest).map fun (b, r) => ('\\' :: c :: b, r)
  | d, k, c :: rest =>
    let go (d : Nat) (k : Bool) := (balanced d k rest).map fun (b, r) => (c :: b, r)
    if c = '[' then go d true
    else if c = ']' then go d false
    else if c = '(' ∧ k = false then go (d + 1) k
    else if c = ')' ∧ k = false then
      match d with
      | 0 => some ([], rest)
      | d + 1 => go d k
    else go d k

/-- A capture in parentheses, if one opens here and is closed. -/
def capture? : List Char → Option (List Char) × List Char
  | '(' :: rest =>
    match balanced 0 false rest with
    | some (body, after) => (some body, after)
    | none => (none, '(' :: rest)
  | cs => (none, cs)

/-- Whether the text starts with `c`, and the text without it. -/
def flag (c : Char) : List Char → Bool × List Char
  | d :: rest => if d = c then (true, rest) else (false, d :: rest)
  | [] => (false, [])

/-- A parameter at the front of the text. -/
def param? (cs : List Char) : Option (ParamToken × List Char) :=
  let (slash, cs) := flag '/' cs
  let (dot, cs) := flag '.' cs
  match cs with
  | ':' :: cs =>
    let name := cs.takeWhile isNameChar
    if name.isEmpty then none
    else
      let (capture, cs) := capture? (cs.dropWhile isNameChar)
      let (optional, cs) := flag '?' cs
      some (⟨slash, dot, name, capture, optional⟩, cs)
  | _ => none

/-! ## Classes -/

/-- The rest of a class: up to the first bracket that closes it and is not escaped, or to the end. -/
def classBody : List Char → List Char × List Char
  | [] => ([], [])
  | ['\\'] => (['\\'], [])
  | '\\' :: c :: rest =>
    let (b, r) := classBody rest
    ('\\' :: c :: b, r)
  | c :: rest =>
    if c = ']' then ([']'], rest)
    else
      let (b, r) := classBody rest
      (c :: b, r)

namespace Token

/-- The first token that is no parameter. -/
def nextPlain? : List Char → Option (Token × List Char)
  | [] => none
  | '/' :: '(' :: '?' :: rest => some (slash, '(' :: '?' :: rest)
  | '/' :: '(' :: rest => some (slashGroup, rest)
  | '/' :: rest => some (slash, rest)
  | '.' :: rest => some (dot, rest)
  | '+' :: rest => some (plus, rest)
  | '*' :: rest => some (star, rest)
  | ['\\'] => some (escape none, [])
  | '\\' :: c :: rest => some (escape (some c), rest)
  | '(' :: '?' :: ':' :: rest => some (special true, rest)
  | '(' :: '?' :: rest => some (special false, rest)
  | '(' :: rest => some (group, rest)
  | '[' :: rest =>
    let (body, rest) := classBody rest
    some (charClass body, rest)
  | c :: rest => some (char c, rest)

/-- The first token of a text, and the rest. A parameter goes before all else. -/
def next? (cs : List Char) : Option (Token × List Char) :=
  match param? cs with
  | some (p, rest) => some (param p, rest)
  | none => nextPlain? cs

/-- Cuts a text into tokens. Each takes a character or more, so that the length is fuel enough. -/
def lexFrom : (fuel : Nat) → List Char → List Token
  | 0, _ => []
  | fuel + 1, cs =>
    match next? cs with
    | none => []
    | some (t, rest) => t :: lexFrom fuel rest

def lex (cs : List Char) : List Token :=
  lexFrom cs.length cs

/-! ## Texts -/

def ParamToken.text (p : ParamToken) : List Char :=
  (if p.slash then ['/'] else []) ++ (if p.dot then ['.'] else []) ++ ':' :: p.name ++
    (match p.capture with
      | some body => '(' :: body ++ [')']
      | none => []) ++
    (if p.optional then ['?'] else [])

/-- The token as written. -/
def text : Token → List Char
  | param p => ParamToken.text p
  | slashGroup => ['/', '(']
  | slash => ['/']
  | dot => ['.']
  | plus => ['+']
  | star => ['*']
  | escape none => ['\\']
  | escape (some c) => ['\\', c]
  | special true => ['(', '?', ':']
  | special false => ['(', '?']
  | group => ['(']
  | charClass body => '[' :: body
  | char c => [c]

/-! ## Expansions -/

/-- The name of the group that captures a slot. -/
def slotName (slot : Nat) : String :=
  "__wp" ++ toString slot

/-- The opening of the group that captures a slot. -/
def slotOpening (slot : Nat) : List Char :=
  "(?P<".toList ++ (slotName slot).toList ++ ['>']

def slotGroup (slot : Nat) (body : List Char) : List Char :=
  slotOpening slot ++ body ++ [')']

/-- What a parameter captures: its own expression, or one segment, which ends at a dot too if it was
introduced by one. -/
def ParamToken.body (p : ParamToken) : List Char :=
  match p.capture with
  | some body => body
  | none => if p.dot then "[^/.]+?".toList else "[^/]+?".toList

/-- An optional parameter goes with its slash and dot, a required one leaves the slash outside. -/
def ParamToken.expansion (p : ParamToken) (slot : Nat) : List Char :=
  let slash := if p.slash then ['/'] else []
  let dot := if p.dot then ['\\', '.'] else []
  let inner := dot ++ slotGroup slot (ParamToken.body p)
  if p.optional then "(?:".toList ++ slash ++ inner ++ [')', '?']
  else slash ++ "(?:".toList ++ inner ++ [')']

/-- The piece of regular expression that the token stands for, where `slot` is the next slot. -/
def expansion (slot : Nat) : Token → List Char
  | param p => ParamToken.expansion p slot
  | slashGroup => "(?:/".toList
  | dot => ['\\', '.']
  | plus => slotGroup slot ['.', '+']
  | star => slotGroup slot ['.', '*']
  | group => slotOpening slot
  | t => t.text

/-- The slot that the token declares, where `unnamed` is the next position. -/
def spec? (unnamed : Nat) : Token → Option ParamSpec
  | param p => some ⟨.name (String.ofList p.name), p.optional⟩
  | plus | star | group => some ⟨.index unnamed, false⟩
  | _ => none

end Token

end Routing.Pattern
