import Routing.Regex.Reader.Escape
import Routing.Unicode.Latest

/-!
# Openings of groups

What follows an opening parenthesis: a name, flags, or nothing.

* `groupOpening`: reads the opening of a group, or a setting of flags that opens none
-/
namespace Routing.Regex.Reader

open Routing.Unicode

inductive Opening where
  | settings (items : List FlagItem)
  | named (name : String)
  | numbered
  | plain (flags : List FlagItem)
  deriving DecidableEq, Repr

def flagOfChar? : Char → Option Flag
  | 'i' => some .ignoreCase
  | 'm' => some .multiLine
  | 's' => some .dotAll
  | 'U' => some .swapGreed
  | 'u' => some .unicode
  | 'R' => some .crlf
  | 'x' => some .extended
  | _ => none

/-- Reads flags up to the colon or parenthesis that ends them, which is left. `before` holds the items
read so far. -/
def flagItems : List FlagItem → List Char → Step (List FlagItem)
  | _, [] => .error .flagUnexpectedEnd
  | before, c :: rest =>
    if c = ':' ∨ c = ')' then
      if before.getLast? = some .negation then .error .flagDanglingNegation
      else .ok (before, c :: rest)
    else if c = '-' then
      if before.contains .negation then .error .flagRepeatedNegation
      else flagItems (before ++ [.negation]) rest
    else
      match flagOfChar? c with
      | none => .error .flagUnrecognized
      | some f =>
        if before.contains (.flag f) then .error .flagDuplicate
        else flagItems (before ++ [.flag f]) rest

def isNameStart (c : Char) : Bool :=
  c == '_' || Latest.alphabetic.contains c

def isNameChar (c : Char) : Bool :=
  c == '_' || c == '.' || c == '[' || c == ']' ||
    Latest.alphanumeric.contains c

/-- The rest of a group name, up to its closing angle bracket. -/
def nameRest : List Char → Step (List Char)
  | [] => .error .groupNameUnexpectedEnd
  | c :: rest =>
    if c = '>' then .ok ([], rest)
    else if isNameChar c then
      match nameRest rest with
      | .error e => .error e
      | .ok (name, after) => .ok (c :: name, after)
    else .error .groupNameInvalid

def groupName : List Char → Step String
  | [] => .error .groupNameUnexpectedEnd
  | c :: rest =>
    if c = '>' then .error .groupNameEmpty
    else if isNameStart c then
      match nameRest rest with
      | .error e => .error e
      | .ok (name, after) => .ok (String.ofList (c :: name), after)
    else .error .groupNameInvalid

/-- Reads what follows an opening parenthesis and the blanks after it. -/
def groupOpening : List Char → Step Opening
  | '?' :: '=' :: _ | '?' :: '!' :: _ | '?' :: '<' :: '=' :: _ | '?' :: '<' :: '!' :: _ =>
    .error .unsupportedLookAround
  | '?' :: 'P' :: '<' :: rest | '?' :: '<' :: rest =>
    match groupName rest with
    | .error e => .error e
    | .ok (name, after) => .ok (.named name, after)
  | ['?'] => .error .groupUnclosed
  | '?' :: rest =>
    match flagItems [] rest with
    | .error e => .error e
    | .ok (items, ')' :: after) =>
      if items.isEmpty then .error .repetitionMissing else .ok (.settings items, after)
    | .ok (items, after) => .ok (.plain items, after.drop 1)
  | cs => .ok (.numbered, cs)

end Routing.Regex.Reader
