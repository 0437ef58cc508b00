import Routing.Error
import Routing.Log
import Routing.Pattern.Expansion
import Routing.Regex

/-!
# Route patterns

A pattern is a path with parameters and wildcards, a list of such paths, or a regular expression.

* `Pattern.source`: the text that a pattern is known by
* `Pattern.compile`: the matcher of a pattern with its slots, or the error in it
-/
namespace Routing

inductive Pattern where
  | path (text : String)
  /-- The members joined to one group of alternatives. -/
  | alternatives (members : List String)
  /-- A matcher that is used as it is. -/
  | regex (r : Regex)
  deriving Repr

/-- How strictly paths are compared. A strict pattern admits no further slash at the end. -/
structure MatchOptions where
  caseSensitive : Bool := false
  strict : Bool := false
  deriving DecidableEq, Repr

/-- How the groups of a matcher become slots: by the names that were generated for them, or all of
them by position. -/
inductive SlotLayout where
  | named
  | positional
  deriving DecidableEq, Repr

structure CompiledPattern where
  source : String
  regex : Regex
  keys : List ParamSpec
  layout : SlotLayout
  deriving Repr

namespace Pattern

def joined (members : List String) : String :=
  "|".intercalate members

def source : Pattern → String
  | path text => text
  | alternatives members => "(" ++ joined members ++ ")"
  | regex r => r.text

/-- The text that is expanded; a regular expression stands as it is. -/
def text? : Pattern → Option String
  | regex _ => none
  | p => some p.source

/-- The expansion of a text under the options. -/
def expansion (options : MatchOptions) (text : String) : Expansion :=
  Expansion.ofText (text.toList ++ if options.strict then [] else ['/', '?'])

/-- The expression that has to match a whole path. -/
def anchored (e : Expansion) : String :=
  String.ofList ("^(?:".toList ++ e.body ++ [')', '$'])

/-- Compiles a pattern. It fails only if the expression that comes out is invalid. -/
def compile (options : MatchOptions) (p : Pattern) : Except RouterError CompiledPattern :=
  match p with
  | regex r => .ok ⟨p.source, r, [], .positional⟩
  | path _ | alternatives _ =>
    let e := expansion options p.source
    match Regex.compile (anchored e) (!options.caseSensitive) with
    | .ok r => .ok ⟨p.source, r, e.keys, .named⟩
    | .error fault => .error (.invalidPattern p.source fault.message)

/-- What compiling a pattern reports. -/
def compileLog (options : MatchOptions) (p : Pattern) : List Log.Record :=
  match p.text? with
  | none => []
  | some text =>
    [Log.trace ("Compiled pattern '" ++ p.source ++ "' into '" ++
      anchored (expansion options text) ++ "'")]

end Pattern

def CompiledPattern.isMatch (p : CompiledPattern) (path : String) : Bool :=
  p.regex.isMatch path

end Routing
