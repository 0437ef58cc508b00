import Routing.Pattern
import Routing.Text.Percent

/-!
# Requests

A compiled pattern applied to a path gives a request: whether the path matches, what the slots
captured, and the parameters decoded from that.

* `CompiledPattern.parse`: the request for a path
* `slotValue`: a capture decoded, or as it is where it does not decode
-/
namespace Routing

structure Request where
  path : String
  matched : Bool
  /-- What each slot captured; `none` for a slot that took no part. -/
  captures : List (Option String)
  params : Params
  keys : List ParamSpec
  deriving DecidableEq, Repr

def Request.param? (r : Request) (name : String) : Option String :=
  r.params.getName? name

/-- The value of a capture. If the escapes in it do not amount to text, it keeps its raw form. -/
def slotValue (raw : String) : String :=
  match Percent.decode raw.toList with
  | .ok cs => String.ofList cs
  | .error _ => raw

namespace CompiledPattern

/-- The key of slot `i`. -/
def slotKey (p : CompiledPattern) (i : Nat) : ParamKey :=
  match p.keys[i]? with
  | some spec => spec.key
  | none => .index i

/-- What each slot captured in a match. -/
def slots (p : CompiledPattern) (m : Regex.Match) : List (Option String) :=
  match p.layout with
  | .named =>
    (List.range p.keys.length).map fun i =>
      (p.regex.groupIndex? (Pattern.Token.slotName i)).bind m.group?
  | .positional => m.groups

/-- Binds the slots from the `i`-th on, in order. -/
def bindSlots (p : CompiledPattern) (i : Nat) : List (Option String) → Params → Params
  | [], params => params
  | raw :: rest, params =>
    bindSlots p (i + 1) rest (params.insert (p.slotKey i) (raw.map slotValue))

/-- Applies a pattern to a path. -/
def parse (p : CompiledPattern) (path : String) : Request :=
  match p.regex.find? path with
  | none => ⟨path, false, [], .empty, p.keys⟩
  | some m =>
    let captures := p.slots m
    ⟨path, true, captures, p.bindSlots 0 captures .empty, p.keys⟩

/-- What parsing reports: each capture that was left undecoded. -/
def parseLog (p : CompiledPattern) (r : Request) : List Log.Record :=
  r.captures.zipIdx.filterMap fun (raw, i) =>
    match raw with
    | none => none
    | some raw =>
      match Percent.decode raw.toList with
      | .ok _ => none
      | .error e =>
        some (Log.warn ("Parameter '" ++ (p.slotKey i).text ++ "' left undecoded ('" ++ raw ++ "'): " ++
          e.message))

end CompiledPattern

end Routing
