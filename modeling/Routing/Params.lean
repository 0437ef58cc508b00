/-!
# Parameters

* `ParamKey`, `ParamSpec`: how a slot of a pattern is addressed, and whether it may stay unset
* `Params.insert`: binds a key, in the place of its first binding
* `Params.get?`: the value of a key
-/
namespace Routing

/-- Named parameters go by their name, wildcards and groups by their position. -/
inductive ParamKey where
  | name (text : String)
  | index (n : Nat)
  deriving DecidableEq, Repr

namespace ParamKey

def text : ParamKey → String
  | name s => s
  | index n => toString n

def name? : ParamKey → Option String
  | name s => some s
  | index _ => none

def index? : ParamKey → Option Nat
  | name _ => none
  | index n => some n

end ParamKey

structure ParamSpec where
  key : ParamKey
  optional : Bool
  deriving DecidableEq, Repr

/-- Keys with their values, in the order in which the keys were first bound. A slot that took no part
in the match is bound to `none`, which is not the empty text. -/
structure Params where
  entries : List (ParamKey × Option String) := []
  deriving DecidableEq, Repr

namespace Params

def empty : Params := {}

/-- Puts a value in the place of the old one, or at the end. -/
def insertEntry (key : ParamKey) (value : Option String) :
    List (ParamKey × Option String) → List (ParamKey × Option String)
  | [] => [(key, value)]
  | (k, v) :: rest =>
    if k = key then (k, value) :: rest else (k, v) :: insertEntry key value rest

def insert (p : Params) (key : ParamKey) (value : Option String) : Params :=
  ⟨insertEntry key value p.entries⟩

def keys (p : Params) : List ParamKey :=
  p.entries.map (·.1)

/-- The value of a key; `none` both for a slot without value and for a key that is not there. -/
def get? (p : Params) (key : ParamKey) : Option String :=
  (p.entries.find? (·.1 == key)).bind (·.2)

def getName? (p : Params) (name : String) : Option String :=
  p.get? (.name name)

def getIndex? (p : Params) (n : Nat) : Option String :=
  p.get? (.index n)

def contains (p : Params) (name : String) : Bool :=
  p.entries.any (·.1 == .name name)

def size (p : Params) : Nat :=
  p.entries.length

def isEmpty (p : Params) : Bool :=
  p.entries.isEmpty

end Params

end Routing
