import Routing.Log
import Routing.Text.Quoted

/-!
# Locations

Where a router reads and writes the present path.

* `History`: the entries of a session and a cursor that moves over them
* `Host`: what a router asks of the host that shows the path
* `Location`: a history, or a host that keeps just two texts
-/
namespace Routing

structure Entry where
  pathname : String
  /-- The fragment without its mark. -/
  hash : String
  deriving DecidableEq, Repr

def Entry.describe (e : Entry) : String :=
  "Entry \x7b pathname: " ++ Quoted.render e.pathname ++ ", hash: " ++ Quoted.render e.hash ++ " \x7d"

/-- The text without a `#` in front. -/
def withoutMark (fragment : String) : String :=
  match fragment.toList with
  | '#' :: rest => String.ofList rest
  | _ => fragment

/-! ## History -/

/-- `current` is the index of the entry that is shown. -/
structure History where
  entries : List Entry
  current : Nat
  deriving DecidableEq, Repr

namespace History

/-- A session that has just been opened at a pathname. -/
def opened (pathname : String) : History :=
  ⟨[⟨pathname, ""⟩], 0⟩

def entry (h : History) : Entry :=
  h.entries[h.current]?.getD ⟨"", ""⟩

/-- Goes on to a new entry. What lay ahead is gone. -/
def push (h : History) (e : Entry) : History :=
  ⟨h.entries.take (h.current + 1) ++ [e], h.current + 1⟩

def pathname (h : History) : String :=
  h.entry.pathname

/-- The fragment with its mark; an empty one has none. -/
def hash (h : History) : String :=
  if h.entry.hash.isEmpty then "" else "#" ++ h.entry.hash

/-- A new fragment on the same pathname. -/
def setHash (h : History) (fragment : String) : History :=
  h.push ⟨h.pathname, withoutMark fragment⟩

/-- A new pathname without fragment. -/
def pushState (h : History) (url : String) : History :=
  h.push ⟨url, ""⟩

/-- One entry back, unless this is the first. -/
def back? (h : History) : Option History :=
  if 0 < h.current then some { h with current := h.current - 1 } else none

/-- One entry forward, unless this is the last. -/
def forward? (h : History) : Option History :=
  if h.current + 1 < h.entries.length then some { h with current := h.current + 1 } else none

def size (h : History) : Nat :=
  h.entries.length

def isEmpty (h : History) : Bool :=
  h.entries.isEmpty

/-- What a move reports, given the history after it. -/
def moveLog (direction : String) (h : History) : List Log.Record :=
  [Log.trace ("Memory history " ++ direction ++ " to " ++ h.entry.describe)]

end History

/-! ## Hosts -/

/-- What a router asks of its host. Nothing is assumed of how the four go together. -/
class Host (L : Type) where
  /-- The part of the address that is a path. -/
  pathname : L → String
  /-- The fragment with its mark; an empty text without one. -/
  hash : L → String
  /-- Replaces the fragment; the text comes without a mark. -/
  setHash (fragment : String) : L → L
  /-- Goes on to an entry with the pathname. -/
  pushState (url : String) : L → L

inductive Location where
  | memory (history : History)
  /-- A host that keeps what it is given, marks included, and has no history. -/
  | plain (pathname hash : String)
  deriving DecidableEq, Repr

namespace Location

def pathname : Location → String
  | memory h => h.pathname
  | plain p _ => p

def hash : Location → String
  | memory h => h.hash
  | plain _ f => f

def setHash (fragment : String) : Location → Location
  | memory h => memory (h.setHash fragment)
  | plain p _ => plain p fragment

def pushState (url : String) : Location → Location
  | memory h => memory (h.pushState url)
  | plain _ f => plain url f

instance : Host Location :=
  ⟨pathname, hash, setHash, pushState⟩

end Location

end Routing
