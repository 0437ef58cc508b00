import Routing.Observation

/-!
# Sessions

All chains that were made, the continuations and chains that were put aside, and what was observed on the way.

* `Session.chain?`, `Session.modify`: a chain by its number
* `Session.parent?`: the chain before one on the same path
* `Session.park`, `Session.unpark?`: continuations put aside, and taken up again
* `Session.keep`: chains that are kept
-/
namespace Routing

structure Session where
  /-- The handlers that are known by name. -/
  library : List (String × Handler) := []
  chains : List Chain := []
  /-- The slots that hold a continuation: each stands for the rest of a chain. -/
  parked : List (String × ChainId) := []
  /-- The slots that hold a chain. -/
  handles : List (String × ChainId) := []
  counters : List (String × Nat) := []
  observations : List Observation := []
  log : List Log.Record := []

namespace Session

def observe (s : Session) (o : Observation) : Session :=
  { s with observations := s.observations ++ [o] }

def report (s : Session) (records : List Log.Record) : Session :=
  { s with log := s.log ++ records }

/-- The session after what it observed and reported was taken away. -/
def drained (s : Session) : Session :=
  { s with observations := [], log := [] }

def named (s : Session) (name : String) : Handler :=
  (s.library.lookup name).getD []

/-! ## Chains -/

def chain? (s : Session) (id : ChainId) : Option Chain :=
  s.chains[id]?

/-- The session with a new chain, and the number of the chain. -/
def create (s : Session) (c : Chain) : ChainId × Session :=
  (s.chains.length, { s with chains := s.chains ++ [c] })

def modify (s : Session) (id : ChainId) (f : Chain → Chain) : Session :=
  { s with chains := s.chains.modify id f }

def previous? (s : Session) (id : ChainId) : Option ChainId :=
  (s.chain? id).bind (·.previous)

/-- The chain before this one, if both were made for the same path and that is not empty. -/
def parent? (s : Session) (id : ChainId) : Option ChainId := do
  let c ← s.chain? id
  let before ← c.previous
  let p ← s.chain? before
  if !p.value.isEmpty && p.value == c.value then some before else none

/-- Makes `before` the chain before this one. Only one level is kept, so `before` forgets its own. -/
def link (s : Session) (id : ChainId) (before : Option ChainId) : Session :=
  let s := match before with
    | none => s
    | some b => s.modify b fun c => { c with previous := none }
  s.modify id fun c => { c with previous := before }

def enqueue (s : Session) (id : ChainId) (batch : List Handler) : Session :=
  match s.chain? id with
  | none => s
  | some c => (s.modify id (·.enqueue batch)).report [c.enqueueLog batch]

def enqueueAt (s : Session) (id : ChainId) (index : Nat) (batch : List Handler) : Session :=
  match s.chain? id with
  | none => s
  | some c => (s.modify id (·.enqueueAt index batch)).report [c.enqueueAtLog index batch]

/-- Takes the next handler from the queue of a chain. -/
def dequeue? (s : Session) (id : ChainId) : Option (Handler × Session) := do
  let c ← s.chain? id
  let (h, rest) ← c.dequeue?
  return (h, s.modify id fun _ => rest)

def navigate (s : Session) (id : ChainId) (path : String) : Session :=
  match s.chain? id with
  | none => s
  | some c => (s.modify id (·.navigate path)).report [c.navigateLog path]

/-- The redirect that a chain asks for, and the session without it. -/
def takeRedirect (s : Session) (id : ChainId) : Option String × Session :=
  ((s.chain? id).bind (·.redirect), s.modify id fun c => { c with redirect := none })

/-! ## Slots and counters -/

def park (s : Session) (slot : String) (id : ChainId) : Session :=
  { s with parked := (slot, id) :: s.parked.filter (·.1 != slot) }

/-- Takes a continuation out of its slot. -/
def unpark? (s : Session) (slot : String) : Option (ChainId × Session) :=
  (s.parked.lookup slot).map fun id =>
    (id, { s with parked := s.parked.filter (·.1 != slot) })

def keep (s : Session) (slot : String) (id : ChainId) : Session :=
  { s with handles := (slot, id) :: s.handles.filter (·.1 != slot) }

/-- Counts one more. -/
def count (s : Session) (counter : String) : Nat × Session :=
  let n := (s.counters.lookup counter).getD 0 + 1
  (n, { s with counters := (counter, n) :: s.counters.filter (·.1 != counter) })

/-! ## Reports -/

def summary? (s : Session) (id : ChainId) : Option ChainSummary :=
  (s.chain? id).map Chain.summary

def chainReport? (s : Session) (id : ChainId) : Option ChainReport :=
  (s.chain? id).map fun c =>
    { route := c.route
      value := c.value
      pending := c.pending
      runsDefault := c.runsDefault
      propagates := c.propagates
      started := c.started
      redirect := c.redirect
      previous := (s.previous? id).bind s.summary?
      grandparent := ((s.previous? id).bind s.previous?).bind s.summary?
      parent := (s.parent? id).bind s.summary?
      params := c.request.params }

end Session

end Routing
