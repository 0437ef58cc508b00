import Routing.Handler
import Routing.Text.Quoted

/-!
# Chains

A route that matched owns a queue of handlers, which run one after another, each at the call of the
one before it.

* `Chain.enqueue`, `Chain.enqueueAt`: hand handlers to a chain
* `Chain.dequeue?`: the handler that runs next
* `enqueueAt_of_length_le`: behind the end is at the end
* `enqueueAt_append`: two batches side by side are one
-/
namespace Routing

/-- Chains are numbered in the order of their creation. -/
abbrev ChainId := Nat

def CompiledPattern.context (p : CompiledPattern) (request : Request) : RouteContext :=
  ⟨p.source, request, p.regex⟩

structure Chain where
  /-- The path for which the chain was made. -/
  value : String
  context : RouteContext
  queue : List Handler
  runsDefault : Bool := true
  /-- Later routes on the same path may run. -/
  propagates : Bool := true
  started : Bool := false
  previous : Option ChainId := none
  /-- The path that the router is asked to go to. -/
  redirect : Option String := none

namespace Chain

/-- A chain before its start. The handlers that every chain of a router begins with come first. -/
def opened (value : String) (context : RouteContext) (globals : List Handler) : Chain :=
  { value, context, queue := globals }

def route (c : Chain) : String :=
  c.context.route

def request (c : Chain) : Request :=
  c.context.request

def pending (c : Chain) : Nat :=
  c.queue.length

/-! ## The queue -/

def enqueue (c : Chain) (batch : List Handler) : Chain :=
  { c with queue := c.queue ++ batch }

/-- Puts a batch before the handler at an index, or at the end if there is none. -/
def enqueueAt (c : Chain) (index : Nat) (batch : List Handler) : Chain :=
  { c with queue := c.queue.take index ++ batch ++ c.queue.drop index }

def dequeue? (c : Chain) : Option (Handler × Chain) :=
  match c.queue with
  | [] => none
  | h :: rest => some (h, { c with queue := rest })

theorem enqueueAt_of_length_le {c : Chain} {index : Nat} (h : c.queue.length ≤ index)
    (batch : List Handler) : c.enqueueAt index batch = c.enqueue batch := by
  simp [enqueueAt, enqueue, List.take_of_length_le h, List.drop_of_length_le h]

theorem enqueueAt_append (c : Chain) (index : Nat) (a b : List Handler) :
    (c.enqueueAt index a).enqueueAt (min index c.queue.length + a.length) b =
      c.enqueueAt index (a ++ b) := by
  have front : min index c.queue.length + a.length = (c.queue.take index ++ a).length := by simp
  simp only [enqueueAt, front]
  rw [List.take_left, List.drop_left]
  simp only [List.append_assoc]

/-! ## What handlers ask for -/

def preventDefault (c : Chain) : Chain :=
  { c with runsDefault := false }

def stopPropagation (c : Chain) : Chain :=
  { c with propagates := false }

def navigate (path : String) (c : Chain) : Chain :=
  { c with redirect := some path }

def start (c : Chain) : Chain :=
  { c with started := true }

/-! ## Reports -/

def enqueueLog (c : Chain) (batch : List Handler) : Log.Record :=
  Log.trace ("Enqueued " ++ toString batch.length ++ " handler(s) on chain for '" ++ c.value ++ "'")

def enqueueAtLog (c : Chain) (index : Nat) (batch : List Handler) : Log.Record :=
  Log.trace ("Inserted " ++ toString batch.length ++ " handler(s) at " ++
    toString (min index c.pending) ++ " on chain for '" ++ c.value ++ "'")

def exhaustedLog (c : Chain) : Log.Record :=
  Log.trace ("Chain for '" ++ c.value ++ "' is exhausted")

def navigateLog (path : String) (c : Chain) : Log.Record :=
  Log.trace ("Chain for '" ++ c.value ++ "' requests navigation to '" ++ path ++ "'")

def redirectText : Option String → String
  | none => "None"
  | some path => "Some(" ++ Quoted.render path ++ ")"

def describe (c : Chain) : String :=
  "Chain \x7b value: " ++ Quoted.render c.value ++ ", route: " ++ Quoted.render c.route ++
    ", pending: " ++ toString c.pending ++ ", run_default: " ++ toString c.runsDefault ++
    ", propagate: " ++ toString c.propagates ++ ", started: " ++ toString c.started ++
    ", redirect: " ++ redirectText c.redirect ++ ", .. \x7d"

/-- The continuation of a handler of this chain in words. -/
def describeNext (c : Chain) : String :=
  "Next \x7b value: " ++ Quoted.render c.value ++ ", pending: " ++ toString c.pending ++ " \x7d"

end Chain

end Routing
