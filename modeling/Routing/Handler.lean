import Routing.Error
import Routing.Sight

/-!
# Handlers

A handler is a list of actions, taken in order. Actions speak about a chain, its request and the
continuation of the handler; where a handler has none of these, the actions that need it do nothing.

* `Action`: what a handler can do
* `Handler`: its actions
* `Handler.rescue?`: how a handler goes on after a failure
-/
namespace Routing

inductive Action where
  /-- Makes an observation of its own. -/
  | note (data : String)
  /-- Calls the continuation: the next handler of the chain runs before the next action. -/
  | next
  /-- Calls the continuation, and observes how it ended. A failure stops there. -/
  | nextCaught
  | observeNext
  /-- Gives the continuation away to a slot, in place of what the slot held. -/
  | park (slot : String)
  /-- Calls the continuation that a slot holds, and empties the slot. -/
  | resume (slot : String)
  | fail (message : String)
  /-- Fails with an error that may have come from elsewhere. -/
  | failWith (e : RouterError)
  /-- Takes over when one of the actions before it fails, its own or one in a call that it makes. Does
  nothing otherwise. -/
  | recover (rescue : RouterError → List Action)
  /-- Goes on by what there is to see. -/
  | consult (choose : Sight → List Action)
  /-- The body is for the first calls only; every call counts. -/
  | times (counter : String) (limit : Nat) (body : List Action)
  | observeParam (name : String)
  | observeIndex (n : Nat)
  | observeRequest
  | whenParam (name : String) (value : Option String) (body : List Action)
  | whenRoute (route : String) (body : List Action)
  | preventDefault
  | stopPropagation
  /-- Asks for a redirect, in place of an earlier one. -/
  | navigate (path : String)
  | observeChain
  | observeContext
  | describeChain
  | enqueue (batch : List (List Action))
  | enqueueAt (index : Nat) (batch : List (List Action))
  /-- Starts the chain, once more if need be. -/
  | run
  /-- Keeps the chain in a slot, in place of what the slot held. -/
  | keep (slot : String)
  /-- The body speaks about the chain that a slot holds. -/
  | onKept (slot : String) (body : List Action)
  /-- The body speaks about the chain before this one. -/
  | onPrevious (body : List Action)
  /-- The body speaks about the chain before this one, if that was on the same path. -/
  | onParent (body : List Action)
  /-- The actions of a handler that is known by name. -/
  | perform (name : String)

abbrev Handler := List Action

/-- What is left of a handler when one of its actions has failed: the first action that takes over, and what
stands behind it. -/
def Handler.rescue? (e : RouterError) : Handler → Option Handler
  | [] => none
  | .recover rescue :: rest => some (rescue e ++ rest)
  | _ :: rest => rescue? e rest

end Routing
