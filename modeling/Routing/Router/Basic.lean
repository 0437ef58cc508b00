import Routing.Cache
import Routing.Event
import Routing.Location.Path
import Routing.Session.Machine

/-!
# Routers

A router has routes, in the order of their registration, and a host that it reads paths from.

* `Router`: routes, listeners, host and the session of all chains
* `Router.hosted`, `Router.created`: a router before its first route
* `Router.path`: the path that the host shows
* `Router.announce`: tells the listeners of an event
-/
namespace Routing

structure Route where
  pattern : CompiledPattern
  middleware : List Handler
  /-- Runs last. -/
  handler : Handler

def Route.handlers (r : Route) : List Handler :=
  r.middleware ++ [r.handler]

/-- Actions for the events of one kind. -/
structure Listener where
  kind : EventKind
  actions : List Action

/-- A router may have a host of any kind. -/
structure Router (L : Type := Location) [Host L] where
  options : RouterOptions := {}
  location : L
  /-- The handlers that every chain begins with. -/
  globals : List Handler := []
  routes : List Route := []
  listeners : List Listener := []
  /-- The chain that was made last, of those that no listener cancelled. -/
  current : Option ChainId := none
  /-- How many redirects are being followed. -/
  redirectDepth : Nat := 0
  cache : PatternCache := .empty
  session : Session := {}

/-- What happened, as listeners are told. -/
inductive Event where
  | matched (chain : ChainId) (route path : String)
  /-- A change of the path, by navigation or in the fragment. -/
  | changed (kind : EventKind) (path : String)
  deriving DecidableEq, Repr

namespace Event

def kind : Event → EventKind
  | matched .. => .matched
  | changed kind _ => kind

/-- The chain that the actions of a listener speak about. -/
def chain? : Event → Option ChainId
  | matched id _ _ => some id
  | changed .. => none

def observation : Event → Observation
  | matched _ route path => .heardMatch route path
  | changed kind path => .heardChange kind path

end Event

/-- Takes the actions of a listener. A failure is observed and goes no further. -/
def Listener.hear (limit : Nat) (e : Event) (l : Listener) : Operation Session Unit := do
  modify fun s => s.observe e.observation
  tryCatch (Session.act limit e.chain? l.actions) fun failure =>
    modify fun s => s.observe (.caught (some failure))

namespace Router

variable {L : Type} [Host L]

/-- A router before its first route. -/
def hosted (options : RouterOptions) (location : L) (library : List (String × Handler)) : Router L :=
  let trigger := match options.trigger with
    | .hashChange => "HashChange"
    | .navigate => "Navigate"
  let record := Log.debug ("Router created (push_state: " ++ toString options.pushState ++
    ", trigger: " ++ trigger ++ ")")
  { options, location, session := { library, log := [record] } }

/-- A router that keeps a location itself, before its first route. -/
def created (options : RouterOptions) (location : Location) (library : List (String × Handler)) :
    Router :=
  hosted options location library

/-- The path that the host shows. -/
def path (r : Router L) : String :=
  Host.path r.options r.location

def setPath (r : Router L) (path : String) : Router L :=
  { r with location := Host.setPath r.options path r.location }

def clearPath (r : Router L) : Router L :=
  { r with location := Host.clearPath r.options r.location }

def listenersOf (r : Router L) (kind : EventKind) : List Listener :=
  r.listeners.filter (·.kind == kind)

/-- Adds a handler that begins every chain from now on. -/
def useGlobal (r : Router L) (h : Handler) : Router L :=
  { r with globals := r.globals ++ [h] }

def listenFor (r : Router L) (l : Listener) : Router L :=
  { r with listeners := r.listeners ++ [l] }

def report (records : List Log.Record) : Operation (Router L) Unit :=
  modify fun r => { r with session := r.session.report records }

/-- An operation on the session. -/
def inSession {α : Type} (x : Operation Session α) : Operation (Router L) α :=
  x.within Router.session fun s r => { r with session := s }

/-- Tells the listeners of an event, in the order in which they came. -/
def announce (limit : Nat) (e : Event) : Operation (Router L) Unit := do
  let r ← get
  (r.listenersOf e.kind).forM fun l => inSession (l.hear limit e)

end Router

end Routing
