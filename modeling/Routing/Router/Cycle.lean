import Routing.Router.Basic

/-!
# Cycles

A cycle evaluates routes on the present path, one by one. A chain may ask for a redirect, which ends
the cycle; a cycle on the path that was asked for takes its place.

* `Router.evaluate`: one route on the present path
* `Router.cycle`: routes in order, up to the first redirect
* `Router.follow`: follows redirects, `maxRedirectDepth` of them at most
* `Router.navigate`, `Router.emit`, `Router.dispatch`: what starts a cycle
-/
namespace Routing.Router

variable {L : Type} [Host L]

/-- So many redirects are followed one from another. -/
def maxRedirectDepth : Nat := 5

/-! ## One route -/

/-- Makes the chain of a route that matched, which waits for its start. -/
def openChain (route : Route) (request : Request) : Operation (Router L) ChainId :=
  modifyGet fun r =>
    let (id, s) := r.session.create
      (.opened request.path (route.pattern.context request) r.globals)
    (id, { r with session := s.enqueue id route.handlers })

/-- Makes a chain the current one, linked to the one before. -/
def makeCurrent (id : ChainId) : Operation (Router L) Unit :=
  modify fun r => { r with session := r.session.link id r.current, current := some id }

/-- Whether the listeners left a chain to run. -/
def admitted (r : Router L) (id : ChainId) : Bool :=
  (r.session.chain? id).any (·.runsDefault)

/-- Whether the chain before, on the same path, stopped propagation. -/
def vetoed (r : Router L) (id : ChainId) : Bool :=
  ((r.session.parent? id).bind r.session.chain?).any fun c => !c.propagates

/-- Starts the chain of a route. A failure is reported and ends the cycle. -/
def start (limit : Nat) (route : Route) (request : Request) (id : ChainId) :
    Operation (Router L) Unit :=
  tryCatch (inSession (Session.run limit id)) fun e => do
    report [Log.error ("Route '" ++ route.pattern.source ++ "' failed on '" ++ request.path ++ "': " ++
      e.message)]
    throw e

def takeRedirect (id : ChainId) : Operation (Router L) (Option String) :=
  modifyGet fun r =>
    let (target, s) := r.session.takeRedirect id
    (target, { r with session := s })

/-- Runs the current chain, unless the chain before has a veto; the veto then goes on. The value is
the redirect that the chain asks for. -/
def runCurrent (limit : Nat) (route : Route) (request : Request) (id : ChainId) :
    Operation (Router L) (Option String) := do
  if (← get).vetoed id then
    modify fun r => { r with session := r.session.modify id Chain.stopPropagation }
    report [Log.debug ("Route '" ++ route.pattern.source ++ "' vetoed by an earlier route on '" ++
      request.path ++ "'")]
    return none
  else
    start limit route request id
    takeRedirect id

/-- Lets a route that matched have its turn. -/
def enter (limit : Nat) (route : Route) (request : Request) : Operation (Router L) (Option String) := do
  report [Log.debug ("Route '" ++ route.pattern.source ++ "' matched '" ++ request.path ++ "'")]
  let id ← openChain route request
  announce limit (.matched id route.pattern.source request.path)
  if (← get).admitted id then
    makeCurrent id
    runCurrent limit route request id
  else
    report [Log.debug ("Dispatch of '" ++ route.pattern.source ++ "' cancelled by a match listener")]
    return none

/-- Evaluates a route on the present path. -/
def evaluate (limit : Nat) (route : Route) : Operation (Router L) (Option String) := do
  let request := route.pattern.parse (← get).path
  report (route.pattern.parseLog request)
  if request.matched then enter limit route request else return none

/-! ## Cycles and redirects -/

/-- Evaluates routes in order, up to the first that asks for a redirect or fails. -/
def cycle (limit : Nat) : List Route → Operation (Router L) (Option String)
  | [] => return none
  | route :: rest => do
    match ← evaluate limit route with
    | some target => return some target
    | none => cycle limit rest

/-- Tells the listeners of a change, and runs a cycle if changes of this kind start one. -/
def raise (limit : Nat) (kind : EventKind) : Operation (Router L) (Option String) := do
  announce limit (.changed kind (← get).path)
  let r ← get
  if kind.starts r.options.trigger then cycle limit r.routes else return none

/-- Writes a path and raises the events that the change of a host would have raised. One of them
starts a cycle. -/
def visit (limit : Nat) (path : String) : Operation (Router L) (Option String) := do
  report [Log.debug ("Navigating to '" ++ path ++ "'")]
  modify fun r => r.setPath path
  let asked ← raise limit .navigate
  match (← get).options.trigger with
  | .navigate => return asked
  | .hashChange => raise limit .hashChange

/-- Follows a redirect and those that come of it. The budget bounds their number; one more is
reported and dropped. -/
def followWithin (limit : Nat) : Nat → Option String → Operation (Router L) Unit
  | _, none => return
  | 0, some target => do
    report [Log.warn ("Redirect loop detected (depth " ++ toString (← get).redirectDepth ++
      "): target '" ++ target ++ "'")]
  | budget + 1, some target => do
    report [Log.debug ("Redirecting from '" ++ (← get).path ++ "' to '" ++ target ++ "'")]
    modify fun r => { r with redirectDepth := r.redirectDepth + 1 }
    Operation.ensuring (do followWithin limit budget (← visit limit target)) fun r =>
      { r with redirectDepth := r.redirectDepth - 1 }

/-- Follows the redirect that a cycle ended with. -/
def follow (limit : Nat) (asked : Option String) : Operation (Router L) Unit := do
  followWithin limit (maxRedirectDepth - (← get).redirectDepth) asked

/-! ## What starts a cycle -/

/-- Evaluates all routes on the present path. -/
def dispatch (limit : Nat) : Operation (Router L) Unit := do
  follow limit (← cycle limit (← get).routes)

/-- Goes to a path. -/
def navigate (limit : Nat) (path : String) : Operation (Router L) Unit := do
  follow limit (← visit limit path)

/-- Announces a change from outside. Matches are announced by the router alone. -/
def emit (limit : Nat) : EventKind → Operation (Router L) Unit
  | .matched => report [Log.trace "Ignoring external emit of a match event"]
  | kind => do follow limit (← raise limit kind)

/-- Takes note of a change that the host reports. -/
def handleChange (limit : Nat) (signal : Signal) : Operation (Router L) Unit := do
  report [Log.trace ("Navigation signal " ++ signal.describe)]
  emit limit signal.kind

end Routing.Router
