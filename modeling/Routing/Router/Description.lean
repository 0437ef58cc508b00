import Routing.Router.Basic

/-!
# A router in words

* `Router.describe`: options, routes, listeners and the current chain in one line
-/
namespace Routing

def Environment.describe : Environment → String
  | .client => "Client"
  | .server => "Server"

def RouterOptions.describe (o : RouterOptions) : String :=
  "RouterOptions \x7b env: " ++ o.env.describe ++ ", push_state: " ++ toString o.pushState ++
    ", root: " ++ Quoted.render o.root ++ ", hash_bang: " ++ toString o.hashBang ++
    ", case_sensitive: " ++ toString o.caseSensitive ++ ", strict: " ++ toString o.strict ++ " \x7d"

def Route.describe (r : Route) : String :=
  "RouteBinding \x7b pattern: " ++ Quoted.render r.pattern.source ++ ", middleware: " ++
    toString r.middleware.length ++ ", .. \x7d"

namespace Router

variable {L : Type} [Host L]

/-- The kinds of events that are listened for, with the number of their listeners. -/
def describeListeners (r : Router L) : String :=
  let counted := [EventKind.matched, .navigate, .hashChange].filterMap fun kind =>
    let n := (r.listenersOf kind).length
    if n = 0 then none else some (kind.describe ++ ": " ++ toString n)
  "\x7b" ++ ", ".intercalate counted ++ "\x7d"

def describeCurrent (r : Router L) : String :=
  match r.current.bind r.session.chain? with
  | none => "None"
  | some c => "Some(" ++ c.describe ++ ")"

def describe (r : Router L) : String :=
  "Router \x7b options: " ++ r.options.describe ++ ", routes: [" ++
    ", ".intercalate (r.routes.map Route.describe) ++ "], globals: " ++ toString r.globals.length ++
    ", listeners: " ++ r.describeListeners ++ ", state: " ++ r.describeCurrent ++ ", .. \x7d"

end Router

end Routing
