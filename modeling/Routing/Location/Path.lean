import Routing.Location
import Routing.Options
import Routing.Text.Split

/-!
# The path of a host

A host shows a path in its pathname, behind a root, or in its fragment, behind a marker.

* `Host.path`: reads the path
* `Host.setPath`: writes a path
* `Host.clearPath`: writes that there is no path
-/
namespace Routing.Host

variable {L : Type} [Host L]

/-- The pathname without the root, or the fragment between the first marker and the next. -/
def path (o : RouterOptions) (l : L) : String :=
  if o.pushState then String.ofList (Text.removeFirst o.root.toList (pathname l).toList)
  else String.ofList (Text.secondPiece o.hashMarker (hash l).toList)

/-- Shows a path. A host puts the first mark of a fragment itself. -/
def setPath (o : RouterOptions) (path : String) (l : L) : L :=
  if o.pushState then pushState (o.root ++ path) l
  else if o.hashBang then setHash ("!" ++ path) l
  else setHash path l

/-- Shows the root, or an empty fragment. -/
def clearPath (o : RouterOptions) (l : L) : L :=
  if o.pushState then pushState (if o.root.isEmpty then "/" else o.root) l
  else setHash (if o.hashBang then "!" else "") l

end Routing.Host
