/-!
# The most recently used entries

* `Recent.get?`: the value of a key, which becomes the most recent one
* `Recent.put`: a new most recent entry; the least recent one goes if there is no room
-/
namespace Routing

/-- A bounded map that forgets what was not used for longest. The most recent entry comes first. -/
structure Recent (κ α : Type) where
  capacity : Nat
  entries : List (κ × α)
  deriving Repr

namespace Recent

variable {κ α : Type} [DecidableEq κ]

/-- Room for at least one entry. -/
def withCapacity (n : Nat) : Recent κ α :=
  ⟨max n 1, []⟩

/-- The entries without those of a key. -/
def without (m : Recent κ α) (key : κ) : List (κ × α) :=
  m.entries.filter (·.1 != key)

/-- Looks a key up. Using an entry makes it the most recent. -/
def get? (m : Recent κ α) (key : κ) : Option (α × Recent κ α) :=
  (m.entries.find? (·.1 == key)).map fun e => (e.2, { m with entries := e :: m.without key })

def put (m : Recent κ α) (key : κ) (value : α) : Recent κ α :=
  { m with entries := ((key, value) :: m.without key).take m.capacity }

def clear (m : Recent κ α) : Recent κ α :=
  { m with entries := [] }

def size (m : Recent κ α) : Nat :=
  m.entries.length

end Recent

end Routing
