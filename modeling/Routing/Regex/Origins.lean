import Routing.Regex.Concordance
import Routing.Regex.Node

/-!
# Where matches may begin

Which places a node leads to does not depend on preferences, so that whole sets of places can be
followed at once, from the ends back to the beginnings.

* `Node.origins`: the places from which a node leads to one of the given places
-/
namespace Routing.Regex.Node

/-- The places from which at most `limit` rounds lead to one of `ends`, where `round` gives the places
from which one round leads to a set. -/
def originsWithin (round : Places → Places) (ends : Places) (limit : Nat) : Places :=
  Places.iterate (fun s => ends.union (round s)) limit ends

/-- So many further rounds may follow the required ones as can lead to a new place. -/
def furtherRounds (x : Concordance) (least : Nat) (most : Option Nat) : Nat :=
  match most with
  | some m => m - least
  | none => x.size + 1

/-- The places from which the node leads to one of `ends`. -/
def origins (x : Concordance) : Node → (ends : Places) → Places
  | empty, ends => ends
  | set s, ends => ends.pred.inter (x.placesOf s)
  | look l, ends => ends.inter (x.placesWhere l)
  | seq a b, ends => a.origins x (b.origins x ends)
  | alt a b, ends => (a.origins x ends).union (b.origins x ends)
  | group _ _ a, ends => a.origins x ends
  | rep least most _ a, ends =>
    Places.iterate (a.origins x) least
      (originsWithin (a.origins x) ends (furtherRounds x least most))

end Routing.Regex.Node
