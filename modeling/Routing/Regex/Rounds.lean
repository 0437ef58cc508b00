import Routing.Regex.Node
import Routing.Regex.Places
import Routing.Regex.Thread

/-!
# Rounds that take nothing

A loop that may go round without taking a character has to stop. It does so by the rule that nobody
passes the same joint of the loop twice between two characters; a joint is a point where several ways
through the expression come together. Of two ways that come to one place in the expression and in the
text, the preferred one decides, since what comes later is the same for both.

* `Node.walk`: the ways through a part of a loop
* `Node.roundsTo?`: the preferred way through a loop to one of the given places
-/
namespace Routing.Regex

/-- The way from a loop down to a joint inside it, the last turn first. -/
abbrev Spot := List Nat

/-- A thread on its way through a loop, with the joints that were passed at the present place. -/
structure Walker where
  thread : Thread
  passed : List Spot := []
  deriving DecidableEq, Repr

namespace Walker

def index (w : Walker) : Nat :=
  w.thread.index

/-- Passes a joint, unless it was passed before. -/
def pass (w : Walker) (joint : Spot) : List Walker :=
  if w.passed.contains joint then [] else [{ w with passed := joint :: w.passed }]

/-- The walkers without those at a place where an earlier one is. -/
def firsts (ws : List Walker) : List Walker :=
  Places.firsts index .empty ws

end Walker

/-! ## Copies

The copies of a repeated node have joints of their own, so that a body is given the number of the
copy. -/

/-- Once through each of `n` copies, the first of which has number `i`. -/
def inTurn (body : Nat → Walker → List Walker) : (n i : Nat) → List Walker → List Walker
  | _, _, [] => []
  | 0, _, ws => ws
  | n + 1, i, ws => inTurn body n (i + 1) (Walker.firsts (ws.flatMap (body i)))

/-- The preferred of two lists goes first. -/
def prefer {α : Type} (greedy : Bool) (more done : List α) : List α :=
  if greedy then more ++ done else done ++ more

/-- The ways of a repetition, without those that an earlier one makes needless: there may be one way at
each place that goes on, and one that has stopped. -/
def firstWays (ways : List (Bool × Walker)) : List (Bool × Walker) :=
  Places.firsts (fun (goesOn, w) => 2 * w.index + goesOn.toNat) .empty ways

/-- Through no more than `n` copies, the first of which has number `i`. `ways` holds, the preferred
ones first, walkers that go on, marked so, and walkers that have stopped. -/
def atMost (body : Nat → Walker → List Walker) (greedy : Bool) :
    (n i : Nat) → List (Bool × Walker) → List Walker
  | 0, _, ways => Walker.firsts (ways.map (·.2))
  | n + 1, i, ways =>
    if ways.any (·.1) then
      atMost body greedy n (i + 1)
        (firstWays (ways.flatMap fun (goesOn, w) =>
          if goesOn then prefer greedy ((body i w).map (true, ·)) [(false, w)] else [(false, w)]))
    else Walker.firsts (ways.map (·.2))

/-! ## Rounds -/

/-- What the rounds of a loop have come to: the places where one has started, and the outcomes, the
latest first. -/
structure Rounds where
  started : Places := .empty
  outcomes : List Walker := []

namespace Rounds

def note (r : Rounds) (w : Walker) : Rounds :=
  { r with outcomes := w :: r.outcomes }

/-- No further outcome is needed once the latest is at one of the wanted places. -/
def done (wanted : Places) (r : Rounds) : Bool :=
  r.outcomes.head?.any fun w => wanted.contains w.index

/-- Goes on with the rounds unless they are done. -/
def unlessDone (wanted : Places) (more : Rounds → Rounds) (r : Rounds) : Rounds :=
  if r.done wanted then r else more r

end Rounds

/-- Once or more often through one copy. Each round enters and leaves as it is told. It starts once at
each place, so that there are no more than places left. -/
def rounds (wanted : Places) (enter body leave : Walker → List Walker) (greedy : Bool) :
    (fuel : Nat) → Walker → Rounds → Rounds
  | 0, _, r => r
  | fuel + 1, w, r =>
    if r.started.contains w.index then r
    else
      (((enter w).flatMap body).flatMap leave).foldl
        (fun r u =>
          let again := Rounds.unlessDone wanted (rounds wanted enter body leave greedy fuel u)
          let stop := Rounds.unlessDone wanted (·.note u)
          if greedy then stop (again r) else again (stop r))
        { r with started := r.started.insert w.index }

/-- Once or more often from `w`, up to the first outcome at a wanted place. -/
def onceOrMore (wanted : Places) (enter body leave : Walker → List Walker) (greedy : Bool)
    (w : Walker) : List Walker :=
  Walker.firsts
    (rounds wanted enter body leave greedy (w.thread.rest.length + 1) w {}).outcomes.reverse

/-- Any number of rounds through a body that takes a character each time. All ways come together
where the next round is chosen. -/
def anyNumber (body : Walker → List Walker) (joint : Spot) (greedy : Bool) (w : Walker) :
    List Walker :=
  (w.pass joint).flatMap fun w =>
    Walker.firsts (prefer greedy (onceOrMore .empty ([·]) body (·.pass joint) greedy w) [w])

/-- All ways past an optional part come together behind it. -/
def optional (body : Walker → List Walker) (joint : Spot) (greedy : Bool) (w : Walker) :
    List Walker :=
  (Walker.firsts (prefer greedy (body w) [w])).flatMap (·.pass joint)

/-- A repetition of copies, whose own joints lie at `spot`. -/
def repeats (wanted : Places) (body : Nat → Walker → List Walker) (mayTakeNothing greedy : Bool)
    (spot : Spot) (least : Nat) (most : Option Nat) (w : Walker) : List Walker :=
  let again (i : Nat) := onceOrMore wanted (·.pass (0 :: spot)) (body i) ([·]) greedy
  match least, most with
  | 0, none =>
    if mayTakeNothing then optional (again 0) (1 :: spot) greedy w
    else anyNumber (body 0) (1 :: spot) greedy w
  | n + 1, none => Walker.firsts ((inTurn body n 0 [w]).flatMap (again n))
  | n, some m =>
    let ws := inTurn body n 0 [w]
    if m ≤ n then ws
    else (atMost body greedy (m - n) n (ws.map (true, ·))).flatMap (·.pass (1 :: spot))

namespace Node

/-- The ways through a part of a loop, the preferred one first. `spot` leads to the part. -/
def walk : Node → Spot → Walker → List Walker
  | empty, _, w => [w]
  | set s, _, w => (w.thread.step s).toList.map ({ thread := · })
  | look l, _, w => if w.thread.satisfies l then [w] else []
  | seq a b, spot, w => Walker.firsts ((a.walk (0 :: spot) w).flatMap (b.walk (1 :: spot)))
  | alt a b, spot, w =>
    (Walker.firsts (a.walk (0 :: spot) w ++ b.walk (1 :: spot) w)).flatMap (·.pass spot)
  | group i _ a, spot, w =>
    (a.walk spot w).map fun u => { u with thread := u.thread.bind i w.index }
  | rep least most greedy a, spot, w =>
    repeats .empty (fun i => a.walk ((i + 2) :: spot)) a.mayTakeNothing greedy spot least most w

/-- The preferred way to one of `ends` through `least` or more rounds of a part that may take
nothing. -/
def roundsTo? (a : Node) (ends : Places) (least : Nat) (greedy : Bool) (t : Thread) :
    Option Thread :=
  let ways := repeats ends (fun i => a.walk [i + 2]) a.mayTakeNothing greedy [] least none ⟨t, []⟩
  (ways.find? (ends.contains ·.index)).map (·.thread)

end Node

end Routing.Regex
