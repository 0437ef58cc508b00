import Routing.Proofs.Location.Written

/-!
# The trail of paths

A router over a history of its own shows its user a trail of paths, with a cursor that moves over them.

* `Trail`: paths behind the cursor, at the cursor and ahead of it
* `Move`: what changes the path that a router shows
* `Router.inRange_travel`: no moves lead the cursor of a history away from its entries
* `Follows`: a router shows a trail
* `Router.follows_move`, `Router.follows_travel`: a router follows the trail, move by move
* `Router.travel_keeps_trail`: after any moves a new router shows the path at the cursor of the trail
-/
namespace Routing

/-- Paths with a cursor; of those behind it the nearest comes first. -/
structure Trail where
  behind : List String
  here : String
  ahead : List String
  deriving DecidableEq, Repr

namespace Trail

def opened (path : String) : Trail :=
  ⟨[], path, []⟩

/-- A path comes behind the cursor's, in place of what lay ahead, and is shown. -/
def goTo (path : String) (t : Trail) : Trail :=
  ⟨t.here :: t.behind, path, []⟩

def back? : Trail → Option Trail
  | ⟨[], _, _⟩ => none
  | ⟨path :: behind, here, ahead⟩ => some ⟨behind, path, here :: ahead⟩

def forward? : Trail → Option Trail
  | ⟨_, _, []⟩ => none
  | ⟨behind, here, path :: ahead⟩ => some ⟨here :: behind, path, ahead⟩

end Trail

inductive Move where
  | setPath (path : String)
  | clearPath
  | back
  | forward
  deriving DecidableEq, Repr

/-- Takes a step if there is one, and tells whether there is; without a step nothing changes. -/
def stepping {α : Type} (a : α) (next : Option α) : α × Option Bool :=
  (next.getD a, some next.isSome)

/-- A move on a trail, and what it answers. `cleared` is the path that is shown when there is none. -/
def Trail.move (cleared : String) (t : Trail) : Move → Trail × Option Bool
  | .setPath path => (t.goTo path, none)
  | .clearPath => (t.goTo cleared, none)
  | .back => stepping t t.back?
  | .forward => stepping t t.forward?

/-- A step of the host through its history; one that only keeps two texts has none. -/
def Location.step? (step : History → Option History) : Location → Option Location
  | .memory h => (step h).map .memory
  | .plain .. => none

/-- A move of a router, and what it answers. -/
def Router.move (r : Router) : Move → Router × Option Bool
  | .setPath path => (r.setPath path, none)
  | .clearPath => (r.clearPath, none)
  | .back => stepping r ((r.location.step? History.back?).map fun l => { r with location := l })
  | .forward => stepping r ((r.location.step? History.forward?).map fun l => { r with location := l })

/-- Moves in order, with their answers. -/
def travel {α : Type} (move : α → Move → α × Option Bool) (a : α) : List Move → α × List (Option Bool)
  | [] => (a, [])
  | m :: rest =>
    let later := travel move (move a m).1 rest
    (later.1, (move a m).2 :: later.2)

/-- The path that is shown when there is none. -/
def RouterOptions.clearedPath (o : RouterOptions) : String :=
  if o.pushState && o.root.isEmpty then "/" else ""

/-- In fragments no path is written that has a mark in it. -/
def Move.Fits (o : RouterOptions) : Move → Prop
  | .setPath path => o.pushState = true ∨ '#' ∉ path.toList
  | _ => True

/-! ## Staying in range -/

namespace Router

/-- The router has a history of its own, with the cursor at an entry. -/
def InRange (r : Router) : Prop :=
  ∃ h, r.location = .memory h ∧ h.InRange

theorem inRange_stepping {r : Router} (inRange : r.InRange) {step : History → Option History}
    (stays : ∀ h k, h.InRange → step h = some k → k.InRange) :
    (stepping r ((r.location.step? step).map fun l => { r with location := l })).1.InRange := by
  obtain ⟨h, memory, within⟩ := inRange
  rw [memory, Location.step?]
  cases after : step h with
  | none => exact ⟨h, memory, within⟩
  | some k => exact ⟨k, rfl, stays h k within after⟩

theorem inRange_move {r : Router} (inRange : r.InRange) (m : Move) : (r.move m).1.InRange := by
  have ⟨h, memory, within⟩ := inRange
  cases m with
  | setPath path =>
    refine ⟨h.push (h.entry.written r.options path), ?_, within.push _⟩
    rw [← Location.setPath_memory, ← memory]
    rfl
  | clearPath =>
    refine ⟨h.push (h.entry.cleared r.options), ?_, within.push _⟩
    rw [← Location.clearPath_memory, ← memory]
    rfl
  | back => exact inRange_stepping inRange fun h k => History.InRange.back?
  | forward => exact inRange_stepping inRange fun h k _ => History.InRange.forward?

/-- Whatever moves are made, the cursor stands at an entry. -/
theorem inRange_travel {r : Router} (inRange : r.InRange) (moves : List Move) :
    (travel move r moves).1.InRange := by
  induction moves generalizing r with
  | nil => exact inRange
  | cons m rest ih => exact ih (inRange_move inRange m)

end Router

/-! ## Following a trail -/

theorem shown_of_fits {o : RouterOptions} {path : String} (fits : (Move.setPath path).Fits o) :
    Shown o path path := by
  cases history : o.pushState with
  | true => exact .pathname history
  | false =>
    have single : '#' ∉ path.toList := fits.resolve_left (by simp [history])
    cases bang : o.hashBang with
    | true =>
      refine .hashBang history bang fun inside => single ?_
      exact inside.subset (by simp)
    | false => exact .fragment history bang single

/-- The root is read as no path, and so is an empty fragment. -/
theorem Host.path_clearPath {L : Type} [Host L] {l : L} (back : ReadsBack l) (o : RouterOptions) :
    Host.path o (clearPath o l) = o.clearedPath := by
  unfold clearPath RouterOptions.clearedPath
  cases history : o.pushState with
  | true =>
    rw [if_pos rfl, path_of_history history, back.pathname]
    by_cases bare : o.root = ""
    · simp [bare, Text.removeFirst, Text.splitFirst]
    · have whole := Text.removeFirst_append o.root.toList []
      rw [List.append_nil] at whole
      simp [bare, whole]
  | false =>
    rw [if_neg (by simp), path_of_fragment history, back.hash]
    cases bang : o.hashBang <;>
      simp [RouterOptions.hashMarker, bang, withoutMark, Text.secondPiece, Text.splitFirst]

theorem path_of_cleared (o : RouterOptions) (e : Entry) : (e.cleared o).path o = o.clearedPath := by
  have single : History.InRange ⟨[e], 0⟩ := Nat.zero_lt_one
  have read := Host.path_clearPath single.readsBack o
  rwa [Location.clearPath_memory, Location.path_memory, History.entry_push single] at read

/-- A history whose entries show the paths of a trail, with the cursor at the same place. -/
structure Follows (o : RouterOptions) (h : History) (t : Trail) : Prop where
  paths : h.entries.map (·.path o) = t.behind.reverse ++ t.here :: t.ahead
  cursor : h.current = t.behind.length

namespace Follows

variable {o : RouterOptions} {h : History} {t : Trail}

/-- The entry at the cursor shows the path at the cursor. -/
theorem path_entry (f : Follows o h t) : h.entry.path o = t.here := by
  have here : (h.entries.map (·.path o))[h.current]? = some t.here := by
    rw [f.paths, f.cursor, List.getElem?_append_right (by simp)]
    simp
  rw [List.getElem?_map, Option.map_eq_some_iff] at here
  obtain ⟨e, found, shown⟩ := here
  rw [History.entry, found, Option.getD_some, shown]

theorem opened (o : RouterOptions) (pathname : String) :
    Follows o (.opened pathname) (.opened (Host.path o (Location.memory (.opened pathname)))) :=
  ⟨rfl, rfl⟩

theorem push (f : Follows o h t) (e : Entry) : Follows o (h.push e) (t.goTo (e.path o)) where
  paths := by
    have kept : (h.entries.take (h.current + 1)).map (·.path o) = t.behind.reverse ++ [t.here] := by
      rw [List.map_take, f.paths, f.cursor]
      have front : t.behind.reverse ++ t.here :: t.ahead = (t.behind.reverse ++ [t.here]) ++ t.ahead := by
        simp
      rw [front, List.take_left' (by simp)]
    simp only [History.push, List.map_append, List.map_singleton, kept, Trail.goTo, List.reverse_cons]
  cursor := by simp [History.push, Trail.goTo, f.cursor]

/-- There is a step back in the history if there is one on the trail, and the trail is still followed. -/
theorem back? (f : Follows o h t) : Option.Rel (Follows o) h.back? t.back? := by
  obtain ⟨behind, here, ahead⟩ := t
  obtain ⟨paths, cursor⟩ := f
  cases behind with
  | nil =>
    have first : ¬ 0 < h.current := by simp [cursor]
    rw [History.back?, if_neg first]
    exact .none
  | cons path behind =>
    have further : 0 < h.current := by simp [cursor]
    rw [History.back?, if_pos further]
    exact .some ⟨by simpa using paths, by simp [cursor]⟩

theorem forward? (f : Follows o h t) : Option.Rel (Follows o) h.forward? t.forward? := by
  obtain ⟨behind, here, ahead⟩ := t
  obtain ⟨paths, cursor⟩ := f
  have length := congrArg List.length paths
  simp only [List.length_map, List.length_append, List.length_reverse, List.length_cons] at length
  dsimp only at cursor
  cases ahead with
  | nil =>
    have last : ¬ h.current + 1 < h.entries.length := by
      rw [List.length_nil] at length
      omega
    rw [History.forward?, if_neg last]
    exact .none
  | cons path ahead =>
    have further : h.current + 1 < h.entries.length := by
      rw [List.length_cons] at length
      omega
    rw [History.forward?, if_pos further]
    exact .some ⟨by simpa using paths, by simp [cursor]⟩

end Follows

namespace Router

/-- The router has a history of its own, which follows the trail. -/
def Follows (o : RouterOptions) (r : Router) (t : Trail) : Prop :=
  r.options = o ∧ ∃ h, r.location = .memory h ∧ Routing.Follows o h t

theorem path_of_follows {o : RouterOptions} {r : Router} {t : Trail} (f : r.Follows o t) :
    r.path = t.here := by
  obtain ⟨rfl, h, memory, f⟩ := f
  rw [Router.path, memory, Location.path_memory, f.path_entry]

/-- A step that the history and the trail have in common, or have not. -/
theorem follows_stepping {o : RouterOptions} {r : Router} {h : History} {t : Trail}
    (f : r.Follows o t) (memory : r.location = .memory h) {step : History → Option History}
    {next : Option Trail} (common : Option.Rel (Routing.Follows o) (step h) next) :
    let moved := stepping r ((r.location.step? step).map fun l => { r with location := l })
    moved.1.Follows o (next.getD t) ∧ moved.2 = some next.isSome := by
  rw [memory, Location.step?]
  revert common
  generalize step h = after
  intro common
  cases common with
  | none => exact ⟨f, rfl⟩
  | some follows => exact ⟨⟨f.1, _, rfl, follows⟩, rfl⟩

/-- A move of the router is the same move on the trail, with the same answer. -/
theorem follows_move {o : RouterOptions} {r : Router} {t : Trail} (f : r.Follows o t) {m : Move}
    (fits : m.Fits o) :
    (r.move m).1.Follows o (t.move o.clearedPath m).1 ∧ (r.move m).2 = (t.move o.clearedPath m).2 := by
  have ⟨options, h, memory, follows⟩ := f
  cases m with
  | setPath path =>
    refine ⟨⟨options, h.push (h.entry.written o path), ?_, ?_⟩, rfl⟩
    · rw [← Location.setPath_memory, ← memory, ← options]
      rfl
    · have written := follows.push (h.entry.written o path)
      rwa [path_of_written (shown_of_fits fits)] at written
  | clearPath =>
    refine ⟨⟨options, h.push (h.entry.cleared o), ?_, ?_⟩, rfl⟩
    · rw [← Location.clearPath_memory, ← memory, ← options]
      rfl
    · have cleared := follows.push (h.entry.cleared o)
      rwa [path_of_cleared] at cleared
  | back => exact follows_stepping f memory follows.back?
  | forward => exact follows_stepping f memory follows.forward?

theorem follows_travel {o : RouterOptions} {r : Router} {t : Trail} (f : r.Follows o t)
    {moves : List Move} (fits : ∀ m ∈ moves, m.Fits o) :
    (travel move r moves).1.Follows o (travel (Trail.move o.clearedPath) t moves).1 ∧
      (travel move r moves).2 = (travel (Trail.move o.clearedPath) t moves).2 := by
  induction moves generalizing r t with
  | nil => exact ⟨f, rfl⟩
  | cons m rest ih =>
    obtain ⟨here, answer⟩ := follows_move f (fits m List.mem_cons_self)
    obtain ⟨later, answers⟩ := ih here fun m hm => fits m (List.mem_cons_of_mem _ hm)
    exact ⟨later, by rw [travel, travel, answer, answers]⟩

/-- Whatever moves were made on a router over a new history, the paths of the history are those of the trail
that starts with the first path and has made the same moves, the router shows the one at the cursor, and
the moves were answered as on the trail. Where one is answered with `false` nothing has changed. -/
theorem travel_keeps_trail (o : RouterOptions) (library : List (String × Handler)) (moves : List Move)
    (fits : ∀ m ∈ moves, m.Fits o) :
    let new := created o (.memory (.opened "/")) library
    let made := travel move new moves
    let trail := travel (Trail.move o.clearedPath) (.opened new.path) moves
    made.1.path = trail.1.here ∧ made.2 = trail.2 ∧
      (∃ h, made.1.location = .memory h ∧
        h.entries.map (·.path o) = trail.1.behind.reverse ++ trail.1.here :: trail.1.ahead) ∧
      ∀ m, (made.1.move m).2 = some false → (made.1.move m).1 = made.1 := by
  intro new made trail
  have start : new.Follows o (.opened new.path) := ⟨rfl, .opened "/", rfl, .opened o "/"⟩
  obtain ⟨follows, answers⟩ := follows_travel start fits
  have ⟨_, h, memory, there⟩ := follows
  refine ⟨path_of_follows follows, answers, ⟨h, memory, there.paths⟩, fun m refused => ?_⟩
  have still {next : Option Router} (h : (stepping made.1 next).2 = some false) :
      (stepping made.1 next).1 = made.1 := by
    cases next with
    | none => rfl
    | some r => cases h
  cases m with
  | setPath | clearPath => cases refused
  | back | forward => exact still refused

/-- What lay ahead is gone once a path is written. -/
theorem travel_keeps_trail_ahead :
    let new := created { hashBang := true } (.memory (.opened "/")) []
    let made := travel move new [.setPath "/a", .setPath "/b", .back, .setPath "/c", .forward, .back]
    made.1.path = "/a" ∧ made.2 = [none, none, some true, none, some false, some true] := by
  have kept := travel_keeps_trail { hashBang := true } []
    [.setPath "/a", .setPath "/b", .back, .setPath "/c", .forward, .back]
    (by simp [Move.Fits])
  exact ⟨kept.1, kept.2.1⟩

end Router

end Routing
