import Routing.Proofs.Session.Accounts
import Routing.Proofs.Session.Conduct

/-!
# Deeds

Handlers are free in what they do, and so is everyone else who holds a chain. Only continuations cannot be made:
who calls one was given it, or finds it in a slot, and has it no more then.

* `Machine.Deed`: what can happen next, whatever handlers are like
* `Machine.queues_deed`: what a deed does to queues
* `Machine.Deals`, `Machine.deals_deed`: how a deed deals with continuations
-/
namespace Routing.Machine

/-- What can happen next. Chains, and all of a session but its slots, may change in any way in which queues and
continuations have no part. -/
inductive Deed where
  /-- The handlers that are under way take their next action. -/
  | step
  /-- The handler on top takes an action of which its list says nothing. -/
  | improvise (a : Action)
  /-- Someone acts on a chain, or without one, before the handlers that are under way go on. -/
  | enter (chain : Option ChainId) (actions : List Action)
  /-- Someone runs a chain. -/
  | start (id : ChainId)
  | create (value : String) (context : RouteContext) (globals : List Handler)
  /-- The continuation in a slot is dropped. -/
  | forget (slot : String)
  | mark (id : ChainId) (change : Chain → Chain)
  | note (change : Session → Session)

/-- The machine after a deed. -/
def deed (m : Machine) : Deed → Machine
  | .step => m.step
  | .improvise a =>
    match m.frames with
    | [] => m
    | f :: below => take m.session f below a
  | .enter chain actions => ⟨m.session, ⟨⟨chain, none⟩, actions, false⟩ :: m.frames, none⟩
  | .start id => m.act (.run id false)
  | .create value context globals => m.act (.create value context globals)
  | .forget slot =>
    { m with session := { m.session with parked := m.session.parked.filter (·.1 != slot) } }
  | .mark id change =>
    { m with session := m.session.modify id fun c =>
      { change c with queue := c.queue, context := c.context } }
  | .note change =>
    { m with session := { change m.session with
      chains := m.session.chains, parked := m.session.parked } }

/-- The machine after deed upon deed. -/
def deeds (m : Machine) : List Deed → Machine
  | [] => m
  | d :: ds => (m.deed d).deeds ds

theorem deeds_append (m : Machine) (ds rest : List Deed) :
    m.deeds (ds ++ rest) = (m.deeds ds).deeds rest := by
  induction ds generalizing m with
  | nil => rfl
  | cons d ds ih => exact ih (m.deed d)

namespace Deed

/-- The action that is taken, with what it speaks about. -/
def action? (m : Machine) : Deed → Option (Scene × Action)
  | step =>
    match m.failure, m.frames with
    | none, ⟨scene, a :: _, _⟩ :: _ => some (scene, a)
    | _, _ => none
  | improvise a => m.frames.head?.map fun f => (f.scene, a)
  | _ => none

/-- What a deed is to the chains. -/
def act? (m : Machine) : Deed → Option ChainAct
  | start id => some (.run id false)
  | create value context globals => some (.create value context globals)
  | d => (d.action? m).bind fun (scene, a) => a.act? m.session scene

/-- The handler that is called. -/
def called? (m : Machine) (d : Deed) : Option (ChainId × Handler) :=
  match d.act? m with
  | some (.run id _) | some (.call id _) => m.session.upNext id
  | _ => none

/-- Someone calls the continuation in a slot. -/
def Resumes (m : Machine) (slot : String) (d : Deed) : Prop :=
  ∃ scene, d.action? m = some (scene, .resume slot)

end Deed

theorem act?_step (m : Machine) : Deed.step.act? m = m.nextAct? := by
  obtain ⟨s, frames, failure⟩ := m
  rcases frames with _ | ⟨⟨scene, _ | ⟨a, rest⟩, guarded⟩, below⟩ <;> cases failure <;> rfl

/-! ## Queues -/

/-- What an act does to queues, whoever acts. -/
theorem Does.queues {s : Session} {a : Option ChainAct} {m : Machine} (h : Does s a m) :
    m.session.queues = (a.bind s.queues.happening?).elim s.queues (·.onQueues s.queues) := by
  cases a with
  | none => exact Session.queues_congr h
  | some a =>
    rw [Session.queues_congr h.1]
    exact (shows_act ⟨s, [], none⟩ a).queues

/-- What a deed does to queues is up to what it is to the chains. -/
theorem queues_deed (m : Machine) (d : Deed) :
    (m.deed d).session.queues =
      ((d.act? m).bind m.session.queues.happening?).elim m.session.queues
        (·.onQueues m.session.queues) := by
  cases d with
  | step =>
    rw [act?_step]
    exact m.step_does.queues
  | improvise a =>
    obtain ⟨s, frames, failure⟩ := m
    cases frames with
    | nil => rfl
    | cons f below => exact (take_does s f below a).queues
  | start id => exact (m.shows_act (.run id false)).queues
  | create value context globals => exact (m.shows_act (.create value context globals)).queues
  | mark id change => exact m.session.queues_mark id _ fun _ => ⟨rfl, rfl⟩
  | enter | forget | note => rfl

/-! ## Continuations -/

/-- One for the chain itself. -/
def own (i id : ChainId) : Nat :=
  if i = id then 1 else 0

/-- How many of the handlers under way have a continuation of the chain. -/
def held (id : ChainId) (frames : List Frame) : Nat :=
  frames.countP (·.scene.next == some id)

theorem held_cons (id : ChainId) (f : Frame) (frames : List Frame) :
    held id (f :: frames) = held id frames + f.scene.next.elim 0 (own · id) := by
  rw [held, List.countP_cons, held]
  congr 1
  cases f.scene.next with
  | none => rfl
  | some i => by_cases here : i = id <;> simp [own, here]

/-- A handler that is called has the only continuation that is given. -/
theorem held_call (s : Session) (i id : ChainId) (guarded : Bool) (below : List Frame) :
    held id (call s i guarded below).frames ≤ held id below + own i id := by
  rw [call_eq]
  split <;> simp [held_cons]

theorem parked_call (s : Session) (i : ChainId) (guarded : Bool) (below : List Frame) :
    (call s i guarded below).session.parked = s.parked := by
  rw [call_eq]
  split <;> rfl

theorem parked_leave (s : Session) (f : Frame) (below : List Frame) (failure : Option RouterError) :
    (leave s f below failure).session.parked = s.parked := by
  unfold leave
  split <;> rfl

theorem parked_unwind (s : Session) (f : Frame) (below : List Frame) (e : RouterError) :
    (unwind s f below e).session.parked = s.parked := by
  obtain ⟨todo, takesOver⟩ | ends := unwind_cases s f below e
  · rw [takesOver]
  · rw [ends, parked_leave]

/-- A handler that ends gives nobody its continuation. -/
theorem held_leave (s : Session) (f : Frame) (below : List Frame) (failure : Option RouterError) (id : ChainId) :
    held id (leave s f below failure).frames ≤ held id (f :: below) := by
  have only : (leave s f below failure).frames = below := by
    unfold leave
    split <;> rfl
  rw [only, held_cons]
  exact Nat.le_add_right ..

/-- A handler that takes over has the continuation that it had. -/
theorem held_unwind (s : Session) (f : Frame) (below : List Frame) (e : RouterError) (id : ChainId) :
    held id (unwind s f below e).frames ≤ held id (f :: below) := by
  obtain ⟨todo, takesOver⟩ | ends := unwind_cases s f below e
  · rw [takesOver]
    exact Nat.le_of_eq ((held_cons ..).trans (held_cons ..).symm)
  · rw [ends]
    exact held_leave ..

/-- How a deed deals with continuations. A handler that is called is given one: for the start of its chain, or for
the one that was called, by the handler on top that had it or out of a slot. -/
inductive Deals (m : Machine) (d : Deed) (m' : Machine) : Prop where
  /-- None is given. Handlers may have ended with theirs. -/
  | ends (held : ∀ id, held id m'.frames ≤ held id m.frames)
    (parked : m'.session.parked = m.session.parked) (quiet : d.called? m = none)
  | starts (i : ChainId) (guarded : Bool) (act : d.act? m = some (.run i guarded))
    (held : ∀ id, held id m'.frames ≤ held id m.frames + own i id)
    (parked : m'.session.parked = m.session.parked)
  | calls (i : ChainId) (guarded : Bool) (act : d.act? m = some (.call i guarded))
    (had : 0 < held i m.frames) (held : ∀ id, held id m'.frames ≤ held id m.frames)
    (parked : m'.session.parked = m.session.parked)
  | resumes (i : ChainId) (slot : String) (act : d.act? m = some (.call i false))
    (resumes : d.Resumes m slot) (had : m.session.parked.lookup slot = some i)
    (held : ∀ id, held id m'.frames ≤ held id m.frames + own i id)
    (parked : m'.session.parked = m.session.parked.filter (·.1 != slot))
  | parks (i : ChainId) (slot : String) (held : ∀ id, held id m'.frames + own i id ≤ held id m.frames)
    (parked : m'.session.parked = (slot, i) :: m.session.parked.filter (·.1 != slot))
    (quiet : d.called? m = none)
  | forgets (slot : String) (held : ∀ id, held id m'.frames ≤ held id m.frames)
    (parked : m'.session.parked = m.session.parked.filter (·.1 != slot))
    (quiet : d.called? m = none)

theorem Deed.called?_eq_none {m : Machine} {d : Deed}
    (other : ∀ i g, d.act? m ≠ some (.run i g) ∧ d.act? m ≠ some (.call i g)) :
    d.called? m = none := by
  unfold called?
  split
  · next i g act => exact absurd act (other i g).1
  · next i g act => exact absurd act (other i g).2
  · rfl

theorem parked_carryOut (s : Session) (id : ChainId) (c : Chain) (scene : Scene) (a : Action) :
    (s.carryOut id c scene a).parked = s.parked := by
  cases a with
  | navigate => simp only [Session.carryOut, Session.navigate]; split <;> rfl
  | enqueue => simp only [Session.carryOut, Session.enqueue]; split <;> rfl
  | enqueueAt => simp only [Session.carryOut, Session.enqueueAt]; split <;> rfl
  | observeChain =>
    simp only [Session.carryOut]
    cases s.chainReport? id <;> rfl
  | _ => rfl

theorem deals_take {m : Machine} {d : Deed} {f g : Frame} {below : List Frame} {a : Action}
    (top : m.frames = g :: below) (same : g.scene = f.scene) (action : d.action? m = some (f.scene, a))
    (act : d.act? m = a.act? m.session f.scene) : Deals m d (take m.session f below a) := by
  have frames (id : ChainId) : held id m.frames = held id (f :: below) := by
    rw [top, held_cons, held_cons, same]
  -- an action that calls nobody, and leaves the continuations where they are
  have quiet {m' : Machine} (fs : ∀ id, held id m'.frames ≤ held id (f :: below))
      (parked : m'.session.parked = m.session.parked)
      (other : ∀ i g, a.act? m.session f.scene ≠ some (.run i g) ∧
        a.act? m.session f.scene ≠ some (.call i g)) : Deals m d m' :=
    .ends (fun id => frames id ▸ fs id) parked (Deed.called?_eq_none (by rwa [act]))
  cases a with
  | next | nextCaught =>
    simp only [Action.act?] at act
    simp only [take]
    cases next : f.scene.next with
    | none => exact quiet (fun id => Nat.le_refl _) rfl (by simp [Action.act?, next])
    | some i =>
      rw [next] at act
      refine .calls i _ act ?_ (fun id => ?_) (parked_call ..)
      · rw [frames, held_cons, next]
        simp [own]
      · refine Nat.le_trans (held_call ..) ?_
        rw [frames, held_cons, held_cons, next]
        exact Nat.le_refl _
  | park slot =>
    simp only [take]
    cases next : f.scene.next with
    | none => exact quiet (fun id => Nat.le_refl _) rfl (by simp [Action.act?])
    | some i =>
      refine .parks i slot (fun id => ?_) rfl (Deed.called?_eq_none (by rw [act]; simp [Action.act?]))
      rw [frames, held_cons, held_cons, next]
      exact Nat.le_refl _
  | resume slot =>
    simp only [Action.act?] at act
    simp only [take, Session.unpark?]
    cases found : m.session.parked.lookup slot with
    | none => exact quiet (fun id => Nat.le_refl _) rfl (by simp [Action.act?, found])
    | some i =>
      rw [found] at act
      refine .resumes i slot act ⟨_, action⟩ found (fun id => ?_) (parked_call ..)
      rw [frames]
      exact held_call ..
  | run =>
    simp only [Action.act?] at act
    simp only [take]
    cases found : m.session.sceneChain? f.scene with
    | none => exact quiet (fun id => Nat.le_refl _) rfl (by simp [Action.act?, found])
    | some c =>
      rw [found] at act
      refine .starts c.1 false act (fun id => ?_) (parked_call ..)
      rw [frames]
      exact held_call ..
  | onPrevious body | onParent body =>
    simp only [take]
    split
    · exact quiet (fun id => Nat.le_refl _) rfl (by simp [Action.act?])
    · split
      · exact quiet (fun id => Nat.le_refl _) rfl (by simp [Action.act?])
      · refine quiet (fun id => ?_) rfl (by simp [Action.act?])
        rw [held_cons]
        exact Nat.le_refl _
  | onKept slot body =>
    simp only [take]
    split
    · exact quiet (fun id => Nat.le_refl _) rfl (by simp [Action.act?])
    · refine quiet (fun id => ?_) rfl (by simp [Action.act?])
      rw [held_cons]
      exact Nat.le_refl _
  | note | fail | failWith | recover | consult | times | observeRequest | perform =>
    exact quiet (fun id => Nat.le_refl _) rfl (by simp [Action.act?])
  | whenParam | whenRoute =>
    simp only [take]
    split <;> exact quiet (fun id => Nat.le_refl _) rfl (by simp [Action.act?])
  | _ =>
    simp only [take]
    split
    · exact quiet (fun id => Nat.le_refl _) rfl (by simp [Action.act?])
    · exact quiet (fun id => Nat.le_refl _) (parked_carryOut ..) (by simp [Action.act?])

theorem deals_deed (m : Machine) (d : Deed) : Deals m d (m.deed d) := by
  cases d with
  | step =>
    obtain ⟨s, frames, failure⟩ := m
    cases frames with
    | nil => exact .ends (fun _ => Nat.le_refl _) rfl (by cases failure <;> rfl)
    | cons f below =>
      obtain ⟨scene, todo, guarded⟩ := f
      cases failure with
      | some e => exact .ends (held_unwind s _ below e) (parked_unwind s _ below e) rfl
      | none =>
        cases todo with
        | nil => exact .ends (held_leave s _ below none) (parked_leave s _ below none) rfl
        | cons a rest => exact deals_take rfl rfl rfl rfl
  | improvise a =>
    obtain ⟨s, frames, failure⟩ := m
    cases frames with
    | nil => exact .ends (fun _ => Nat.le_refl _) rfl rfl
    | cons f below => exact deals_take rfl rfl rfl rfl
  | enter chain actions =>
    refine .ends (fun id => ?_) rfl rfl
    rw [deed, held_cons]
    exact Nat.le_refl _
  | start id => exact .starts id false rfl (fun i => held_call ..) (parked_call ..)
  | forget slot => exact .forgets slot (fun _ => Nat.le_refl _) rfl rfl
  | create | mark | note => exact .ends (fun _ => Nat.le_refl _) rfl rfl

end Routing.Machine
