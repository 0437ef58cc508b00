import Routing.Proofs.Router.Parts
import Routing.Proofs.Router.Veto
import Routing.Proofs.Session.Plain

/-!
# How a route is served

A route that matches is served if its listeners and its handlers only pass or halt: the listeners are told in
order, then the handlers are called in order.

* `Performance`, `Turn.performances`: what is performed in an evaluation
* `Turn.Served`: listeners and handlers go on, one after another
* `Turn.Served.ends`: what an evaluation does then, unless there is a veto
-/
namespace Routing

open Router

variable {L : Type} [Host L]

/-- What others take part in: a listener is told of an event, or a handler of a chain is called. -/
inductive Performance where
  | told (l : Listener) (e : Event)
  | called (id : ChainId) (h : Handler)

def Performance.ofCall : ChainId × Handler → Performance
  | (id, h) => .called id h

/-- What is performed while listeners are told of an event. -/
def Session.tellPerformances (limit : Nat) (e : Event) : List Listener → Session → List Performance :=
  tellTrace (fun l m => .told l e :: (m.calls limit).map .ofCall) limit e

namespace Turn

/-- What is performed in an evaluation: listeners are told, and the router runs the chain. -/
def performances (limit : Nat) (t : Turn L) : List Performance :=
  if t.request.matched then
    t.opened.tellPerformances limit t.event (t.before.listenersOf .matched) ++
      (t.entrance? limit).elim [] fun e =>
        if e.ran then (e.moment.session.runCalls limit t.id).map .ofCall else []
  else []

end Turn

/-- What is performed in the turns of routes. -/
def performances (limit : Nat) (os : List (Occasion L)) : List Performance :=
  (turns os).flatMap (Turn.performances limit)

/-! ## Listeners -/

/-- Listeners are told of an event, and each goes on to its end; the queue of one chain is as before. -/
inductive Tells (id : ChainId) (e : Event) : List Listener → Session → Session → Prop where
  | nil {s : Session} : Tells id e [] s s
  | cons {l : Listener} {ls : List Listener} {s t u : Session} :
    Machine.Goes id (l.hearing e s) ⟨t, [], none⟩ → Tells id e ls t u → Tells id e (l :: ls) s u

namespace Tells

variable {id : ChainId} {e : Event} {ls : List Listener} {s t : Session}

theorem steady (h : Tells id e ls s t) : s.Steady id t := by
  induction h with
  | nil => exact .refl id _
  | @cons l ls s t u first rest ih =>
    have told : s.Steady id (s.observe e.observation) := (Session.Steady.refl id s).of_chains rfl
    exact (told.trans first.steady).trans ih

theorem ends (h : Tells id e ls s t) :
    ∃ n, ∀ limit, n ≤ limit →
      s.tell limit e ls = some t ∧ s.tellPerformances limit e ls = ls.map (.told · e) := by
  induction h with
  | nil => exact ⟨0, fun _ _ => ⟨rfl, rfl⟩⟩
  | @cons l ls s t u first rest ih =>
    obtain ⟨n, alone⟩ := first.leads.ends
    obtain ⟨k, others⟩ := ih
    refine ⟨max n k, fun limit enough => ?_⟩
    obtain ⟨ran, quiet⟩ := alone limit (Nat.le_trans (Nat.le_max_left n k) enough)
    obtain ⟨told, performed⟩ := others limit (Nat.le_trans (Nat.le_max_right n k) enough)
    have heard : (l.hear limit e).start s = some (.ok (), t) := by
      rw [Listener.start_hear]
      change (((l.hearing e s).run limit).map Machine.result).map _ = _
      rw [ran]
      rfl
    constructor
    · simp only [Session.tell, List.foldlM_cons, heard]
      exact told
    · simp only [Session.tellPerformances, Session.tellTrace, quiet, heard]
      exact congrArg (_ :: ·) performed

end Tells

theorem exists_tells (id : ChainId) (e : Event) {ls : List Listener}
    (plain : ∀ l ∈ ls, ∀ a ∈ l.actions, a.plain = true) (s : Session) :
    ∃ t, Tells id e ls s t ∧ t.chains = s.chains := by
  induction ls generalizing s with
  | nil => exact ⟨s, .nil, rfl⟩
  | cons l ls ih =>
    obtain ⟨t, alone, same⟩ := Machine.goes_of_plain id (s.observe e.observation) false
      (rfl : Scene.next ⟨e.chain?, none⟩ = none) (plain l (List.mem_cons_self ..))
    obtain ⟨u, others, same'⟩ := ih (fun k hk => plain k (List.mem_cons_of_mem _ hk)) t
    exact ⟨u, .cons alone others, same'.trans same⟩

/-! ## Turns -/

theorem Router.Keeps.path {r r' : Router L} (h : r.Keeps r') : r'.path = r.path := by
  rw [Router.path, Router.path, h.location, h.options]

theorem Router.Keeps.listenersOf {r r' : Router L} (h : r.Keeps r') (kind : EventKind) :
    r'.listenersOf kind = r.listenersOf kind := by
  rw [Router.listenersOf, Router.listenersOf, h.listeners]

@[simp] theorem CompiledPattern.path_parse (p : CompiledPattern) (path : String) :
    (p.parse path).path = path := by
  unfold parse
  split <;> rfl

/-- A chain that asks for nothing stays as it is when it is asked. -/
theorem Session.takeRedirect_of_none {s : Session} {id : ChainId} {c : Chain}
    (hc : s.chain? id = some c) (nothing : c.redirect = none) : s.takeRedirect id = (none, s) := by
  have same : s.modify id (fun c => { c with redirect := none }) = s.modify id fun c => c :=
    modify_congr hc (by rw [← nothing])
  have untouched : s.modify id (fun c => c) = s := by
    rw [modify, show s.chains.modify id (fun c => c) = s.chains from List.modify_id ..]
  rw [takeRedirect, same, untouched, hc]
  exact congrArg (·, s) nothing

namespace Turn

theorem faces_opened (t : Turn L) : t.opened.faces = t.before.session.faces ++ [t.made.face] := by
  have made : ((t.reported.session.report [t.matchLog]).create t.made).2.faces =
      t.before.session.faces ++ [t.made.face] := List.map_append
  rw [← made, opened, Session.enqueue]
  split
  · rfl
  · exact Session.faces_modify _ t.id _ fun _ => rfl

/-- The listeners of a route that matched go on and let its chain be, and its handlers are served. -/
def Served (t : Turn L) (called : List Handler) (s : Session) : Prop :=
  ∃ heard, Tells t.id t.event (t.before.listenersOf .matched) t.opened heard ∧
    (heard.chain? t.id).any (·.runsDefault) = true ∧
    Serves t.id ((heard.link t.id t.before.current).modify t.id Chain.start) false
      (t.before.globals ++ t.route.handlers) called s

/-- The router after a route was served. -/
def served (t : Turn L) (s : Session) : Router L :=
  { t.before with session := s, current := some t.id }

namespace Served

variable {t : Turn L} {called : List Handler} {s : Session}

/-- The chain of the route is there as it was made. -/
theorem faces (h : t.Served called s) : s.faces = t.before.session.faces ++ [t.made.face] := by
  obtain ⟨heard, tells, -, serves⟩ := h
  rw [serves.faces, Session.faces_modify _ t.id Chain.start fun _ => rfl,
    (heard.steady_link t.id t.id _).faces, tells.steady.faces, t.faces_opened]

/-- A chain that was served has no veto. -/
theorem not_silent (h : t.Served called s) (path : String) : ¬ (t.served s).Silent path := by
  rintro ⟨id, c, here, hc, -, silent⟩
  obtain rfl := Option.some.inj here
  obtain ⟨d, hd, -⟩ | ⟨-, same⟩ := Session.chain?_of_faces h.faces hc
  · exact absurd (Session.lt_of_chain? hd) (Nat.lt_irrefl _)
  · have propagates : c.propagates = true := congrArg Face.propagates same
    rw [silent] at propagates
    cases propagates

/-- The current chain has no veto on a chain that is entered, unless it is silent on the present path. -/
theorem ran_of_clear {limit : Nat} {e : Entrance L} (entered : t.entrance? limit = some e)
    (faces : e.moment.session.faces = t.before.session.faces ++ [t.made.face])
    (clear : t.before.path ≠ "" → ¬ t.before.Silent t.before.path) : e.ran = true := by
  rw [← Bool.not_eq_false]
  intro veto
  obtain ⟨b, current, p, c, hp, hc, nonempty, same, silent⟩ := (entrance_vetoed_iff entered).1 veto
  rw [(entrance_facts entered).1] at hc
  obtain ⟨d, hd, -⟩ | ⟨-, made⟩ := Session.chain?_of_faces faces hc
  · exact absurd (Session.lt_of_chain? hd) (Nat.lt_irrefl _)
  have path : p.value = t.before.path := by
    rw [same, show c.value = t.request.path from congrArg Face.value made, request,
      CompiledPattern.path_parse]
  obtain ⟨d, hd, older⟩ | ⟨-, new⟩ := Session.chain?_of_faces faces hp
  · refine clear (path ▸ nonempty) ⟨b, d, current, hd, ?_, ?_⟩
    · rw [← path]
      exact (congrArg Face.value older).symm
    · rw [← silent]
      exact (congrArg Face.propagates older).symm
  · have propagates : p.propagates = true := congrArg Face.propagates new
    rw [silent] at propagates
    cases propagates

/-- The listeners are told and the handlers are called, each once and in order, and nothing is asked for. -/
theorem ends (h : t.Served called s) (hit : t.request.matched = true)
    (clear : t.before.path ≠ "" → ¬ t.before.Silent t.before.path) :
    ∃ n, ∀ limit, n ≤ limit →
      (evaluate limit t.route).start t.before = some (.ok none, t.served s) ∧
        t.performances limit =
          (t.before.listenersOf .matched).map (.told · t.event) ++ called.map (.called t.id) := by
  have all := h.faces
  obtain ⟨heard, tells, admitted, serves⟩ := h
  have linked := tells.steady.trans (heard.steady_link t.id t.id t.before.current)
  have queue : ((heard.link t.id t.before.current).chain? t.id).map (·.queue) =
      some (t.before.globals ++ t.route.handlers) := by
    rw [linked.queue, t.chain?_opened]
    rfl
  obtain ⟨n, told⟩ := tells.ends
  obtain ⟨k, ran⟩ := serves.ends queue
  refine ⟨max n k, fun limit enough => ?_⟩
  obtain ⟨heard_eq, first⟩ := told limit (Nat.le_trans (Nat.le_max_left n k) enough)
  obtain ⟨ended, second⟩ := ran limit (Nat.le_trans (Nat.le_max_right n k) enough)
  have entered : t.entrance? limit = some (t.entrance { t.before with session := heard }) := by
    have let_be : Router.admitted { t.before with session := heard } t.id = true := admitted
    simp only [entrance?, fate?, hit, heard?, heard_eq, Option.map_some, let_be, if_true]
  have runs := ran_of_clear entered (linked.faces.trans t.faces_opened) clear
  obtain ⟨c, hc, asks⟩ := Session.exists_chain_of_faces all
  constructor
  · rw [start_evaluate_of_entrance? entered, if_pos runs, Turn.runs]
    change ((Session.run limit t.id).start (heard.link t.id t.before.current)).map _ = _
    rw [ended]
    have taken := Session.takeRedirect_of_none hc (congrArg Face.redirect asks)
    exact congrArg (fun o => some (Except.ok o.1, t.served o.2)) taken
  · rw [performances, if_pos hit, entered, first, Option.elim_some, if_pos runs]
    change _ ++ ((heard.link t.id t.before.current).runCalls limit t.id).map _ = _
    rw [second, List.map_map]
    rfl

end Served

/-- Where listeners and handlers only observe and pass, a route is served. -/
theorem exists_served {t : Turn L}
    (listeners : ∀ l ∈ t.before.listenersOf .matched, ∀ a ∈ l.actions, a.plain = true)
    (handlers : ∀ h ∈ t.before.globals ++ t.route.handlers, ∀ a ∈ h, a.plain = true) :
    ∃ called s, t.Served called s := by
  obtain ⟨heard, tells, same⟩ := exists_tells t.id t.event listeners t.opened
  have let_be : (heard.chain? t.id).any (·.runsDefault) = true := by
    rw [Session.chain?, same, ← Session.chain?, t.chain?_opened]
    rfl
  obtain ⟨called, s, serves⟩ := exists_serves handlers
    ((heard.link t.id t.before.current).modify t.id Chain.start) false
  exact ⟨called, s, heard, tells, let_be, serves⟩

end Turn

theorem exists_served_of_plain {r : Router L} {routes : List Route}
    (listeners : ∀ l ∈ r.listenersOf .matched, ∀ a ∈ l.actions, a.plain = true)
    (globals : ∀ h ∈ r.globals, ∀ a ∈ h, a.plain = true)
    (handlers : ∀ route ∈ routes, ∀ h ∈ route.handlers, ∀ a ∈ h, a.plain = true) {limit : Nat} :
    ∀ t ∈ turns (cycleTrace limit routes r), ∃ called s, t.Served called s := by
  intro t ht
  have part := part_cycle limit routes r
  have keeps : r.Keeps t.before := part.inside (.turn t) (mem_turns.1 ht)
  have known : t.route ∈ routes := part.routes.subset (List.mem_map_of_mem ht)
  refine Turn.exists_served (fun l hl => ?_) fun h hh => ?_
  · rw [keeps.listenersOf] at hl
    exact listeners l hl
  · rw [keeps.globals] at hh
    exact (List.mem_append.1 hh).elim (globals h) (handlers t.route known h)

end Routing
