import Routing.Proofs.Router.Serving

/-!
# Announcements

A change of the path is announced before any route is evaluated: first all listeners are told, then there is one
cycle.

* `RouterOptions.announced`: the changes that are announced when a router goes to a path
* `notices`: who is told of what, in order
* `start_visit`, `visitTrace_eq`: a visit is announced, and then there is a cycle
* `announced_then_dispatched`: the same of whatever brings a change about
-/
namespace Routing

open Router

variable {L : Type} [Host L]

/-- The changes that are announced when a router goes to a path. -/
def RouterOptions.announced (o : RouterOptions) : List EventKind :=
  match o.trigger with
  | .navigate => [.navigate]
  | .hashChange => [.navigate, .hashChange]

namespace Router

/-- The router after its listeners were told of a change; `none` if one of them does not end. -/
def told? (limit : Nat) (kind : EventKind) (r : Router L) : Option (Router L) :=
  (r.session.tell limit (.changed kind r.path) (r.listenersOf kind)).map fun s =>
    { r with session := s }

/-- The router after its listeners were told of changes, one change after another. -/
def toldAll? (limit : Nat) : List EventKind → Router L → Option (Router L)
  | [], r => some r
  | kind :: rest, r => (r.told? limit kind).bind (toldAll? limit rest)

/-- The occasions at which listeners are told of changes. -/
def tellings (limit : Nat) : List EventKind → Router L → List (Occasion L)
  | [], _ => []
  | kind :: rest, r => .change kind r :: (r.told? limit kind).elim [] (tellings limit rest)

end Router

/-! ## Who is told -/

/-- Who is told of what at an occasion, in order. -/
def Occasion.notices (limit : Nat) : Occasion L → List (Listener × Event)
  | turn t =>
    if t.request.matched then
      t.opened.tellTrace (fun l _ => [(l, t.event)]) limit t.event (t.before.listenersOf .matched)
    else []
  | change kind r =>
    r.session.tellTrace (fun l _ => [(l, .changed kind r.path)]) limit (.changed kind r.path)
      (r.listenersOf kind)
  | act .. => []

def notices (limit : Nat) (os : List (Occasion L)) : List (Listener × Event) :=
  os.flatMap (Occasion.notices limit)

/-- What the listeners of a router are to be told of changes: each of them once of each change. -/
def Router.due (r : Router L) (kinds : List EventKind) : List (Listener × Event) :=
  kinds.flatMap fun kind => (r.listenersOf kind).map (·, .changed kind r.path)

/-- If all listeners end, each of them is told once. -/
theorem Session.tellTrace_of_tell {ε : Type} (f : Listener → ε) {limit : Nat} {e : Event}
    {ls : List Listener} {s t : Session} (told : s.tell limit e ls = some t) :
    s.tellTrace (fun l _ => [f l]) limit e ls = ls.map f := by
  induction ls generalizing s with
  | nil => rfl
  | cons l ls ih =>
    obtain ⟨u, heard, rest⟩ := Option.bind_eq_some_iff.1 told
    obtain ⟨⟨out, v⟩, first, rfl⟩ := Option.map_eq_some_iff.1 heard
    rw [tellTrace, first, List.map_cons, ← ih rest]
    rfl

namespace Router

theorem toldAll?_singleton (limit : Nat) (kind : EventKind) (r : Router L) :
    toldAll? limit [kind] r = r.told? limit kind := by
  rw [toldAll?]
  cases r.told? limit kind <;> rfl

theorem start_tellChange_eq (limit : Nat) (kind : EventKind) (r : Router L) :
    (tellChange limit kind).start r = (r.told? limit kind).map (.ok (), ·) := by
  rw [start_tellChange, told?, Option.map_map]
  rfl

/-- To be told touches nothing but the session. -/
theorem keeps_of_told? {limit : Nat} {kind : EventKind} {r t : Router L} (told : r.told? limit kind = some t) :
    r.Keeps t ∧ t.current = r.current := by
  obtain ⟨s, -, rfl⟩ := Option.map_eq_some_iff.1 told
  exact ⟨r.keeps_of_session s r.current, rfl⟩

theorem keeps_of_toldAll? {limit : Nat} {kinds : List EventKind} {r t : Router L}
    (told : toldAll? limit kinds r = some t) : r.Keeps t ∧ t.current = r.current := by
  induction kinds generalizing r with
  | nil =>
    obtain rfl := Option.some.inj told
    exact ⟨.refl r, rfl⟩
  | cons kind rest ih =>
    obtain ⟨q, first, later⟩ := Option.bind_eq_some_iff.1 told
    obtain ⟨keeps, current⟩ := keeps_of_told? first
    obtain ⟨keeps', current'⟩ := ih later
    exact ⟨keeps.trans keeps', current'.trans current⟩

theorem due_of_keeps {q r : Router L} (keeps : q.Keeps r) (kinds : List EventKind) :
    r.due kinds = q.due kinds := by
  simp only [due, keeps.listenersOf, keeps.path]

theorem notices_tellings {limit : Nat} {kinds : List EventKind} {r t : Router L}
    (told : toldAll? limit kinds r = some t) : notices limit (tellings limit kinds r) = r.due kinds := by
  induction kinds generalizing r with
  | nil => rfl
  | cons kind rest ih =>
    obtain ⟨q, first, later⟩ := Option.bind_eq_some_iff.1 told
    have here : Occasion.notices limit (.change kind r) =
        (r.listenersOf kind).map (·, .changed kind r.path) := by
      obtain ⟨s, heard, -⟩ := Option.map_eq_some_iff.1 first
      exact Session.tellTrace_of_tell _ heard
    have others := (ih later).trans (due_of_keeps (keeps_of_told? first).1 rest)
    rw [tellings, first, notices, List.flatMap_cons, here]
    exact congrArg (_ ++ ·) others

/-! ## Visits -/

theorem start_raise (limit : Nat) (kind : EventKind) (r : Router L) :
    (raise limit kind).start r = (toldAll? limit [kind] r).bind fun t =>
      if kind.starts r.options.trigger then (cycle limit t.routes).start t else some (.ok none, t) := by
  simp only [raise_eq, Operation.start_bind, start_tellChange_eq, Operation.start_get,
    toldAll?_singleton]
  cases told : r.told? limit kind with
  | none => rfl
  | some t =>
    simp only [Option.map_some, Option.bind_some, (keeps_of_told? told).1.options]
    split <;> rfl

theorem raiseTrace_eq (limit : Nat) (kind : EventKind) (r : Router L) :
    raiseTrace limit kind r = tellings limit [kind] r ++ (toldAll? limit [kind] r).elim [] fun t =>
      if kind.starts r.options.trigger then cycleTrace limit t.routes t else [] := by
  simp only [raiseTrace, tellings, Operation.thereafter, start_tellChange_eq, toldAll?_singleton]
  cases told : r.told? limit kind with
  | none => rfl
  | some t => simp [(keeps_of_told? told).1.options]

/-- A visit writes the path, then the listeners are told of it, and then there is one cycle. -/
theorem start_visit (limit : Nat) (path : String) (r : Router L) :
    (visit limit path).start r = (toldAll? limit r.options.announced (r.sent path)).bind fun t =>
      (cycle limit t.routes).start t := by
  have kept : (r.sent path).options = r.options := rfl
  simp only [visit, start_report, Operation.start_bind, Operation.start_get, Operation.start_modify,
    Option.bind_some, ← sent_eq, start_raise, kept, RouterOptions.announced]
  cases trigger : r.options.trigger with
  | navigate =>
    cases told : (r.sent path).told? limit .navigate with
    | none => simp [toldAll?, told]
    | some t =>
      have part := part_cycle limit t.routes t
      have options : t.options = r.options := (keeps_of_told? told).1.options
      simp only [toldAll?, told, EventKind.starts, beq_self_eq_true, if_true, Option.bind_some]
      cases ended : (cycle limit t.routes).start t with
      | none => rfl
      | some o =>
        obtain ⟨e | asked, q⟩ := o
        · rfl
        · simp [(part.keeps ended).options, options, trigger]
  | hashChange =>
    cases told : (r.sent path).told? limit .navigate with
    | none => simp [toldAll?, told]
    | some t =>
      have same : t.options.trigger = .hashChange := by
        rw [(keeps_of_told? told).1.options, kept, trigger]
      simp [toldAll?, told, EventKind.starts, same, start_raise]

theorem visitTrace_eq (limit : Nat) (path : String) (r : Router L) :
    visitTrace limit path r = tellings limit r.options.announced (r.sent path) ++
      (toldAll? limit r.options.announced (r.sent path)).elim [] fun t =>
        cycleTrace limit t.routes t := by
  have kept : (r.sent path).options = r.options := rfl
  simp only [visitTrace, raiseTrace_eq, Operation.thereafter, start_raise, kept,
    RouterOptions.announced]
  cases trigger : r.options.trigger with
  | navigate =>
    cases told : (r.sent path).told? limit .navigate with
    | none => simp [toldAll?, told]
    | some t =>
      have part := part_cycle limit t.routes t
      have options : t.options = r.options := (keeps_of_told? told).1.options
      simp only [toldAll?, told, EventKind.starts, beq_self_eq_true, if_true, Option.bind_some,
        Option.elim_some]
      split
      · next ended =>
        simp [(part.keeps ended).options, options, trigger]
      · simp
  | hashChange =>
    cases told : (r.sent path).told? limit .navigate with
    | none => simp [toldAll?, tellings, told]
    | some t =>
      have same : t.options.trigger = .hashChange := by
        rw [(keeps_of_told? told).1.options, kept, trigger]
      simp [toldAll?, tellings, told, EventKind.starts, same]

end Router

/-! ## Changes, and what comes after them -/

/-- First listeners are told of changes, and only then there is what comes after that; the outcome is that of what
comes after. -/
structure ToldFirst {α : Type} (limit : Nat) (kinds : List EventKind) (q : Router L)
    (outcome : Option (Except RouterError α × Router L)) (os : List (Occasion L))
    (after : Router L → Option (Except RouterError α × Router L)) (afterTrace : Router L → List (Occasion L)) :
    Prop where
  outcome : outcome = (toldAll? limit kinds q).bind after
  trace : os = tellings limit kinds q ++ (toldAll? limit kinds q).elim [] afterTrace
  /-- Every listener is told once of each change, in the order of the subscriptions, with the path that is read
  then. -/
  notices : ∀ t, toldAll? limit kinds q = some t →
    notices limit (tellings limit kinds q) = q.due kinds
  /-- That touches nothing but the session. -/
  told : ∀ t, toldAll? limit kinds q = some t → q.Keeps t ∧ t.current = q.current

namespace ToldFirst

variable {α : Type} {limit : Nat} {kinds : List EventKind} {q : Router L}

theorem of_eq {outcome : Option (Except RouterError α × Router L)} {os : List (Occasion L)}
    {after : Router L → Option (Except RouterError α × Router L)} {afterTrace : Router L → List (Occasion L)}
    (ended : outcome = (toldAll? limit kinds q).bind after)
    (trace : os = tellings limit kinds q ++ (toldAll? limit kinds q).elim [] afterTrace) :
    ToldFirst limit kinds q outcome os after afterTrace :=
  ⟨ended, trace, fun _ => notices_tellings, fun _ => keeps_of_toldAll?⟩

/-- If a command by itself does no more than to tell of changes, with a cycle after that or without one, then what
comes after is a dispatch, or nothing. -/
theorem command {c : Command L} {r : Router L} (cycles : Bool)
    (h : ToldFirst limit kinds q ((c.own limit).start r) (c.ownTrace limit r)
      (fun t => if cycles then (cycle limit t.routes).start t else some (.ok none, t))
      (fun t => if cycles then cycleTrace limit t.routes t else [])) :
    ToldFirst limit kinds q ((c.perform limit).start r) (c.trace limit r)
      (fun t => if cycles then (dispatch limit).start t else some (.ok (), t))
      (fun t => if cycles then Command.dispatch.trace limit t else []) := by
  refine of_eq ?_ ?_
  · rw [Command.start_perform, Operation.start_bind, h.outcome]
    cases toldAll? limit kinds q with
    | none => rfl
    | some t =>
      cases cycles with
      | false => exact Command.start_follow_none limit t
      | true =>
        simp only [Option.bind_some, if_true, dispatch, Operation.start_bind, Operation.start_get]
  · rw [Command.trace, h.trace, Command.legs, Operation.thereafter, h.outcome]
    cases toldAll? limit kinds q with
    | none => simp
    | some t =>
      cases cycles with
      | false => simp [legs_none]
      | true =>
        simp only [Option.bind_some, if_true, Option.elim_some, List.append_assoc]
        rfl

end ToldFirst

theorem told_first_visit (limit : Nat) (path : String) (r : Router L) :
    ToldFirst limit r.options.announced (r.sent path) ((visit limit path).start r)
      (visitTrace limit path r) (fun t => (cycle limit t.routes).start t)
      (fun t => cycleTrace limit t.routes t) :=
  .of_eq (start_visit limit path r) (visitTrace_eq limit path r)

theorem told_first_raise (limit : Nat) (kind : EventKind) (r : Router L) :
    ToldFirst limit [kind] r ((raise limit kind).start r) (raiseTrace limit kind r)
      (fun t => if kind.starts r.options.trigger then (cycle limit t.routes).start t
        else some (.ok none, t))
      (fun t => if kind.starts r.options.trigger then cycleTrace limit t.routes t else []) :=
  .of_eq (start_raise limit kind r) (raiseTrace_eq limit kind r)

/-- Whatever the options: to go to a path is to write it, to tell the listeners of it, and then to dispatch once,
with the outcome of that. Before any redirect nothing else is written. A change from outside is told to the
listeners of its kind, and then there is a dispatch exactly if its kind is the trigger; a match that is announced
from outside is told to nobody. The visit of a redirect is told like any other, and has one cycle too. -/
theorem announced_then_dispatched (limit : Nat) (r : Router L) :
    (∀ path, ToldFirst limit r.options.announced (r.sent path)
        (((Command.navigate path).perform limit).start r) ((Command.navigate path).trace limit r)
        (dispatch limit).start (Command.dispatch.trace limit) ∧
      (r.setPath path).Keeps (r.sent path) ∧
      ∀ o ∈ (Command.navigate path).ownTrace limit r, (r.setPath path).Keeps o.before) ∧
    (∀ kind, kind ≠ .matched → ToldFirst limit [kind] r
      (((Command.emit kind).perform limit).start r) ((Command.emit kind).trace limit r)
      (fun t => if kind.starts r.options.trigger then (dispatch limit).start t else some (.ok (), t))
      (fun t => if kind.starts r.options.trigger then Command.dispatch.trace limit t else [])) ∧
    (∀ signal, ToldFirst limit [signal.kind] (r.signalled signal)
      (((Command.handleChange signal).perform limit).start r)
      ((Command.handleChange signal).trace limit r)
      (fun t => if signal.kind.starts r.options.trigger then (dispatch limit).start t
        else some (.ok (), t))
      (fun t => if signal.kind.starts r.options.trigger then Command.dispatch.trace limit t else [])) ∧
    ((∃ record, ((Command.emit .matched).perform limit).start r =
        some (.ok (), { r with session := r.session.report [record] })) ∧
      (Command.emit .matched).trace limit r = []) ∧
    ∀ c : Command L, ∀ l ∈ c.legs limit r,
      ToldFirst limit l.before.options.announced (l.before.sent l.target)
        ((visit limit l.target).start l.before) (l.trace limit)
        (fun t => (cycle limit t.routes).start t) (fun t => cycleTrace limit t.routes t) := by
  refine ⟨fun path => ⟨?_, ?_, ?_⟩, fun kind external => ?_, fun signal => ?_, ?_,
    fun c l _ => told_first_visit limit l.target l.before⟩
  · exact (told_first_visit limit path r).command (c := .navigate path) true
  · exact (r.setPath path).keeps_of_session _ _
  · exact (part_visit limit path r).inside
  · cases kind with
    | matched => exact absurd rfl external
    | navigate => exact (told_first_raise limit .navigate r).command (c := .emit .navigate) _
    | hashChange => exact (told_first_raise limit .hashChange r).command (c := .emit .hashChange) _
  · have raised := told_first_raise limit signal.kind (r.signalled signal)
    rw [← Command.start_own_handleChange] at raised
    exact raised.command (c := .handleChange signal) _
  · have silent : ∃ record, ((Command.emit .matched).own limit).start r =
        some (.ok none, { r with session := r.session.report [record] }) := ⟨_, rfl⟩
    obtain ⟨record, silent⟩ := silent
    obtain ⟨ended, trace⟩ := Command.perform_of_quiet silent
    exact ⟨⟨_, ended⟩, trace⟩

end Routing
