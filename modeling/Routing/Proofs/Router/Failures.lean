import Routing.Proofs.Router.Lineage
import Routing.Proofs.Router.Redirects
import Routing.Proofs.Router.Serving
import Routing.Proofs.Session.Reports

/-!
# Routes that fail

A route fails if the run that the router makes of its chain fails. What a handler catches is no failure of the
route.

* `Turn.fails?`: the failure of a route
* `Turn.start_evaluate_of_fails?`: an evaluation fails if the route does
* `Aborts`: what there is to say of failures in any series of occasions
* `aborts_perform`: at a command, nothing comes after a failing route
-/
namespace Routing

open Router

variable {L : Type} [Host L]

theorem Listener.reports_hear {limit : Nat} {e : Event} {l : Listener} {s t : Session}
    {out : Except RouterError Unit} (h : (l.hear limit e).start s = some (out, t)) : s.Reports t [] := by
  rw [start_hear] at h
  obtain ⟨⟨result, u⟩, acted, same⟩ := Option.map_eq_some_iff.1 h
  have quiet : s.Reports u [] :=
    Session.Reports.after (t := s.observe e.observation) (.of_log rfl) (Session.reports_act acted)
  cases result with
  | ok _ =>
    obtain ⟨-, rfl⟩ := Prod.mk.inj same
    exact quiet
  | error failure =>
    obtain ⟨-, rfl⟩ := Prod.mk.inj same
    exact quiet.after (.of_log rfl)

/-- The failures of listeners are not reported. -/
theorem Session.reports_tell {limit : Nat} {e : Event} {ls : List Listener} {s t : Session}
    (h : s.tell limit e ls = some t) : s.Reports t [] := by
  induction ls generalizing s with
  | nil =>
    obtain rfl := Option.some.inj h
    exact .refl s
  | cons l ls ih =>
    obtain ⟨u, heard, rest⟩ := Option.bind_eq_some_iff.1 h
    obtain ⟨⟨out, v⟩, first, rfl⟩ := Option.map_eq_some_iff.1 heard
    exact (Listener.reports_hear first).after (ih rest)

namespace Turn

/-- The run that the router makes of the chain; `none` if it makes none, or none that ends. -/
def run? (limit : Nat) (t : Turn L) : Option (Except RouterError Unit × Session) :=
  (t.entrance? limit).bind fun e =>
    if e.ran then (Session.run limit t.id).start e.moment.session else none

/-- The failure of a route: what the run of its chain ended with. -/
def fails? (limit : Nat) (t : Turn L) : Option RouterError :=
  match t.run? limit with
  | some (.error e, _) => some e
  | _ => none

variable {limit : Nat} {t : Turn L} {e : RouterError}

theorem fails?_eq_some_iff : t.fails? limit = some e ↔ ∃ entrance s, t.entrance? limit = some entrance ∧
    entrance.ran = true ∧ (Session.run limit t.id).start entrance.moment.session = some (.error e, s) := by
  unfold fails? run?
  cases t.entrance? limit with
  | none => simp
  | some entrance =>
    cases ran : entrance.ran with
    | false => simp [ran]
    | true =>
      simp only [Option.bind_some, ran, if_true]
      split
      · next e' s here => simp [here, ran]
      · next other =>
        refine iff_of_false nofun ?_
        rintro ⟨_, s, same, -, here⟩
        obtain rfl := Option.some.inj same
        exact other e s here

theorem start_evaluate_of_fails? (h : t.fails? limit = some e) : ∃ entrance s,
    t.entrance? limit = some entrance ∧
      (Session.run limit t.id).start entrance.moment.session = some (.error e, s) ∧
      (evaluate limit t.route).start t.before =
        some (.error e, { entrance.moment with session := s.report [t.failureLog e] }) := by
  obtain ⟨entrance, s, entered, ran, failed⟩ := fails?_eq_some_iff.1 h
  refine ⟨entrance, s, entered, failed, ?_⟩
  rw [start_evaluate_of_entrance? entered, if_pos ran, runs, failed]
  rfl

theorem fails?_of_evaluate {r' : Router L}
    (ended : (evaluate limit t.route).start t.before = some (.error e, r')) : t.fails? limit = some e := by
  cases entered : t.entrance? limit with
  | none => cases (end_of_no_entrance entered ended).1
  | some entrance =>
    rw [start_evaluate_of_entrance? entered] at ended
    split at ended
    · next ran =>
      obtain ⟨⟨result, s⟩, failed, same⟩ := Option.map_eq_some_iff.1 ended
      cases result with
      | ok _ => cases (Prod.mk.inj same).1
      | error e' =>
        obtain rfl := Except.error.inj (Prod.mk.inj same).1
        exact fails?_eq_some_iff.2 ⟨entrance, s, entered, ran, failed⟩
    · cases (Prod.mk.inj (Option.some.inj ended)).1

theorem quiet_parseLog (p : CompiledPattern) (request : Request) :
    ∀ record ∈ p.parseLog request, record.level ≠ .error := by
  intro record known
  unfold CompiledPattern.parseLog at known
  obtain ⟨_, -, here⟩ := List.mem_filterMap.1 known
  grind [Log.warn]

theorem reports_opened (t : Turn L) : t.before.session.Reports t.opened [] := by
  have parsed : t.before.session.Reports t.reported.session [] :=
    Session.reports_of_quiet _ rfl (quiet_parseLog _ _)
  have matched : t.reported.session.Reports (t.reported.session.report [t.matchLog]) [] :=
    Session.reports_of_quiet _ rfl (by simp [matchLog, Log.debug])
  exact ((parsed.after matched).after (.of_log rfl)).after (Session.reports_enqueue ..)

theorem reports_heard {heard : Router L} (told : t.heard? limit = some heard) :
    t.before.session.Reports heard.session [] := by
  obtain ⟨s, tell, rfl⟩ := Option.map_eq_some_iff.1 told
  exact t.reports_opened.after (Session.reports_tell tell)

/-- An evaluation reports the failure of its route, and no other. -/
theorem reports_evaluate {out : Except RouterError (Option String)} {r' : Router L}
    (ended : (evaluate limit t.route).start t.before = some (out, r')) :
    t.before.session.Reports r'.session ((t.fails? limit).map t.failureLog).toList := by
  cases fails : t.fails? limit with
  | some e =>
    obtain ⟨entrance, s, entered, failed, same⟩ := start_evaluate_of_fails? fails
    obtain ⟨-, rfl⟩ := Prod.mk.inj (Option.some.inj (ended.symm.trans same))
    obtain ⟨heard, told, -, rfl⟩ := exists_of_entrance? entered
    have ran := ((reports_heard told).after (Session.reports_link ..)).after (Session.reports_run failed)
    exact ran.after (s.reports_report [t.failureLog e])
  | none =>
    have quiet (record : Log.Record) (level : record.level ≠ .error) (s : Session) :
        s.Reports (s.report [record]) [] :=
      Session.reports_of_quiet _ rfl (by simpa using level)
    rw [start_evaluate] at ended
    obtain ⟨fate, known, ended⟩ := Option.bind_eq_some_iff.1 ended
    obtain ⟨rfl, -⟩ | ⟨-, heard, told, ⟨rfl, -⟩ | ⟨rfl, -⟩⟩ := fate?_cases known
    · obtain ⟨-, rfl⟩ := Prod.mk.inj (Option.some.inj ended)
      exact Session.reports_of_quiet _ rfl (quiet_parseLog _ _)
    · obtain ⟨-, rfl⟩ := Prod.mk.inj (Option.some.inj ended)
      exact (reports_heard told).after (quiet _ (by simp [cancelLog, Log.debug]) _)
    · have moment := (reports_heard told).after (Session.reports_link _ t.id heard.current)
      simp only [ending] at ended
      split at ended
      · next ran =>
        obtain ⟨⟨result, s⟩, run, same⟩ := Option.map_eq_some_iff.1 ended
        cases result with
        | ok _ =>
          obtain ⟨-, rfl⟩ := Prod.mk.inj same
          exact (moment.after (Session.reports_run run)).after (.of_log rfl)
        | error e =>
          have entered : t.entrance? limit = some (t.entrance heard) := by rw [entrance?, known]
          have failed := fails?_eq_some_iff.2 ⟨t.entrance heard, s, entered, ran, run⟩
          rw [fails] at failed
          cases failed
      · obtain ⟨-, rfl⟩ := Prod.mk.inj (Option.some.inj ended)
        exact (moment.after (.of_log rfl)).after (quiet _ (by simp [vetoLog, Log.debug]) _)

end Turn

/-! ## Failures in a series of occasions -/

/-- The reports that failing routes call for. -/
def failureLogs (limit : Nat) (os : List (Occasion L)) : List Log.Record :=
  (turns os).filterMap fun t => (t.fails? limit).map t.failureLog

theorem failureLogs_append (limit : Nat) (os ps : List (Occasion L)) :
    failureLogs limit (os ++ ps) = failureLogs limit os ++ failureLogs limit ps := by
  rw [failureLogs, turns_append, List.filterMap_append]
  rfl

/-- The occasions end with a failing route, and the outcome is its failure. The router is left as the evaluation
left it, but for the redirects that are given up. Other failures than those of routes are faults. -/
structure Aborts {α : Type} (limit : Nat) (faults : RouterError → Prop) (r : Router L) (os : List (Occasion L))
    (outcome : Option (Except RouterError α × Router L)) : Prop where
  stops : ∀ {front t back e}, os = front ++ .turn t :: back → t.fails? limit = some e →
    back = [] ∧ ∃ q depth, (evaluate limit t.route).start t.before = some (.error e, q) ∧
      outcome = some (.error e, { q with redirectDepth := depth })
  reports : ∀ {out r'}, outcome = some (out, r') →
    r.session.Reports r'.session (failureLogs limit os)
  origin : ∀ {e r'}, outcome = some (.error e, r') →
    (∃ t ∈ turns os, t.fails? limit = some e) ∨ faults e

namespace Aborts

variable {α β : Type} {limit : Nat} {faults : RouterError → Prop} {r : Router L} {os : List (Occasion L)}
  {outcome : Option (Except RouterError α × Router L)}

/-- No route has its turn. -/
theorem of_no_turn (no_turn : turns os = [])
    (reports : ∀ {out r'}, outcome = some (out, r') → r.session.Reports r'.session [])
    (origin : ∀ {e r'}, outcome = some (.error e, r') → faults e) : Aborts limit faults r os outcome where
  stops := by
    intro front t back e split
    have mine : t ∈ turns os := mem_turns.2 (split ▸ List.mem_append_right _ List.mem_cons_self)
    rw [no_turn] at mine
    cases mine
  reports ended := by
    rw [failureLogs, no_turn]
    exact reports ended
  origin ended := .inr (origin ended)

/-- There are no occasions, and the outcome is a value. -/
theorem idle (a : α) {q : Router L} (quiet : r.session.Reports q.session []) :
    Aborts limit faults r [] (some (.ok a, q)) :=
  .of_no_turn rfl (fun ended => (Prod.mk.inj (Option.some.inj ended)).2 ▸ quiet) nofun

/-- Nothing was to be reported before. -/
theorem after {q : Router L} (quiet : r.session.Reports q.session [])
    (h : Aborts limit faults q os outcome) : Aborts limit faults r os outcome where
  stops := h.stops
  reports ended := quiet.after (h.reports ended)
  origin := h.origin

theorem faulty {faults' : RouterError → Prop} (h : Aborts limit faults r os outcome)
    (weaker : ∀ e, faults e → faults' e) : Aborts limit faults' r os outcome :=
  ⟨h.stops, h.reports, fun ended => (h.origin ended).imp_right (weaker _)⟩

/-- One operation after another: if a route fails in the first, there is no second. -/
theorem bind {x : Operation (Router L) α} {f : α → Operation (Router L) β} {u : α → Router L → List (Occasion L)}
    (hx : Aborts limit faults r os (x.start r))
    (hf : ∀ a r', x.start r = some (.ok a, r') → Aborts limit faults r' (u a r') ((f a).start r')) :
    Aborts limit faults r (os ++ x.thereafter u r) ((x >>= f).start r) := by
  simp only [Operation.start_bind, Operation.thereafter]
  cases ended : x.start r with
  | none =>
    rw [ended] at hx
    rw [List.append_nil]
    refine ⟨fun split fails => ?_, fun finished => ?_, fun finished => ?_⟩
    · obtain ⟨-, _, _, -, nothing⟩ := hx.stops split fails
      cases nothing
    · cases finished
    · cases finished
  | some o =>
    rw [ended] at hx
    obtain ⟨e | a, r'⟩ := o
    · rw [List.append_nil]
      refine ⟨fun split fails => ?_, fun finished => ?_, fun finished => ?_⟩
      · obtain ⟨last, q, depth, failed, same⟩ := hx.stops split fails
        obtain ⟨error, rfl⟩ := Prod.mk.inj (Option.some.inj same)
        refine ⟨last, q, depth, failed, ?_⟩
        rw [Option.bind_some, Except.error.inj error]
      · obtain ⟨-, rfl⟩ := Prod.mk.inj (Option.some.inj finished)
        exact hx.reports rfl
      · obtain ⟨same, -⟩ := Prod.mk.inj (Option.some.inj finished)
        obtain rfl := Except.error.inj same
        exact hx.origin rfl
    · have later := hf a r' ended
      refine ⟨fun split fails => ?_, fun finished => ?_, fun finished => ?_⟩
      · -- the first operation has not failed, so the turn belongs to the second one
        obtain ⟨ps, -, rest⟩ | ⟨ps, early, rest⟩ := List.append_eq_append_iff.1 split
        · exact later.stops rest fails
        · cases ps with
          | nil => exact later.stops (show u a r' = [] ++ _ from rest.symm) fails
          | cons o ps =>
            obtain ⟨rfl, -⟩ := List.cons.inj rest
            obtain ⟨-, _, _, -, nothing⟩ := hx.stops early fails
            cases nothing
      · rw [failureLogs_append]
        exact (hx.reports rfl).trans (later.reports finished)
      · rw [turns_append]
        obtain ⟨t, known, fails⟩ | fault := later.origin finished
        · exact .inl ⟨t, List.mem_append_right _ known, fails⟩
        · exact .inr fault

/-- A route that fails is the only one. -/
theorem only (h : Aborts limit faults r os outcome) {front : List (Occasion L)} {t : Turn L} {e : RouterError}
    (split : os = front ++ [.turn t]) (fails : t.fails? limit = some e) :
    failureLogs limit os = [t.failureLog e] := by
  have calm : failureLogs limit front = [] := by
    rw [failureLogs, List.filterMap_eq_nil_iff]
    intro t' early
    rw [Option.map_eq_none_iff, Option.eq_none_iff_forall_ne_some]
    intro e' fails'
    obtain ⟨before, after, rfl⟩ := List.append_of_mem (mem_turns.1 early)
    rw [List.append_assoc, List.cons_append] at split
    have finished := (h.stops split fails').1
    simp at finished
  rw [split, failureLogs_append, calm, List.nil_append]
  simp [failureLogs, turns, Occasion.turn?, fails]

theorem ensuring {x : Operation (Router L) α} (hx : Aborts limit faults r os (x.start r))
    (change : Nat → Nat) : Aborts limit faults r os ((x.ensuring fun r =>
      { r with redirectDepth := change r.redirectDepth }).start r) := by
  rw [Operation.start_ensuring]
  refine ⟨fun split fails => ?_, fun finished => ?_, fun finished => ?_⟩
  · obtain ⟨last, q, depth, failed, same⟩ := hx.stops split fails
    exact ⟨last, q, change depth, failed, by rw [same]; rfl⟩
  · obtain ⟨⟨_, q⟩, ended, same⟩ := Option.map_eq_some_iff.1 finished
    obtain ⟨-, rfl⟩ := Prod.mk.inj same
    have reported := hx.reports ended
    exact reported
  · obtain ⟨⟨_, q⟩, ended, same⟩ := Option.map_eq_some_iff.1 finished
    obtain ⟨rfl, -⟩ := Prod.mk.inj same
    exact hx.origin ended

end Aborts

variable {limit : Nat} {faults : RouterError → Prop}

theorem aborts_evaluate (limit : Nat) (faults : RouterError → Prop) (route : Route) (r : Router L) :
    Aborts limit faults r [.turn ⟨route, r⟩] ((evaluate limit route).start r) where
  stops {front t back e} split fails := by
    obtain ⟨rfl, rfl, rfl⟩ : front = [] ∧ t = ⟨route, r⟩ ∧ back = [] := by
      cases front with
      | nil => simpa [eq_comm] using split
      | cons => simp at split
    obtain ⟨_, _, -, -, failed⟩ := Turn.start_evaluate_of_fails? fails
    exact ⟨rfl, _, _, failed, failed⟩
  reports ended := by
    have mine := Turn.reports_evaluate (t := ⟨route, r⟩) ended
    cases fails : Turn.fails? limit ⟨route, r⟩ <;>
      simpa [failureLogs, turns, Occasion.turn?, fails] using mine
  origin ended :=
    .inl ⟨⟨route, r⟩, mem_turns.2 List.mem_cons_self, Turn.fails?_of_evaluate (t := ⟨route, r⟩) ended⟩

theorem aborts_cycle (limit : Nat) (faults : RouterError → Prop) (routes : List Route) (r : Router L) :
    Aborts limit faults r (cycleTrace limit routes r) ((cycle limit routes).start r) := by
  induction routes generalizing r with
  | nil => exact .idle none (.refl _)
  | cons route rest ih =>
    refine (aborts_evaluate limit faults route r).bind fun asked r' _ => ?_
    cases asked with
    | none => exact ih r'
    | some target => exact .idle _ (.refl _)

theorem aborts_raise (limit : Nat) (faults : RouterError → Prop) (kind : EventKind) (r : Router L) :
    Aborts limit faults r (raiseTrace limit kind r) ((raise limit kind).start r) := by
  have told : Aborts limit faults r [.change kind r] ((tellChange limit kind).start r) := by
    refine .of_no_turn rfl (fun ended => ?_) fun ended => ?_
    · rw [start_tellChange] at ended
      obtain ⟨s, tell, same⟩ := Option.map_eq_some_iff.1 ended
      obtain ⟨-, rfl⟩ := Prod.mk.inj same
      exact Session.reports_tell tell
    · cases (keeps_tellChange ended).1
  rw [raise_eq]
  refine told.bind fun _ r' _ => ?_
  simp only [Operation.start_bind, Operation.start_get, Option.bind_some]
  split
  · exact aborts_cycle limit faults r'.routes r'
  · exact .idle none (.refl _)

theorem aborts_visit (limit : Nat) (faults : RouterError → Prop) (path : String) (r : Router L) :
    Aborts limit faults r (visitTrace limit path r) ((visit limit path).start r) := by
  have sent : r.session.Reports (r.sent path).session [] :=
    Session.reports_of_quiet _ rfl (by simp [Log.debug])
  refine .after sent ?_
  have first := aborts_raise limit faults .navigate (r.sent path)
  exact first.bind fun asked r' _ => by
    simp only [Operation.start_bind, Operation.start_get, Option.bind_some]
    cases r'.options.trigger with
    | navigate => exact .idle _ (.refl _)
    | hashChange => exact aborts_raise limit faults .hashChange r'

theorem aborts_followWithin (limit : Nat) (faults : RouterError → Prop) (budget : Nat)
    (asked : Option String) (r : Router L) :
    Aborts limit faults r ((legsWithin limit budget asked r).flatMap (Leg.trace limit))
      ((followWithin limit budget asked).start r) := by
  induction budget generalizing asked r with
  | zero =>
    cases asked with
    | none => exact .idle () (.refl _)
    | some target => exact .idle () (Session.reports_of_quiet _ rfl (by simp [Log.warn]))
  | succ budget ih =>
    cases asked with
    | none => exact .idle () (.refl _)
    | some target =>
      have redirected : r.session.Reports (r.redirected target).session [] :=
        Session.reports_of_quiet _ rfl (by simp [Log.debug])
      rw [legsWithin_succ, List.flatMap_cons, Operation.flatMap_thereafter]
      refine .after redirected ?_
      have visited := (aborts_visit limit faults target (r.redirected target)).bind
        fun asked r' _ => ih asked r'
      exact visited.ensuring (· - 1)

/-! ## Commands -/

/-- What a command may fail with although no route fails: an invalid pattern, or what someone from outside
brings about. -/
def Command.Faults : Command L → RouterError → Prop
  | act .., _ => True
  | c, e => c.enlists?.isSome = true ∧ e.isInvalidPattern = true

theorem Pattern.isInvalidPattern_of_compile {options : MatchOptions} {p : Pattern} {e : RouterError}
    (h : p.compile options = .error e) : e.isInvalidPattern = true := by
  cases p with
  | regex r => cases h
  | path text | alternatives members =>
    simp only [compile] at h
    split at h
    · cases h
    · obtain rfl := Except.error.inj h
      rfl

theorem PatternCache.isInvalidPattern_of_compile {c : PatternCache} {options : MatchOptions} {p : Pattern}
    {e : RouterError} (h : (c.compile options p).1 = .error e) : e.isInvalidPattern = true := by
  unfold compile at h
  split at h
  · exact @Pattern.isInvalidPattern_of_compile options p e h
  · split at h
    · cases h
    · simp only at h
      split at h
      · cases h
      · next refused =>
        obtain rfl := Except.error.inj h
        exact Pattern.isInvalidPattern_of_compile refused

theorem PatternCache.quiet_compileLog (c : PatternCache) (options : MatchOptions) (p : Pattern) :
    ∀ record ∈ c.compileLog options p, record.level ≠ .error := by
  have quiet : ∀ record ∈ p.compileLog options, record.level ≠ .error := by
    intro record known
    unfold Pattern.compileLog at known
    split at known
    · cases known
    · obtain rfl := List.mem_singleton.1 known
      simp [Log.trace]
  intro record known
  unfold compileLog at known
  split at known
  · exact quiet record known
  · split at known
    · obtain rfl := List.mem_singleton.1 known
      simp [Log.trace]
    · obtain rfl | known := List.mem_cons.1 known
      · simp [Log.trace]
      · exact quiet record known

theorem aborts_enlist (limit : Nat) (p : Pattern) (middleware : List Handler) (h : Handler) (r : Router L) :
    Aborts limit (·.isInvalidPattern = true) r [] ((enlist p middleware h).start r) := by
  have quiet := r.cache.quiet_compileLog r.options.matching p
  simp only [enlist, Operation.start_bind, start_compile, Option.bind_some]
  cases compiled : (r.cache.compile r.options.matching p).1 with
  | error e =>
    refine .of_no_turn rfl (fun ended => ?_) fun ended => ?_
    · obtain ⟨-, rfl⟩ := Prod.mk.inj (Option.some.inj ended)
      exact Session.reports_of_quiet _ rfl quiet
    · obtain ⟨same, -⟩ := Prod.mk.inj (Option.some.inj ended)
      obtain rfl := Except.error.inj same
      exact @PatternCache.isInvalidPattern_of_compile r.cache r.options.matching p _ compiled
  | ok route =>
    have reported := Session.reports_of_quiet (t := r.session.report
      (r.cache.compileLog r.options.matching p)) _ rfl quiet
    exact .idle _ (reported.after (Session.reports_of_quiet _ rfl (by simp [Log.info])))

theorem aborts_enlistIn (limit : Nat) (scope : Scope) (value : String) (middleware : List Handler)
    (h : Handler) (r : Router L) :
    Aborts limit (·.isInvalidPattern = true) r [] ((enlistIn scope value middleware h).start r) := by
  simp only [enlistIn, Operation.start_bind, start_report, Option.bind_some]
  exact .after (Session.reports_of_quiet _ rfl (by simp [Log.trace])) (aborts_enlist ..)

theorem aborts_own (limit : Nat) (c : Command L) (r : Router L) :
    Aborts limit c.Faults r (c.ownTrace limit r) ((c.own limit).start r) := by
  cases c with
  | register p middleware h =>
    refine ((aborts_enlist limit p middleware h r).faulty fun _ invalid => ⟨rfl, invalid⟩).bind
      fun route r' _ => aborts_evaluate limit _ route r'
  | registerIn scope value middleware h =>
    refine ((aborts_enlistIn limit scope value middleware h r).faulty
      fun _ invalid => ⟨rfl, invalid⟩).bind fun route r' _ => aborts_evaluate limit _ route r'
  | navigate path => exact aborts_visit limit _ path r
  | dispatch => exact aborts_cycle limit _ r.routes r
  | emit kind =>
    cases kind with
    | matched => exact .idle none (Session.reports_of_quiet _ rfl (by simp [Log.trace]))
    | navigate => exact aborts_raise limit _ .navigate r
    | hashChange => exact aborts_raise limit _ .hashChange r
  | handleChange signal =>
    rw [Command.start_own_handleChange]
    have signalled : r.session.Reports (r.signalled signal).session [] :=
      Session.reports_of_quiet _ rfl (by simp [Log.trace])
    exact .after signalled (aborts_raise limit _ signal.kind (r.signalled signal))
  | act chain actions =>
    refine .of_no_turn rfl (fun {out r'} ended => ?_) fun _ => trivial
    simp only [Command.own, Operation.start_bind, inSession, Operation.start_within] at ended
    obtain ⟨⟨_, q⟩, acted, same⟩ := Option.bind_eq_some_iff.1 ended
    obtain ⟨⟨result, s⟩, ran, here⟩ := Option.map_eq_some_iff.1 acted
    obtain ⟨rfl, rfl⟩ := Prod.mk.inj here
    cases result <;> obtain ⟨-, rfl⟩ := Prod.mk.inj (Option.some.inj same) <;>
      exact Session.reports_act ran
  | change c =>
    have same : (c.apply r).session = r.session := by cases c <;> rfl
    exact .idle none (same ▸ .refl r.session)

theorem aborts_perform (limit : Nat) (c : Command L) (r : Router L) :
    Aborts limit c.Faults r (c.trace limit r) ((c.perform limit).start r) := by
  rw [Command.start_perform, Command.trace, Command.legs, Operation.flatMap_thereafter]
  exact (aborts_own limit c r).bind fun asked r' _ =>
    aborts_followWithin limit c.Faults (maxRedirectDepth - r'.redirectDepth) asked r'

end Routing
