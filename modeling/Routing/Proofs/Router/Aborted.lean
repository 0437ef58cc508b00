import Routing.Proofs.Router.Failures

/-!
# What a failing route leaves

A route that fails ends the command, however many redirects deep it is. It stays behind as the current chain,
on the path of its cycle. A failure that a handler catches is none.

* `Command.rounds`: the cycles of a command, redirect by redirect
* `Proceeds`: a route that asks for no redirect and does not fail is followed by the next one
* `Aborted`, `Unharmed`: what a route leaves that failed, and one that did not
* `failure_aborts`: every route of every command
-/
namespace Routing

open Router

variable {L : Type} [Host L]

/-- A cycle: the routes that it is about, and what happens in it. -/
structure Round (L : Type) [Host L] where
  table : List Route
  trace : List (Occasion L)

/-- The cycle of a command, and those of the redirects that it follows. Each stands in those before it. -/
def Command.rounds (limit : Nat) (c : Command L) (r : Router L) : List (Round L) :=
  ⟨c.table r, c.ownTrace limit r⟩ :: (c.legs limit r).map fun l => ⟨l.before.routes, l.trace limit⟩

theorem Command.trace_eq_rounds (limit : Nat) (c : Command L) (r : Router L) :
    c.trace limit r = (c.rounds limit r).flatMap Round.trace := by
  rw [Command.trace, Command.rounds, List.flatMap_cons, List.flatMap_map]

/-- A redirect that is followed is told to the listeners, so something happens in its cycle. -/
theorem Leg.trace_ne_nil (limit : Nat) (l : Leg L) : l.trace limit ≠ [] := by
  simp [Leg.trace, visitTrace, raiseTrace]

/-! ## The next route -/

/-- Each route has its turn where the turn of the one before has ended, unless that asked for a redirect or
failed. -/
def Proceeds (limit : Nat) (os : List (Occasion L)) (table : List Route) : Prop :=
  ∀ k t q route, (turns os)[k]? = some t → (evaluate limit t.route).start t.before = some (.ok none, q) →
    table[k + 1]? = some route → (turns os)[k + 1]? = some ⟨route, q⟩

section
variable {limit : Nat}

theorem Proceeds.of_no_turn {os : List (Occasion L)} (no_turn : turns os = []) (table : List Route) :
    Proceeds limit os table := by
  intro k t q route here
  rw [no_turn] at here
  cases here

theorem Proceeds.of_turns {os ps : List (Occasion L)} {table : List Route} (h : Proceeds limit ps table)
    (same : turns os = turns ps) : Proceeds limit os table := by
  rwa [Proceeds, same]

theorem proceeds_cycle (limit : Nat) (routes : List Route) (r : Router L) :
    Proceeds limit (cycleTrace limit routes r) routes := by
  induction routes generalizing r with
  | nil => exact .of_no_turn rfl []
  | cons route rest ih =>
    intro k t q next here ended known
    have first : turns (cycleTrace limit (route :: rest) r) =
        ⟨route, r⟩ :: turns ((evaluate limit route).thereafter _ r) := rfl
    rw [first] at here ⊢
    cases k with
    | zero =>
      obtain rfl := Option.some.inj here
      obtain ⟨rest', rfl⟩ : ∃ rest', rest = next :: rest' := by
        cases rest with
        | nil => cases known
        | cons a rest' => exact ⟨rest', by rw [Option.some.inj known]⟩
      rw [Operation.thereafter, ended]
      rfl
    | succ k =>
      rw [List.getElem?_cons_succ, Operation.thereafter] at here ⊢
      split at here
      · next asked r' _ =>
        cases asked with
        | none => exact ih r' k t q next here ended known
        | some target => cases here
      · cases here

theorem proceeds_raise (limit : Nat) (kind : EventKind) (r : Router L) :
    Proceeds limit (raiseTrace limit kind r) r.routes := by
  have told : turns (raiseTrace limit kind r) = turns ((tellChange limit kind).thereafter (fun _ r =>
      if kind.starts r.options.trigger then cycleTrace limit r.routes r else []) r) := rfl
  rw [Operation.thereafter] at told
  split at told
  · next q ended =>
    split at told
    · rw [← (keeps_tellChange ended).2.routes]
      exact (proceeds_cycle limit q.routes q).of_turns told
    · exact .of_no_turn told _
  · exact .of_no_turn told _

theorem proceeds_visit (limit : Nat) (path : String) (r : Router L) :
    Proceeds limit (visitTrace limit path r) r.routes := by
  have first := part_raise limit .navigate (r.sent path)
  have alone := proceeds_raise limit .navigate (r.sent path)
  rw [visitTrace, Operation.thereafter]
  split
  · next asked q ended =>
    have keeps := first.keeps ended
    split
    · rwa [List.append_nil]
    · next trigger =>
      -- the changes of the fragment start the cycle, those of the path do not
      have idle : EventKind.navigate.starts (r.sent path).options.trigger = false := by
        rw [← keeps.options, trigger]
        rfl
      have table : q.routes = r.routes := keeps.routes
      refine (table ▸ proceeds_raise limit .hashChange q).of_turns ?_
      rw [turns_append, turns_raiseTrace_of_idle idle, List.nil_append]
  · rwa [List.append_nil]

theorem proceeds_own (limit : Nat) (c : Command L) (r : Router L) :
    Proceeds limit (c.ownTrace limit r) (c.table r) := by
  have only {x : Operation (Router L) Route} (table : List Route) (short : table.length ≤ 1) :
      Proceeds limit (x.thereafter (fun route r => [.turn ⟨route, r⟩]) r) table := by
    intro k t q route _ _ known
    have beyond := (List.getElem?_eq_some_iff.1 known).1
    omega
  have single (c : Command L) : (c.route? r).toList.length ≤ 1 := by cases c.route? r <;> simp
  cases c with
  | register p middleware h => exact only _ (single (.register p middleware h))
  | registerIn scope value middleware h => exact only _ (single (.registerIn scope value middleware h))
  | navigate path => exact proceeds_visit limit path r
  | dispatch => exact proceeds_cycle limit r.routes r
  | emit kind =>
    cases kind with
    | matched => exact .of_no_turn rfl _
    | navigate => exact proceeds_raise limit .navigate r
    | hashChange => exact proceeds_raise limit .hashChange r
  | handleChange signal => exact proceeds_raise limit signal.kind (r.signalled signal)
  | act chain actions => exact .of_no_turn rfl _
  | change c => exact .of_no_turn rfl _

/-! ## Cycles of a command -/

variable {c : Command L} {r : Router L} {round : Round L}

/-- All cycles of a command are on the same routes, and each is on one path. -/
theorem part_of_round (h : round ∈ c.rounds limit r) : Proceeds limit round.trace round.table ∧
    ∃ outcome base, Part limit outcome round.trace base round.table ∧
      base.routes = r.routes ++ (c.route? r).toList := by
  obtain rfl | followed := List.mem_cons.1 h
  · exact ⟨proceeds_own limit c r, _, _, part_own limit c r, (c.setting_facts r).2.2⟩
  · obtain ⟨l, known, rfl⟩ := List.mem_map.1 followed
    obtain ⟨i, hi⟩ := List.getElem?_of_mem known
    exact ⟨proceeds_visit limit l.target l.before, _, _, part_leg limit l, (leg_settings hi).2⟩

/-- If a route has its turn, the pattern of the command was valid. -/
theorem exists_route_of_turn (h : round ∈ c.rounds limit r) {t : Turn L} (turn : t ∈ turns round.trace)
    (enlists : c.enlists?.isSome = true) : ∃ route, c.route? r = some route := by
  cases refused : c.route? r with
  | some route => exact ⟨route, rfl⟩
  | none =>
    have table : c.table r = [] := by
      cases c with
      | register | registerIn => exact congrArg Option.toList refused
      | _ => cases enlists
    have nobody : turns (c.ownTrace limit r) = [] := by
      have routes := (part_own limit c r).routes
      rw [table, List.prefix_nil] at routes
      exact List.map_eq_nil_iff.1 routes
    rw [Command.rounds, legs_of_no_turn nobody] at h
    obtain rfl := List.mem_singleton.1 h
    rw [nobody] at turn
    cases turn

theorem split_of_turns {os : List (Occasion L)} {k : Nat} {t : Turn L} (h : (turns os)[k]? = some t) :
    ∃ front back, os = front ++ .turn t :: back ∧ (turns front).length = k := by
  induction os generalizing k with
  | nil => cases h
  | cons o os ih =>
    cases o with
    | turn t' =>
      cases k with
      | zero =>
        obtain rfl := Option.some.inj h
        exact ⟨[], os, rfl, rfl⟩
      | succ k =>
        obtain ⟨front, back, rfl, rfl⟩ := ih (k := k) h
        exact ⟨.turn t' :: front, back, rfl, rfl⟩
    | change | act =>
      obtain ⟨front, back, rfl, rfl⟩ := ih h
      exact ⟨_ :: front, back, rfl, rfl⟩

end

/-! ## Routes that fail, and routes that do not -/

/-- What a command comes to if a route fails: the one at a position of the table of a cycle. -/
structure Aborted (limit : Nat) (c : Command L) (r : Router L) (round : Round L) (k : Nat) (t : Turn L)
    (e : RouterError) (r' : Router L) : Prop where
  outcome : (c.perform limit).start r = some (.error e, r')
  /-- No route has its turn after it, neither in its cycle nor in one of those in which that stands, and
  listeners are told of nothing. -/
  last : (c.trace limit r).getLast? = some (.turn t)
  evaluated : (turns round.trace).map (·.route) = round.table.take (k + 1)
  /-- Of the records that the command adds to the log, this is the only one of a failure. -/
  report : r.session.Reports r'.session [Log.error ("Route '" ++ t.route.pattern.source ++
    "' failed on '" ++ t.before.path ++ "': " ++ e.message)]
  location : ∀ o ∈ round.trace, o.before.location = r'.location
  depth : r'.redirectDepth = r.redirectDepth
  /-- The current chain is the one that the router ran for the route. -/
  current : r'.current = some t.id
  chain : ∃ chain, r'.session.chain? t.id = some chain ∧ chain.value = t.before.path ∧
    chain.context = t.route.pattern.context t.request
  previous : r'.session.previous? t.id = t.before.current
  /-- A route that the command has registered stays. -/
  routes : r'.routes = r.routes ++ (c.route? r).toList
  registered : c.enlists?.isSome = true → ∃ route, c.route? r = some route

/-- What a route comes to that does not fail, whatever its handlers have caught. -/
structure Unharmed (limit : Nat) (round : Round L) (k : Nat) (t : Turn L) (q : Router L) : Prop where
  outcome : ∃ asked, (evaluate limit t.route).start t.before = some (.ok asked, q)
  report : t.before.session.Reports q.session []
  next : t.asks? limit = none → ∀ route, round.table[k + 1]? = some route →
    (turns round.trace)[k + 1]? = some ⟨route, q⟩

namespace Turn

variable {limit : Nat} {t : Turn L} {e : RouterError} {q : Router L}

/-- A chain that fails stays behind, linked to the chain that was the current one until then. -/
theorem chains_of_fails? (fails : t.fails? limit = some e)
    (ended : (evaluate limit t.route).start t.before = some (.error e, q)) :
    q.current = some t.id ∧ q.session.previous? t.id = t.before.current ∧
      ∃ chain, q.session.chain? t.id = some chain ∧ chain.value = t.before.path ∧
        chain.context = t.route.pattern.context t.request := by
  obtain ⟨entrance, s, entered, failed, same⟩ := start_evaluate_of_fails? fails
  obtain ⟨-, rfl⟩ := Prod.mk.inj (Option.some.inj (ended.symm.trans same))
  obtain ⟨current, -, aged⟩ := end_of_entrance entered ended
  refine ⟨current, ?_, ?_⟩
  · obtain ⟨heard, told, -, rfl⟩ := exists_of_entrance? entered
    obtain ⟨_, there⟩ := exists_chain_of_heard? told
    -- the run changes no link, so the one that the entrance made is still there
    have links : s.links = (heard.session.link t.id heard.current).links := by
      refine (Session.links_running failed).trans ?_
      rw [Machine.links_call]
      exact Session.links_modify _ t.id Chain.start fun _ => rfl
    change s.previous? t.id = t.before.current
    rw [Session.previous?_congr links, Session.previous?_link t.id _ (Session.lt_of_chain? there),
      if_pos rfl, (aged_heard told).2.1]
  · have made := (entrance_facts entered).2.2.2.trans aged
    obtain ⟨chain, there, grown⟩ := made.grown t.id _ t.chain?_opened
    exact ⟨chain, there, grown.value.trans (CompiledPattern.path_parse ..), grown.context⟩

end Turn

section
variable {limit : Nat} {c : Command L} {r : Router L} {i k : Nat} {round : Round L} {t : Turn L}

theorem split_of_position (cycle : (c.rounds limit r)[i]? = some round)
    (turn : (turns round.trace)[k]? = some t) : ∃ earlier front back later,
      c.rounds limit r = earlier ++ round :: later ∧ earlier.length = i ∧
        round.trace = front ++ .turn t :: back ∧ (turns front).length = k := by
  obtain ⟨lt, here⟩ := List.getElem?_eq_some_iff.1 cycle
  obtain ⟨front, back, trace, position⟩ := split_of_turns turn
  refine ⟨(c.rounds limit r).take i, front, back, (c.rounds limit r).drop (i + 1), ?_,
    List.length_take_of_le (Nat.le_of_lt lt), trace, position⟩
  rw [← here, ← List.drop_eq_getElem_cons lt, List.take_append_drop]

theorem aborted_of_fails? (cycle : (c.rounds limit r)[i]? = some round)
    (turn : (turns round.trace)[k]? = some t) {e : RouterError} (fails : t.fails? limit = some e) :
    (c.rounds limit r).length = i + 1 ∧ ∃ r', Aborted limit c r round k t e r' := by
  have known := List.mem_of_getElem? cycle
  obtain ⟨-, outcome, base, part, routes⟩ := part_of_round known
  obtain ⟨earlier, front, back, later, rounds, length, trace, position⟩ := split_of_position cycle turn
  have whole : c.trace limit r =
      (earlier.flatMap Round.trace ++ front) ++ .turn t :: (back ++ later.flatMap Round.trace) := by
    rw [c.trace_eq_rounds, rounds, List.flatMap_append, List.flatMap_cons, trace]
    simp only [List.append_assoc, List.cons_append]
  have aborts := aborts_perform limit c r
  obtain ⟨nothing, q, depth, ended, performed⟩ := aborts.stops whole fails
  obtain ⟨rfl, silent⟩ := List.append_eq_nil_iff.1 nothing
  rw [nothing] at whole
  have finished : later = [] := by
    cases later with
    | nil => rfl
    | cons next later =>
      have followed : next ∈ (c.rounds limit r).tail := by
        rw [rounds]
        cases earlier <;> simp
      obtain ⟨l, -, rfl⟩ := List.mem_map.1 followed
      exact absurd (List.append_eq_nil_iff.1 silent).1 (l.trace_ne_nil limit)
  have before : base.Keeps t.before :=
    part.inside (.turn t) (trace ▸ List.mem_append_right _ List.mem_cons_self)
  have after := (Turn.keeps_and_grown ended).1
  obtain ⟨current, previous, chain⟩ := Turn.chains_of_fails? fails ended
  refine ⟨by rw [rounds, finished, List.length_append, length, List.length_singleton], _, performed, ?_, ?_, ?_,
    fun o ho => ?_, (end_of_perform performed).1, current, chain, previous,
    (before.trans after).routes.trans routes, exists_route_of_turn known (List.mem_of_getElem? turn)⟩
  · rw [whole, List.getLast?_concat]
  · have evaluated := List.prefix_iff_eq_take.1 part.routes
    rw [evaluated, List.length_map, trace, turns_append, List.length_append, position]
    rfl
  · have reports := aborts.reports performed
    rwa [aborts.only whole fails, Turn.failureLog,
      show t.request.path = t.before.path from CompiledPattern.path_parse ..] at reports
  · exact (part.inside o ho).location.trans (before.trans after).location.symm

theorem unharmed_of_not_fails? (cycle : (c.rounds limit r)[i]? = some round)
    (turn : (turns round.trace)[k]? = some t) (fine : t.fails? limit = none) {q : Router L}
    {out : Except RouterError (Option String)}
    (ended : (evaluate limit t.route).start t.before = some (out, q)) : Unharmed limit round k t q := by
  cases out with
  | error e => cases fine.symm.trans (Turn.fails?_of_evaluate ended)
  | ok asked =>
    refine ⟨⟨asked, ended⟩, ?_, fun nothing route known => ?_⟩
    · have reports := Turn.reports_evaluate ended
      rwa [fine] at reports
    · obtain rfl : asked = none := by
        cases asked with
        | none => rfl
        | some target => cases nothing.symm.trans (Turn.asks?_eq_some_iff.2 ended)
      exact (part_of_round (List.mem_of_getElem? cycle)).1 k t q route turn ended known

end

/-- Whatever is asked of a router, and whatever state it is in: if the run fails that the router makes of the
chain of a route, at any position of the table and in a cycle at any depth, the command ends there with that
failure, and leaves what `Aborted` says. A route whose run does not fail, even if handlers fail in it and
others catch that, has none of these effects; and if no route fails, the command only fails with a pattern
that is invalid, or with what was done from outside. -/
theorem failure_aborts (limit : Nat) (c : Command L) (r : Router L) :
    (∀ i round k t, (c.rounds limit r)[i]? = some round → (turns round.trace)[k]? = some t →
      round.table[k]? = some t.route ∧
      (∀ e, t.fails? limit = some e →
        (c.rounds limit r).length = i + 1 ∧ ∃ r', Aborted limit c r round k t e r') ∧
      (t.fails? limit = none → ∀ out q, (evaluate limit t.route).start t.before = some (out, q) →
        Unharmed limit round k t q)) ∧
    ((∀ t ∈ turns (c.trace limit r), t.fails? limit = none) → ∀ out r',
      (c.perform limit).start r = some (out, r') →
        r.session.Reports r'.session [] ∧ ∀ e, out = .error e → c.Faults e) := by
  refine ⟨fun i round k t cycle turn => ⟨?_, fun e fails => aborted_of_fails? cycle turn fails,
    fun fine out q ended => unharmed_of_not_fails? cycle turn fine ended⟩, fun fine out r' ended => ?_⟩
  · obtain ⟨-, outcome, base, part, -⟩ := part_of_round (List.mem_of_getElem? cycle)
    obtain ⟨rest, whole⟩ := part.routes
    have here : ((turns round.trace).map (·.route))[k]? = some t.route := by
      rw [List.getElem?_map, turn]
      rfl
    rw [← whole, List.getElem?_append_left (List.getElem?_eq_some_iff.1 here).1, here]
  · have aborts := aborts_perform limit c r
    constructor
    · have calm : failureLogs limit (c.trace limit r) = [] := by
        rw [failureLogs, List.filterMap_eq_nil_iff]
        exact fun t known => by rw [fine t known, Option.map_none]
      exact calm ▸ aborts.reports ended
    · rintro e rfl
      refine (aborts.origin ended).resolve_left ?_
      rintro ⟨t, known, fails⟩
      cases (fine t known).symm.trans fails

/-- On the way to a page a route is redirected to another page. There the failure of the first route is caught
by its middleware, and the one of the second route ends the command. -/
theorem failure_aborts_page :
    ∃ r, serve 20 [.register (.path "/home") [] [.navigate "/page"],
        .register (.path "/page") [[.nextCaught]] [.fail "caught"],
        .register (.path "/page") [] [.fail "lost"],
        .register (.path "/page") [] [.note "never"]] (.created {} (.memory (.opened "/")) []) = some r ∧
      ∃ round t u, (Command.rounds 20 (.navigate "/home") r)[1]? = some round ∧
        (turns round.trace)[1]? = some t ∧ (∃ q, Unharmed 20 round 1 t q) ∧
        (turns round.trace)[2]? = some u ∧
        (∃ r', Aborted 20 (.navigate "/home") r round 2 u (.handler "lost") r') ∧
        ∀ out r', ((Command.navigate "/away").perform 20).start r = some (out, r') →
          r.session.Reports r'.session [] ∧ ∀ e, out ≠ .error e := by
  have runs : (serve 20 [.register (.path "/home") [] [.navigate "/page"],
      .register (.path "/page") [[.nextCaught]] [.fail "caught"],
      .register (.path "/page") [] [.fail "lost"],
      .register (.path "/page") [] [.note "never"]] (.created {} (.memory (.opened "/")) [])).map (fun r =>
        ((Command.rounds 20 (.navigate "/home") r)[1]?.map fun round => (turns round.trace).map fun t =>
          (t.fails? 20, ((evaluate 20 t.route).start t.before).isSome),
        (turns (Command.trace 20 (.navigate "/away") r)).all fun t => t.fails? 20 = none)) =
      some (some [(none, true), (none, true), (some (.handler "lost"), true)], true) := by
    decide +kernel
  obtain ⟨r, reached, same⟩ := Option.map_eq_some_iff.1 runs
  obtain ⟨cycles, away⟩ := Prod.mk.inj same
  obtain ⟨round, cycle, found⟩ := Option.map_eq_some_iff.1 cycles
  obtain ⟨inside, -⟩ := failure_aborts 20 (.navigate "/home") r
  have at_position (k : Nat) (fails : Option RouterError) (here :
      ([(none, true), (none, true), (some (.handler "lost"), true)] : List _)[k]? = some (fails, true)) :
      ∃ t, (turns round.trace)[k]? = some t ∧ t.fails? 20 = fails ∧
        ((evaluate 20 t.route).start t.before).isSome = true := by
    rw [← found, List.getElem?_map] at here
    obtain ⟨t, turn, same⟩ := Option.map_eq_some_iff.1 here
    exact ⟨t, turn, (Prod.mk.inj same).1, (Prod.mk.inj same).2⟩
  obtain ⟨t, first, fine, ends⟩ := at_position 1 none rfl
  obtain ⟨u, second, fails, -⟩ := at_position 2 (some (.handler "lost")) rfl
  obtain ⟨⟨out, q⟩, ended⟩ := Option.isSome_iff_exists.1 ends
  refine ⟨r, reached, round, t, u, cycle, first, ⟨q, ?_⟩, second, ?_, fun out r' performed => ?_⟩
  · exact (inside 1 round 1 t cycle first).2.2 fine out q ended
  · exact ((inside 1 round 2 u cycle second).2.1 _ fails).2
  · have calm : ∀ t ∈ turns (Command.trace 20 (.navigate "/away") r), t.fails? 20 = none := by
      simpa using away
    obtain ⟨reports, faults⟩ := (failure_aborts 20 (.navigate "/away") r).2 calm out r' performed
    exact ⟨reports, fun e failed => absurd (faults e failed).1 (by simp [Command.enlists?])⟩

end Routing
