import Routing.Proofs.Router.Closed
import Routing.Proofs.Router.Dispatch

/-!
# Routes that leave no trace

A route that does not match, or that the listeners cancel and do nothing else about, might as well not be in the
table: a cycle without it goes and ends alike.

* `Turn.Declined`: the listeners do no more at the match of a route than to cancel it
* `Turn.after_unmatched`, `Turn.Declined.after`: what such a turn leaves
* `unmarked`: the routes of a table that are not marked
* `cycle_unmarked`: a cycle over the whole table, and one without the marked routes
* `cancelled_leave_no_trace`: a dispatch without routes that do not match or are declined
-/
namespace Routing

open Router

variable {L : Type} [Host L]

variable {R : Renumbering} {extra : Observation → Prop} {limit : Nat}

/-! ## Turns that leave nothing -/

/-- The listeners cancel the chain of a route, and do nothing else when they are told of the match. -/
structure Turn.Declined (limit : Nat) (t : Turn L) : Prop where
  refused : ∃ heard, t.heard? limit = some heard ∧ heard.admitted t.id = false
  idle : ∀ m ∈ t.hearings limit, m.Idles t.id

/-- Listeners are told, and do no more than to prevent the default of a chain that corresponds to none. -/
theorem Session.Alike.tell_more {s s' t : Session} {e : Event} {id : ChainId} {ls : List Listener}
    (h : s.Alike R extra t) (shown : extra e.observation) (out : ∀ j, ¬ R id j)
    (idle : ∀ m ∈ s.tellTrace (fun _ m => m.course limit) limit e ls, m.Idles id)
    (told : s.tell limit e ls = some s') :
    s'.Alike R extra t ∧ s.tellShowings limit e ls = ls.map (.told · e.observation) := by
  -- listener by listener the first session goes on, while the other one stands still
  induction ls generalizing s with
  | nil =>
    obtain rfl := Option.some.inj told
    exact ⟨h, rfl⟩
  | cons l ls ih =>
    obtain ⟨u, heard, rest⟩ := Option.bind_eq_some_iff.1 told
    obtain ⟨⟨out', v⟩, first, rfl⟩ := Option.map_eq_some_iff.1 heard
    simp only [Session.tellTrace, first, Option.elim_some, List.mem_append] at idle
    have here : ∀ m ∈ (l.hearing e s).course limit, m.Idles id := fun m hm => idle m (.inl hm)
    have acted := first
    rw [Listener.start_hear] at acted
    obtain ⟨⟨result, w⟩, ended, same⟩ := Option.map_eq_some_iff.1 acted
    obtain ⟨m, ran, result_eq⟩ := Option.map_eq_some_iff.1 ended
    obtain ⟨fine, alike⟩ := Machine.run_of_idle rfl here out (h.observe_more shown) ran
    rw [Machine.result, fine] at result_eq
    obtain ⟨rfl, rfl⟩ := Prod.mk.inj result_eq
    obtain ⟨rfl, rfl⟩ := Prod.mk.inj same
    obtain ⟨after, shows⟩ := ih alike (fun m hm => idle m (.inr hm)) rest
    refine ⟨after, ?_⟩
    rw [Session.tellShowings, Session.tellTrace, first, Machine.no_invocation_of_idle here]
    exact congrArg (_ :: ·) shows

namespace Turn

variable {t : Turn L} {q : Router L}

/-- A route that does not match leaves a router alike. -/
theorem after_unmatched (limit : Nat) (h : t.before.Alike R extra q) (miss : t.request.matched = false) :
    ∃ r', (evaluate limit t.route).start t.before = some (.ok none, r') ∧ r'.Alike R extra q ∧
      t.showings limit = [] := by
  refine ⟨t.reported, start_evaluate_of_unmatched limit miss, ?_, showings_of_unmatched limit miss⟩
  exact ⟨h.options, h.location, h.globals, h.listeners, h.current, h.session.report_more _⟩

/-- The chain that is made corresponds to none. -/
theorem opened_more (h : t.before.Alike R extra q) :
    (∀ j, ¬ R t.id j) ∧ t.opened.Alike R extra q.session := by
  have out (j : ChainId) : ¬ R t.id j := fun at_ => Nat.lt_irrefl _ (h.session.lt at_).1
  have reported : (t.reported.session.report [t.matchLog]).Alike R extra q.session :=
    (h.session.report_more _).report_more _
  exact ⟨out, (reported.create_more t.made).enqueue_more out t.route.handlers⟩

/-- A route that is declined leaves a router alike, but for what the listeners were told. -/
theorem Declined.after (declined : t.Declined limit) (h : t.before.Alike R extra q)
    (hit : t.request.matched = true) (shown : extra t.event.observation) :
    ∃ r', (evaluate limit t.route).start t.before = some (.ok none, r') ∧ r'.Alike R extra q ∧
      t.showings limit = (t.before.listenersOf .matched).map (.told · t.event.observation) := by
  obtain ⟨heard, known, refused⟩ := declined.refused
  obtain ⟨s, told, rfl⟩ := Option.map_eq_some_iff.1 known
  have idle := declined.idle
  rw [hearings, if_pos hit] at idle
  obtain ⟨out, opened⟩ := t.opened_more h
  obtain ⟨alike, shows⟩ := opened.tell_more shown out idle told
  have fate : t.fate? limit = some (.cancelled { t.before with session := s }) := by
    rw [fate?, if_pos hit, known, Option.map_some, refused]
    rfl
  refine ⟨_, by rw [start_evaluate, fate]; rfl, ?_, ?_⟩
  · exact ⟨h.options, h.location, h.globals, h.listeners, h.current, alike.report_more _⟩
  · have nobody : t.entrance? limit = none := by rw [entrance?, fate]
    rw [showings, if_pos hit, nobody, shows, Option.elim_none, List.append_nil]

end Turn

/-! ## Cycles -/

/-- A cycle does not go on after a route that asks for a redirect, fails or does not end. -/
theorem cycle_of_last {route : Route} (rest : List Route) {r : Router L}
    (last : ∀ q, (evaluate limit route).start r ≠ some (.ok none, q)) :
    (cycle limit (route :: rest)).start r = (evaluate limit route).start r ∧
      cycleTrace limit (route :: rest) r = [.turn ⟨route, r⟩] := by
  simp only [cycle, cycleTrace, Operation.start_bind, Operation.thereafter]
  cases ended : (evaluate limit route).start r with
  | none => exact ⟨rfl, rfl⟩
  | some o =>
    obtain ⟨e | _ | target, q⟩ := o
    · exact ⟨rfl, rfl⟩
    · exact absurd ended (last q)
    · exact ⟨rfl, rfl⟩

/-- A table of routes some of which are marked. -/
abbrev MarkedTable :=
  List (Route × Bool)

namespace MarkedTable

def routes (table : MarkedTable) : List Route :=
  table.map (·.1)

/-- The routes without those that are marked. -/
def unmarked (table : MarkedTable) : List Route :=
  (table.filter (!·.2)).map (·.1)

/-- The turns of a cycle over the table, each with the mark of its route. -/
def turns (limit : Nat) (table : MarkedTable) (r : Router L) : List (Turn L × Bool) :=
  (Routing.turns (cycleTrace limit table.routes r)).zip (table.map (·.2))

/-- Whenever a marked route has its turn, it does not match or is declined. -/
def Spared (limit : Nat) (table : MarkedTable) (r : Router L) : Prop :=
  ∀ t, (t, true) ∈ table.turns limit r → t.request.matched = false ∨ t.Declined limit

variable {route : Route} {mark : Bool} {rest : MarkedTable} {r q : Router L}

theorem turns_nil (limit : Nat) (r : Router L) : turns limit [] r = [] :=
  rfl

theorem turns_cons (ended : (evaluate limit route).start r = some (.ok none, q)) :
    turns limit ((route, mark) :: rest) r = (⟨route, r⟩, mark) :: turns limit rest q := by
  have trace := (cycle_of_evaluate rest.routes ended).2
  rw [turns, routes, List.map_cons, List.map_cons]
  rw [routes] at trace
  rw [trace]
  rfl

theorem turns_cons_of_last (last : ∀ q, (evaluate limit route).start r ≠ some (.ok none, q)) :
    turns limit ((route, mark) :: rest) r = [(⟨route, r⟩, mark)] := by
  have trace := (cycle_of_last rest.routes last).2
  rw [turns, routes, List.map_cons, List.map_cons]
  rw [routes] at trace
  rw [trace]
  rfl

end MarkedTable

/-! ### Two cycles -/

/-- What two cycles come to, one over the whole table and one without the marked routes: they end alike, at each
route that both evaluate the same is shown, and at a marked route no more than the match is. -/
structure Spares (R : Renumbering) (extra : Observation → Prop) (limit : Nat) (table : MarkedTable)
    (r q : Router L) : Prop where
  ends : Option.Rel (EndAlike R extra) ((cycle limit table.routes).start r)
    ((cycle limit table.unmarked).start q)
  shows : ((table.turns limit r).filter (!·.2)).map (·.1.showings limit) =
    (turns (cycleTrace limit table.unmarked q)).map (Turn.showings limit)
  marked : ∀ t, (t, true) ∈ table.turns limit r →
    t.showings limit = if t.request.matched then
      (t.before.listenersOf .matched).map (.told · t.event.observation) else []

namespace Spares

variable {route : Route} {rest : MarkedTable} {r r' q q' : Router L}

/-- Before the two cycles, a marked route has its turn in one of them. -/
theorem more (h : Spares R extra limit rest r' q)
    (ended : (evaluate limit route).start r = some (.ok none, r'))
    (shows : Turn.showings limit ⟨route, r⟩ = if (Turn.request ⟨route, r⟩).matched then
      (r.listenersOf .matched).map (.told · (Turn.event ⟨route, r⟩).observation) else []) :
    Spares R extra limit ((route, true) :: rest) r q where
  ends := by
    have goes_on := (cycle_of_evaluate rest.routes ended).1
    change Option.Rel _ ((cycle limit (route :: rest.routes)).start r) _
    rw [goes_on]
    exact h.ends
  shows := by
    rw [MarkedTable.turns_cons ended]
    exact h.shows
  marked t ht := by
    rw [MarkedTable.turns_cons ended] at ht
    obtain here | later := List.mem_cons.1 ht
    · obtain rfl := (Prod.mk.inj here).1
      exact shows
    · exact h.marked t later

/-- Before the two cycles, a route has its turn in both of them. -/
theorem both (h : Spares R extra limit rest r' q')
    (left : (evaluate limit route).start r = some (.ok none, r'))
    (right : (evaluate limit route).start q = some (.ok none, q'))
    (shows : Turn.showings limit ⟨route, q⟩ = Turn.showings limit ⟨route, r⟩) :
    Spares R extra limit ((route, false) :: rest) r q where
  ends := by
    change Option.Rel _ ((cycle limit (route :: rest.routes)).start r)
      ((cycle limit (route :: rest.unmarked)).start q)
    rw [(cycle_of_evaluate rest.routes left).1, (cycle_of_evaluate rest.unmarked right).1]
    exact h.ends
  shows := by
    have trace := (cycle_of_evaluate rest.unmarked right).2
    change _ = (turns (cycleTrace limit (route :: rest.unmarked) q)).map (Turn.showings limit)
    rw [MarkedTable.turns_cons left, trace]
    exact congrArg₂ List.cons shows.symm h.shows
  marked t ht := by
    rw [MarkedTable.turns_cons left] at ht
    obtain here | later := List.mem_cons.1 ht
    · cases (Prod.mk.inj here).2
    · exact h.marked t later

/-- Both cycles are at their end after a route. -/
theorem last (rest : MarkedTable) (left : ∀ r', (evaluate limit route).start r ≠ some (.ok none, r'))
    (right : ∀ q', (evaluate limit route).start q ≠ some (.ok none, q'))
    (ends : Option.Rel (EndAlike R extra) ((evaluate limit route).start r) ((evaluate limit route).start q))
    (shows : Turn.showings limit ⟨route, q⟩ = Turn.showings limit ⟨route, r⟩) :
    Spares R extra limit ((route, false) :: rest) r q where
  ends := by
    change Option.Rel _ ((cycle limit (route :: rest.routes)).start r)
      ((cycle limit (route :: rest.unmarked)).start q)
    rw [(cycle_of_last rest.routes left).1, (cycle_of_last rest.unmarked right).1]
    exact ends
  shows := by
    have trace := (cycle_of_last rest.unmarked right).2
    change _ = (turns (cycleTrace limit (route :: rest.unmarked) q)).map (Turn.showings limit)
    rw [MarkedTable.turns_cons_of_last left, trace]
    exact congrArg (fun shown => [shown]) shows.symm
  marked t ht := by
    rw [MarkedTable.turns_cons_of_last left] at ht
    cases (Prod.mk.inj (List.mem_singleton.1 ht)).2

end Spares

/-- Routes that do not match or are declined make no difference to a cycle. -/
theorem cycle_unmarked (table : MarkedTable) {r q : Router L} (h : r.Alike R extra q)
    (spared : table.Spared limit r) (shown : ∀ t, (t, true) ∈ table.turns limit r →
      t.request.matched = true → extra t.event.observation) :
    ∃ R', Spares R' extra limit table r q := by
  induction table generalizing R r q with
  | nil =>
    refine ⟨R, .some ⟨rfl, h⟩, rfl, fun t ht => ?_⟩
    rw [MarkedTable.turns_nil] at ht
    cases ht
  | cons entry rest ih =>
    obtain ⟨route, mark⟩ := entry
    cases mark with
    | true =>
      -- the route has its turn in the first cycle only, and the second one stands still
      have goes_on {r' : Router L} (ended : (evaluate limit route).start r = some (.ok none, r'))
          (alike : r'.Alike R extra q) : ∃ R', Spares R' extra limit rest r' q := by
        rw [MarkedTable.Spared, MarkedTable.turns_cons ended] at spared
        rw [MarkedTable.turns_cons ended] at shown
        exact ih alike (fun t ht => spared t (List.mem_cons_of_mem _ ht))
          fun t ht => shown t (List.mem_cons_of_mem _ ht)
      have here : ((⟨route, r⟩ : Turn L), true) ∈ MarkedTable.turns limit ((route, true) :: rest) r :=
        List.mem_cons_self ..
      cases hit : (Turn.request ⟨route, r⟩).matched with
      | false =>
        obtain ⟨r', ended, alike, shows⟩ := Turn.after_unmatched (t := ⟨route, r⟩) limit h hit
        obtain ⟨R', spares⟩ := goes_on ended alike
        exact ⟨R', spares.more ended (by rw [shows, if_neg (by simp [hit])])⟩
      | true =>
        have declined : Turn.Declined limit ⟨route, r⟩ :=
          (spared _ here).resolve_left (by simp [hit])
        obtain ⟨r', ended, alike, shows⟩ := declined.after h hit (shown _ here hit)
        obtain ⟨R', spares⟩ := goes_on ended alike
        exact ⟨R', spares.more ended (by rw [shows, if_pos hit])⟩
    | false =>
      -- the route has its turn in both cycles; the chains made for it correspond from then on
      have turn : Turn.Alike R extra ⟨route, r⟩ ⟨route, q⟩ := ⟨rfl, h⟩
      have ends := turn.evaluate limit
      obtain ⟨r', q', left, right, alike⟩ | ⟨left, right⟩ :=
        Option.Rel.both_or_neither (r := Router.Alike _ extra) ends (.ok none)
      · rw [MarkedTable.Spared, MarkedTable.turns_cons left] at spared
        rw [MarkedTable.turns_cons left] at shown
        obtain ⟨R', spares⟩ := ih alike (fun t ht => spared t (List.mem_cons_of_mem _ ht))
          fun t ht => shown t (List.mem_cons_of_mem _ ht)
        exact ⟨R', spares.both left right turn.showings⟩
      · exact ⟨_, .last rest left right ends turn.showings⟩

/-! ## Dispatches -/

namespace Router

/-- The current chain, without its link. -/
def currentChain? (r : Router L) : Option Chain :=
  (r.current.bind r.session.chain?).map Chain.alone

/-- The chain before the current one, without a link. -/
def previousChain? (r : Router L) : Option Chain :=
  ((r.current.bind r.session.previous?).bind r.session.chain?).map Chain.alone

theorem Alike.currentChain? {r q : Router L} (h : r.Alike R extra q) : q.currentChain? = r.currentChain? := by
  have chain := h.current.bind fun _ _ at_ => h.session.chain? at_
  exact (chain.map_eq fun _ _ alike => alike.alone.symm).symm

theorem Alike.previousChain? {r q : Router L} (h : r.Alike R extra q) :
    q.previousChain? = r.previousChain? := by
  have previous := h.current.bind fun _ _ at_ => h.session.previous? at_
  have chain := previous.bind fun _ _ at_ => h.session.chain? at_
  exact (chain.map_eq fun _ _ alike => alike.alone.symm).symm

/-- A dispatch is a cycle if that does not end with a redirect. -/
theorem start_dispatch_of_quiet {r : Router L}
    (quiet : ∀ target r', (cycle limit r.routes).start r ≠ some (.ok (some target), r')) :
    (dispatch limit).start r =
      ((cycle limit r.routes).start r).map fun o => (o.1.map fun _ => (), o.2) := by
  simp only [dispatch, Operation.start_bind, Operation.start_get, Option.bind_some]
  cases ended : (cycle limit r.routes).start r with
  | none => rfl
  | some o =>
    obtain ⟨e | _ | target, q⟩ := o
    · rfl
    · exact Command.start_follow_none limit q
    · exact absurd ended (quiet target q)

end Router

/-- Two dispatches from one router have ended in the same way: with the same result, at the location of before,
with the same current chain and the same chain before it. The first one may have observed more, but only what is
`extra`. -/
structure SameEnd (r : Router L) (extra : Observation → Prop) (o o' : Except RouterError Unit × Router L) :
    Prop where
  result : o'.1 = o.1
  location : o.2.location = r.location ∧ o'.2.location = r.location
  current : o'.2.currentChain? = o.2.currentChain?
  previous : o'.2.previousChain? = o.2.previousChain?
  observations : Spread extra o.2.session.observations o'.2.session.observations

namespace MarkedTable

/-- The router with all the routes of the table. -/
def full (table : MarkedTable) (r : Router L) : Router L :=
  { r with routes := table.routes }

/-- The router without the routes that are marked. -/
def reduced (table : MarkedTable) (r : Router L) : Router L :=
  { r with routes := table.unmarked }

/-- What is told of the matches of marked routes. -/
def Cancelled (limit : Nat) (table : MarkedTable) (r : Router L) (o : Observation) : Prop :=
  ∃ t, (t, true) ∈ table.turns limit r ∧ t.request.matched = true ∧ o = t.event.observation

/-- The marked routes of a table make no difference to a dispatch: it ends in the same way without them, and at
each route that is left the listeners are told the same and the same handlers are called with the same
requests. At a marked route that matches the listeners are told, and no handler is called. -/
structure NoTrace (limit : Nat) (table : MarkedTable) (r : Router L) : Prop where
  ends : Option.Rel (SameEnd r (table.Cancelled limit (table.full r)))
    ((dispatch limit).start (table.full r)) ((dispatch limit).start (table.reduced r))
  shows : ((table.turns limit (table.full r)).filter (!·.2)).map (·.1.showings limit) =
    (Routing.turns (cycleTrace limit table.unmarked (table.reduced r))).map (Turn.showings limit)
  marked : ∀ t, (t, true) ∈ table.turns limit (table.full r) →
    t.showings limit = if t.request.matched then
      (r.listenersOf .matched).map (.told · t.event.observation) else []

end MarkedTable

theorem noTrace_of_spared {r : Router L} (closed : r.Closed) {table : MarkedTable}
    (spared : table.Spared limit (table.full r)) (quiet : ∀ target r',
      (cycle limit table.routes).start (table.full r) ≠ some (.ok (some target), r')) :
    table.NoTrace limit r := by
  have self : r.Alike (Session.upTo r.session.chains.length) (table.Cancelled limit (table.full r)) r :=
    alike_self_iff.2 closed
  have alike : (table.full r).Alike (Session.upTo r.session.chains.length)
      (table.Cancelled limit (table.full r)) (table.reduced r) :=
    ⟨rfl, rfl, rfl, rfl, self.current, self.session⟩
  obtain ⟨R', spares⟩ := cycle_unmarked table alike spared fun t ht hit => ⟨t, ht, hit, rfl⟩
  have ends := spares.ends
  -- a redirect that one cycle ends with, the other one ends with as well
  have quiet' : ∀ target r', (cycle limit table.unmarked).start (table.reduced r) ≠
      some (.ok (some target), r') := by
    intro target q' ended
    obtain ⟨r', -, here, -⟩ | ⟨-, never⟩ :=
      Option.Rel.both_or_neither (r := Router.Alike R' _) ends (.ok (some target))
    · exact quiet target r' here
    · exact never q' ended
  refine ⟨?_, spares.shows, fun t ht => ?_⟩
  · rw [start_dispatch_of_quiet (r := table.full r) quiet,
      start_dispatch_of_quiet (r := table.reduced r) quiet']
    change Option.Rel _ (((cycle limit table.routes).start (table.full r)).map _)
      (((cycle limit table.unmarked).start (table.reduced r)).map _)
    obtain ⟨left, right⟩ | ⟨o, o', left, right, same, alike⟩ := ends.either
    · rw [left, right]
      exact .none
    · have keeps := (part_cycle limit table.routes (table.full r)).keeps left
      have keeps' := (part_cycle limit table.unmarked (table.reduced r)).keeps right
      rw [left, right]
      exact .some ⟨congrArg (Except.map fun _ => ()) same, ⟨keeps.location, keeps'.location⟩, alike.currentChain?,
        alike.previousChain?, alike.session.observations⟩
  · have known : .turn t ∈ cycleTrace limit table.routes (table.full r) :=
      mem_turns.1 (List.of_mem_zip ht).1
    have before := (part_cycle limit table.routes (table.full r)).inside (.turn t) known
    rw [spares.marked t ht, show t.before.listenersOf .matched = r.listenersOf .matched from
      before.listenersOf .matched]

/-- Routes that do not match, and routes that match and are declined, leave no trace in a dispatch without a
redirect, for every router that there can be and every table of routes. -/
theorem cancelled_leave_no_trace (limit : Nat) :
    (∀ options (location : L) library commands r,
      serve limit commands (.hosted options location library) = some r → r.Closed) ∧
    ∀ (r : Router L) (table : MarkedTable), r.Closed → table.Spared limit (table.full r) →
      (∀ target r', (cycle limit table.routes).start (table.full r) ≠ some (.ok (some target), r')) →
      table.NoTrace limit r :=
  ⟨fun options location library _ _ served =>
      closed_of_serve (.hosted options location library) served,
    fun _ _ closed spared quiet => noTrace_of_spared closed spared quiet⟩

/-- A listener that prevents the default of all chains of a route takes three steps when it is told of one, and is
idle at each of them. -/
theorem Machine.runs_canceller {s : Session} {scene : Scene} {id : ChainId} {c : Chain}
    (here : s.sceneChain? scene = some (id, c)) (n : Nat) :
    let m : Machine := ⟨s, [⟨scene, [.whenRoute c.route [.preventDefault]], false⟩], none⟩
    m.run (n + 3) = some ⟨s.modify id Chain.preventDefault, [], none⟩ ∧
      ∀ k ∈ m.course (n + 3), k.Idles id := by
  let s' := s.modify id Chain.preventDefault
  let m₀ : Machine := ⟨s, [⟨scene, [.whenRoute c.route [.preventDefault]], false⟩], none⟩
  let m₁ : Machine := ⟨s, [⟨scene, [.preventDefault], false⟩], none⟩
  let m₂ : Machine := ⟨s', [⟨scene, [], false⟩], none⟩
  have first : m₀.step = m₁ := by
    simp only [m₀, m₁, Machine.step, Machine.take, here, beq_self_eq_true, if_true, List.append_nil]
  have second : m₁.step = m₂ := by
    simp only [m₁, m₂, Machine.step, Machine.take, here]
    rfl
  have third : m₂.step = ⟨s', [], none⟩ := rfl
  constructor
  · change m₀.step.run (n + 2) = _
    rw [first]
    change m₁.step.run (n + 1) = _
    rw [second]
    change m₂.step.run n = _
    rw [third]
    cases n <;> rfl
  · have course : m₀.course (n + 3) = [m₀, m₁, m₂] := by
      change m₀ :: m₀.step.course (n + 2) = _
      rw [first]
      change m₀ :: m₁ :: m₁.step.course (n + 1) = _
      rw [second]
      change m₀ :: m₁ :: m₂ :: m₂.step.course n = _
      rw [third]
      cases n <;> rfl
    intro k hk
    have idle : k = m₀ ∨ k = m₁ ∨ k = m₂ := by
      change k ∈ m₀.course (n + 3) at hk
      rw [course] at hk
      simpa using hk
    obtain rfl | rfl | rfl := idle
    · exact ⟨by rw [first], .inr ⟨rfl, by rw [first]⟩⟩
    · refine ⟨by rw [second], .inl ?_⟩
      simp only [m₁, Machine.nextAct?, Action.act?, here]
      rfl
    · exact ⟨rfl, .inr ⟨rfl, rfl⟩⟩

/-- A listener that prevents the default of all chains of a route declines the route. -/
theorem Turn.declined_of_canceller {t : Turn L} (hit : t.request.matched = true)
    (only : t.before.listenersOf .matched =
      [⟨.matched, [.whenRoute t.route.pattern.source [.preventDefault]]⟩]) (n : Nat) :
    t.Declined (n + 3) := by
  let s := t.opened.observe t.event.observation
  let s' := s.modify t.id Chain.preventDefault
  let scene : Scene := ⟨some t.id, none⟩
  have here : s.sceneChain? scene = some (t.id, t.made.enqueue t.route.handlers) :=
    congrArg (Option.map (t.id, ·)) t.chain?_opened
  obtain ⟨ran, idle⟩ := Machine.runs_canceller here n
  have heard : (Listener.hear (n + 3) t.event
      ⟨.matched, [.whenRoute t.route.pattern.source [.preventDefault]]⟩).start t.opened =
        some (.ok (), s') := by
    have ended : (Session.act (n + 3) t.event.chain?
        [.whenRoute t.route.pattern.source [.preventDefault]]).start s = some (.ok (), s') :=
      congrArg (Option.map Machine.result) ran
    rw [Listener.start_hear]
    exact congrArg (Option.map _) ended
  constructor
  · refine ⟨{ t.before with session := s' }, ?_, ?_⟩
    · rw [heard?, only]
      simp only [Session.tell, List.foldlM_cons, heard]
      rfl
    · rw [admitted]
      change ((s'.chain? t.id).any (·.runsDefault)) = false
      rw [Session.chain?_modify_self, show s.chain? t.id = _ from t.chain?_opened]
      rfl
  · intro m hm
    rw [hearings, if_pos hit, only] at hm
    simp only [Session.tellTrace, heard, Option.elim_some, List.append_nil] at hm
    exact idle m hm

/-- A page that a listener cancels leaves no trace, and the page for all paths is served as if it were alone. -/
theorem cancelled_leave_no_trace_page :
    ∃ p q, Pattern.compile {} (.path "/a") = .ok p ∧ Pattern.compile {} (.path "/:page") = .ok q ∧
      MarkedTable.NoTrace 20 [(⟨p, [], [.note "never"]⟩, true), (⟨q, [], [.note "page"]⟩, false)]
        { location := Location.plain "/" "#/a"
          listeners := [⟨.matched, [.whenRoute "/a" [.preventDefault]]⟩] } := by
  let r : Router := { location := .plain "/" "#/a"
                      listeners := [⟨.matched, [.whenRoute "/a" [.preventDefault]]⟩] }
  let table (p q : CompiledPattern) : MarkedTable :=
    [(⟨p, [], [.note "never"]⟩, true), (⟨q, [], [.note "page"]⟩, false)]
  let goes_on (p q : CompiledPattern) : Bool :=
    ((cycle 20 (table p q).routes).start ((table p q).full r)).all fun o => o.1.toOption.join.isNone
  have facts : (Pattern.compile {} (.path "/a")).toOption.bind (fun p =>
      (Pattern.compile {} (.path "/:page")).toOption.map fun q =>
        (p.source, (p.parse "/a").matched, goes_on p q)) = some ("/a", true, true) := by decide +kernel
  have path : Host.path {} (Location.plain "/" "#/a") = "/a" := by decide +kernel
  obtain ⟨p, hp, facts⟩ := Option.bind_eq_some_iff.1 facts
  obtain ⟨q, hq, facts⟩ := Option.map_eq_some_iff.1 facts
  obtain ⟨source, matched, quiet⟩ : p.source = "/a" ∧ (p.parse "/a").matched = true ∧ goes_on p q = true := by
    simpa using facts
  refine ⟨p, q, Except.eq_ok_of_toOption hp, Except.eq_ok_of_toOption hq, ?_⟩
  refine (cancelled_leave_no_trace 20).2 r (table p q) ⟨⟨?_, nofun, nofun⟩, nofun⟩ ?_ ?_
  · intro id before linked
    rw [Session.previous?_eq_links] at linked
    cases linked
  · intro t ht
    have first : t = ⟨⟨p, [], [.note "never"]⟩, (table p q).full r⟩ := by
      by_cases on : ∃ r', (evaluate 20 ⟨p, [], [.note "never"]⟩).start ((table p q).full r) =
          some (.ok none, r')
      · obtain ⟨r', ended⟩ := on
        rw [MarkedTable.turns_cons ended] at ht
        obtain here | later := List.mem_cons.1 ht
        · exact (Prod.mk.inj here).1
        · exact absurd (List.of_mem_zip later).2 (by simp)
      · rw [MarkedTable.turns_cons_of_last fun r' ended => on ⟨r', ended⟩] at ht
        exact (Prod.mk.inj (List.mem_singleton.1 ht)).1
    have hit : t.request.matched = true := by
      rw [first, Turn.request]
      change (p.parse (Host.path {} (Location.plain "/" "#/a"))).matched = true
      rw [path, matched]
    have only : t.before.listenersOf .matched =
        [⟨.matched, [.whenRoute t.route.pattern.source [.preventDefault]]⟩] := by
      rw [first, source]
      rfl
    exact .inr (Turn.declined_of_canceller hit only 17)
  · intro target r' ended
    simp only [goes_on, ended] at quiet
    cases quiet

end Routing
