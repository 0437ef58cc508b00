import Routing.Proofs.Router.Beside

/-!
# Registrations that are rejected

A route whose pattern is invalid is not registered, and all that is left of the attempt is a look-up of the
cache and a few reports.

* `Pattern.exists_message_of_error`: the error in a pattern names it
* `Command.perform_of_error`: what a rejected registration leaves behind
* `rejected_as_if_not_made`: the router goes on as if there had been no attempt
-/
namespace Routing

open Router

variable {L : Type} [Host L]

/-! ## Invalid patterns -/

theorem Pattern.exists_message_of_error {o : MatchOptions} {p : Pattern} {e : RouterError}
    (invalid : p.compile o = .error e) : ∃ message, e = .invalidPattern p.source message := by
  cases p with
  | regex r => cases invalid
  | path | alternatives =>
    unfold compile at invalid
    dsimp only at invalid
    split at invalid
    · cases invalid
    · cases invalid
      exact ⟨_, rfl⟩

/-! ## Rejected registrations -/

/-- A route that does not join the others, as its pattern is invalid. -/
theorem Router.start_of_error {r : Router L} {x : Operation (Router L) Route} {p : Pattern}
    {middleware : List Handler} {handler : Handler} {e : RouterError} (sound : r.cache.Sound)
    (invalid : p.compile r.options.matching = .error e)
    (enlists : ∃ records, x.start r = some (routeOf p middleware handler r,
      { r with
        session := r.session.report records
        cache := (r.cache.compile r.options.matching p).2
        routes := r.routes ++ (routeOf p middleware handler r).toOption.toList })) :
    ∃ records, x.start r = some (.error e, r.aside (r.session.log ++ records)) := by
  obtain ⟨records, ended⟩ := enlists
  rw [routeOf, PatternCache.compile_of_error sound invalid] at ended
  refine ⟨records, ended.trans ?_⟩
  simp [Except.map, Except.toOption, aside, Session.report]

namespace Command

variable {r : Router L} {e : RouterError}

/-- If no route joins the others, none has its turn. -/
theorem perform_of_enlist (limit : Nat) (c : Command L) {x : Operation (Router L) Route} {log : List Log.Record}
    (own : c.own limit = do evaluate limit (← x))
    (trace : c.ownTrace limit r = x.thereafter (fun route r => [.turn ⟨route, r⟩]) r)
    (ended : x.start r = some (.error e, r.aside log)) :
    c.trace limit r = [] ∧ (c.perform limit).start r = some (.error e, r.aside log) := by
  have failed : (c.own limit).start r = some (.error e, r.aside log) := by
    rw [own, Operation.start_bind, ended]
    rfl
  constructor
  · rw [Command.trace, Command.legs, trace, Operation.thereafter, Operation.thereafter, ended, failed]
    rfl
  · rw [start_perform, Operation.start_bind, failed]
    rfl

/-- A registration with an invalid pattern fails with its error. The router has one look-up and a few reports
more, and neither a listener nor a handler took part. -/
theorem perform_of_error (limit : Nat) (sound : r.cache.Sound) {c : Command L} {p : Pattern}
    {middleware : List Handler} {handler : Handler} (registers : c.enlists? = some (p, middleware, handler))
    (invalid : p.compile r.options.matching = .error e) :
    c.trace limit r = [] ∧
      ∃ records, (c.perform limit).start r = some (.error e, r.aside (r.session.log ++ records)) := by
  cases c with
  | register p' middleware' handler' =>
    cases registers
    obtain ⟨records, ended⟩ := start_of_error sound invalid (start_enlist p middleware handler r)
    obtain ⟨trace, performed⟩ := perform_of_enlist limit (.register p middleware handler) rfl rfl ended
    exact ⟨trace, records, performed⟩
  | registerIn scope value middleware' handler' =>
    cases registers
    obtain ⟨records, ended⟩ := start_of_error sound invalid (start_enlistIn scope value middleware' handler r)
    obtain ⟨trace, performed⟩ :=
      perform_of_enlist limit (.registerIn scope value middleware' handler) rfl rfl ended
    exact ⟨trace, records, performed⟩
  | _ => cases registers

end Command

/-- In every router that there can be, a registration with an invalid pattern fails with an error that names the
pattern, and changes nothing but the log and the number of look-ups in vain. Whatever is asked of the router
afterwards ends as it would have without the attempt, and leaves it as it would be but for these two. -/
theorem rejected_as_if_not_made (limit : Nat) :
    (∀ options (location : L) library commands r,
      serve limit commands (.hosted options location library) = some r → r.Closed ∧ r.cache.Sound) ∧
    (∀ p handler, Router.add limit p handler = (Command.register p [] handler : Command L).perform limit) ∧
    ∀ (r : Router L) (c : Command L) (p : Pattern) (middleware : List Handler) (handler : Handler)
      (e : RouterError), r.Closed → r.cache.Sound → c.enlists? = some (p, middleware, handler) →
      p.compile r.options.matching = .error e →
        (∃ message, e = .invalidPattern p.source message) ∧ c.trace limit r = [] ∧
        ∃ log, (c.perform limit).start r = some (.error e, r.aside log) ∧
          ∀ later : List (Command L),
            Option.Rel (fun o o' => o'.1 = o.1 ∧ ∃ log, o'.2 = o.2.aside log) (answers limit later r)
              (answers limit later (r.aside log)) := by
  refine ⟨fun options location library _ _ served =>
    ⟨closed_of_serve (.hosted options location library) served,
      sound_of_serve (PatternCache.sound_withCapacity _) served⟩, fun _ _ => rfl, ?_⟩
  intro r c p middleware handler e closed sound registers invalid
  obtain ⟨trace, records, performed⟩ := c.perform_of_error limit sound registers invalid
  refine ⟨Pattern.exists_message_of_error invalid, trace, _, performed, fun later => ?_⟩
  have beside : r.Beside (r.aside (r.session.log ++ records)) := ⟨closed, _, rfl⟩
  exact (beside.answers limit later).imp fun _ _ both => ⟨both.1, both.2.same⟩

/-- A page is registered and has been served when a registration fails, as a group is not closed. The page is served
again and another one is registered as if that had not been tried. -/
theorem rejected_as_if_not_made_group :
    ∃ r : Router,
      serve 20 [.register (.path "/a") [[.note "middleware", .next]] [.note "page"],
          .change (.setPath "/a"), .dispatch] (.created {} (.memory (.opened "/")) []) = some r ∧
      (r.routes.length, r.current, r.cache.entries.keys.map (·.text)) = (1, some 0, ["/a"]) ∧
      ∃ (message : String) (log : List Log.Record),
        ((Command.register (.path "/b(") [] []).perform 20).start r =
          some (.error (.invalidPattern "/b(" message), r.aside log) ∧
        (answers 20 [.navigate "/a/", .register (.path "/:other") [] [.note "other"]] (r.aside log)).map
            (fun o => (o.1.map (·.isOk), o.2.routes.length, o.2.session.observations)) =
          some ([true, true], 2, [.note "middleware", .note "page", .note "middleware", .note "page",
            .note "other"]) := by
  have facts : (serve 20 [.register (.path "/a") [[.note "middleware", .next]] [.note "page"],
        .change (.setPath "/a"), .dispatch] (.created {} (.memory (.opened "/")) [])).map (fun r =>
      ((r.routes.length, r.current, r.cache.entries.keys.map (·.text)),
        ((Pattern.path "/b(").compile r.options.matching).isOk)) = some ((1, some 0, ["/a"]), false) := by
    decide +kernel
  obtain ⟨r, served, facts⟩ := Option.map_eq_some_iff.1 facts
  obtain ⟨state, refused⟩ := Prod.mk.inj facts
  have next : (serve 20 [.register (.path "/a") [[.note "middleware", .next]] [.note "page"],
        .change (.setPath "/a"), .dispatch] (.created {} (.memory (.opened "/")) [])).map (fun r =>
      (answers 20 [.navigate "/a/", .register (.path "/:other") [] [.note "other"]] r).map fun o =>
        (o.1.map (·.isOk), o.2.routes.length, o.2.session.observations)) =
      some (some ([true, true], 2, [.note "middleware", .note "page", .note "middleware", .note "page",
        .note "other"])) := by decide +kernel
  rw [served, Option.map_some, Option.some_inj] at next
  obtain ⟨closed, sound⟩ := (rejected_as_if_not_made 20).1 {} (Location.memory (.opened "/")) [] _ r served
  refine ⟨r, served, state, ?_⟩
  cases invalid : (Pattern.path "/b(").compile r.options.matching with
  | ok c =>
    rw [invalid] at refused
    cases refused
  | error e =>
    obtain ⟨⟨message, rfl⟩, -, log, performed, later⟩ :=
      (rejected_as_if_not_made 20).2.2 r (.register (.path "/b(") [] []) _ _ _ e closed sound rfl invalid
    refine ⟨message, log, performed, ?_⟩
    rw [← next]
    refine ((later _).map_eq fun o o' both => ?_).symm
    obtain ⟨results, log', same⟩ := both
    rw [results, same]
    rfl

end Routing
