import Routing.Proofs.Cache.Recency
import Routing.Proofs.Router.Registering

/-!
# Routers side by side

Two routers that differ in nothing but what they reported and in one look-up of their caches: whatever both are
asked from then on, they answer alike, and go on to differ in nothing else.

* `Operation.Respects`: an operation that ends alike from states that are related
* `Router.Beside`: routers that differ in one look-up and in their logs
* `Command.respects_perform`: every command ends alike at both
* `answers`, `Router.Beside.answers`: any series of commands
-/
namespace Routing

variable {L : Type} [Host L]

/-! ## Operations on related states -/

namespace Operation

variable {σ α β : Type} {rel : σ → σ → Prop}

/-- From states that are related, the operation ends in the same way, and in states that are related. -/
def Respects (rel : σ → σ → Prop) (x : Operation σ α) : Prop :=
  ∀ ⦃s t⦄, rel s t → Option.Rel (fun o o' => o'.1 = o.1 ∧ rel o.2 o'.2) (x.start s) (x.start t)

namespace Respects

theorem pure (a : α) : Respects rel (Pure.pure a : Operation σ α) :=
  fun _ _ h => .some ⟨rfl, h⟩

theorem bind {x : Operation σ α} {f : α → Operation σ β} (h : Respects rel x)
    (later : ∀ a, Respects rel (f a)) : Respects rel (x >>= f) := by
  intro s t related
  rw [start_bind, start_bind]
  refine (h related).bind fun o o' both => ?_
  obtain ⟨_, s'⟩ := o
  obtain ⟨result, t'⟩ := o'
  obtain ⟨rfl, related'⟩ := both
  cases result with
  | ok a => exact later a related'
  | error e => exact .some ⟨rfl, related'⟩

/-- What is read of the state is the same in both. -/
theorem get_bind {f : σ → Operation σ β} (same : ∀ {s t}, rel s t → f t = f s)
    (later : ∀ s, Respects rel (f s)) : Respects rel (get >>= f) := by
  intro s t related
  simp only [start_bind, start_get, Option.bind_some, same related]
  exact later s related

theorem modify {f : σ → σ} (h : ∀ {s t}, rel s t → rel (f s) (f t)) :
    Respects rel (modify f : Operation σ Unit) :=
  fun _ _ related => .some ⟨rfl, h related⟩

theorem ensuring {x : Operation σ α} {f : σ → σ} (h : Respects rel x)
    (change : ∀ {s t}, rel s t → rel (f s) (f t)) : Respects rel (x.ensuring f) := by
  intro s t related
  rw [start_ensuring, start_ensuring]
  exact (h related).map fun _ _ both => ⟨both.1, change both.2⟩

end Respects

end Operation

/-! ## One look-up more -/

namespace PatternCache

/-- A look-up in vain makes no difference to a later one. -/
theorem compile_missed (c : PatternCache) (o : MatchOptions) (p : Pattern) :
    c.missed.compile o p = ((c.compile o p).1, (c.compile o p).2.missed) := by
  unfold compile
  cases p.cacheKey? o with
  | none => rfl
  | some key =>
    simp only [missed]
    cases c.entries.get? key with
    | some found => rfl
    | none =>
      simp only
      cases p.compile o <;> rfl

end PatternCache

/-- The router with another log, whose cache was asked once more. -/
def Router.aside (r : Router L) (log : List Log.Record) : Router L :=
  { r with session := { r.session with log }, cache := r.cache.missed }

/-- The second router differs in its log, and its cache was asked once more. -/
structure Router.Beside (r q : Router L) : Prop where
  closed : r.Closed
  same : ∃ log, q = r.aside log

namespace Router.Beside

variable {r q : Router L}

theorem twins (h : r.Beside q) : r.Twins q := by
  obtain ⟨closed, log, rfl⟩ := h
  obtain ⟨options, location, globals, listeners, current, session⟩ := (twins_self_iff.2 closed).alike
  exact ⟨⟨options, location, globals, listeners, current, session.unique, session.chains, session.parked,
    session.handles, session.library, session.counters, session.observations⟩, rfl⟩

/-- Twins with the same routes, of which one had its cache asked once more. -/
theorem of_twins (closed : r.Closed) (h : r.Twins q) (routes : q.routes = r.routes)
    (redirectDepth : q.redirectDepth = r.redirectDepth) (cache : q.cache = r.cache.missed) : r.Beside q := by
  obtain ⟨⟨options, location, globals, listeners, current, session⟩, length⟩ := h
  have twins : Router.Twins { r with cache := r.cache.missed } q :=
    ⟨⟨options, location, globals, listeners, current, session⟩, length⟩
  exact ⟨closed, _, twins.eq routes redirectDepth cache⟩

/-- Sessions that are alike, with no more chains than before. -/
theorem with_session (h : r.Beside q) {s t : Session}
    (alike : s.Alike (Session.upTo r.session.chains.length) (fun _ => False) t) (closed : s.Closed)
    (left : s.chains.length = r.session.chains.length) (right : t.chains.length = q.session.chains.length) :
    Router.Beside { r with session := s } { q with session := t } := by
  have length := right.trans (h.twins.length.trans left.symm)
  have same := Session.Alike.eq_of_length (left.symm ▸ alike) length
  obtain ⟨closed', log, rfl⟩ := h
  refine ⟨closed'.of_session rfl closed left, t.log, ?_⟩
  rw [same]
  rfl

end Router.Beside

/-! ## What is asked of both -/

namespace Router

open Operation

/-- A change that touches no chain, and looks neither at the log nor at the counters of the cache. -/
structure Blind (f : Router L → Router L) : Prop where
  current : ∀ r, (f r).current = r.current
  session : ∀ r, (f r).session = r.session
  aside : ∀ r log, f (r.aside log) = (f r).aside log

theorem Blind.change {f : Router L → Router L} (blind : Blind f) {r q : Router L} (h : r.Beside q) :
    (f r).Beside (f q) := by
  obtain ⟨closed, log, rfl⟩ := h
  have session := blind.session r
  refine ⟨closed.of_session (blind.current r) ?_ (by rw [session]), log, blind.aside r log⟩
  rw [session]
  exact closed.session

theorem respects_modify {f : Router L → Router L} (blind : Blind f) : Respects Beside (modify f) :=
  .modify blind.change

theorem respects_ensuring {α : Type} {x : Operation (Router L) α} {f : Router L → Router L} (h : Respects Beside x)
    (blind : Blind f) : Respects Beside (x.ensuring f) :=
  h.ensuring blind.change

/-- What is read of the router is neither its log nor a counter of its cache. -/
theorem respects_get {α : Type} {f : Router L → Operation (Router L) α} (blind : ∀ r log, f (r.aside log) = f r)
    (later : ∀ r, Respects Beside (f r)) : Respects Beside (get >>= f) := by
  refine .get_bind (fun h => ?_) later
  obtain ⟨-, log, rfl⟩ := h
  exact blind _ log

theorem respects_report (records : List Log.Record) : Respects (Beside (L := L)) (report records) :=
  .modify fun h => by
    obtain ⟨closed, log, rfl⟩ := h
    exact ⟨closed.of_session rfl (closed.session.report _) rfl, log ++ records, rfl⟩

variable (limit : Nat)

theorem respects_evaluate (route : Route) : Respects (Beside (L := L)) (evaluate limit route) := by
  intro r q h
  have both := h.twins.evaluate limit route
  obtain ⟨left, right⟩ | ⟨⟨out, r'⟩, ⟨_, q'⟩, left, right, rfl, twins⟩ := both.either
  · rw [left, right]
    exact .none
  · let t : Turn L := ⟨route, r⟩
    let u : Turn L := ⟨route, q⟩
    have keeps := (Turn.keeps_and_grown (t := t) left).1
    have keeps' := (Turn.keeps_and_grown (t := u) right).1
    have closed := Closed.evaluate (t := t) h.closed left
    obtain ⟨-, log, rfl⟩ := h
    rw [left, right]
    refine .some ⟨rfl, .of_twins closed twins ?_ ?_ ?_⟩
    · exact keeps'.routes.trans keeps.routes.symm
    · exact keeps'.redirectDepth.trans keeps.redirectDepth.symm
    · exact keeps'.cache.trans (congrArg PatternCache.missed keeps.cache.symm)

theorem respects_cycle (routes : List Route) : Respects (Beside (L := L)) (cycle limit routes) := by
  induction routes with
  | nil => exact .pure none
  | cons route rest ih =>
    refine (respects_evaluate limit route).bind fun asked => ?_
    cases asked with
    | none => exact ih
    | some target => exact .pure (some target)

theorem respects_announce {e : Event} (about_none : e.chain? = none) :
    Respects (Beside (L := L)) (announce limit e) := by
  intro r q h
  rw [start_announce, start_announce, h.twins.alike.listenersOf]
  have told := h.twins.alike.session.tell (e := e) limit rfl (by rw [about_none]; exact .none)
    (r.listenersOf e.kind)
  obtain ⟨left, right⟩ | ⟨s, t, left, right, alike⟩ := told.either
  · rw [left, right]
    exact .none
  · rw [left, right]
    exact .some ⟨rfl, h.with_session alike (h.closed.session.tell about_none left)
      (Session.tell_aged left).length (Session.tell_aged right).length⟩

theorem respects_raise (kind : EventKind) : Respects (Beside (L := L)) (raise limit kind) := by
  refine respects_get (fun _ _ => rfl) fun r => ?_
  refine (respects_announce limit rfl).bind fun _ => ?_
  refine respects_get (fun _ _ => rfl) fun r => ?_
  split
  · exact respects_cycle limit r.routes
  · exact .pure none

theorem respects_visit (path : String) : Respects (Beside (L := L)) (visit limit path) := by
  refine (respects_report _).bind fun _ => ?_
  refine .bind (respects_modify ?_) fun _ => ?_
  · exact ⟨fun _ => rfl, fun _ => rfl, fun _ _ => rfl⟩
  refine (respects_raise limit .navigate).bind fun asked => ?_
  refine respects_get (fun _ _ => rfl) fun r => ?_
  split
  · exact .pure asked
  · exact respects_raise limit .hashChange

theorem respects_followWithin (budget : Nat) (asked : Option String) :
    Respects (Beside (L := L)) (followWithin limit budget asked) := by
  induction budget generalizing asked with
  | zero =>
    cases asked with
    | none => exact .pure ()
    | some target => exact respects_get (fun _ _ => rfl) fun r => respects_report _
  | succ budget ih =>
    cases asked with
    | none => exact .pure ()
    | some target =>
      refine respects_get (fun _ _ => rfl) fun r => (respects_report _).bind fun _ => ?_
      refine .bind (respects_modify ?_) fun _ => ?_
      · exact ⟨fun _ => rfl, fun _ => rfl, fun _ _ => rfl⟩
      refine respects_ensuring ((respects_visit limit target).bind ih) ?_
      exact ⟨fun _ => rfl, fun _ => rfl, fun _ _ => rfl⟩

theorem respects_follow (asked : Option String) : Respects (Beside (L := L)) (follow limit asked) :=
  respects_get (fun _ _ => rfl) fun _ => respects_followWithin limit _ asked

theorem respects_compile (p : Pattern) : Respects (Beside (L := L)) (compile p) := by
  intro r q h
  obtain ⟨closed, log, rfl⟩ := h
  rw [start_compile, start_compile]
  have cache : (r.aside log).cache.compile (r.aside log).options.matching p =
      ((r.cache.compile r.options.matching p).1, (r.cache.compile r.options.matching p).2.missed) :=
    PatternCache.compile_missed r.cache r.options.matching p
  rw [cache]
  exact .some ⟨rfl, closed.of_session rfl (closed.session.report _) rfl, _, rfl⟩

theorem respects_register (p : Pattern) (middleware : List Handler) (handler : Handler) :
    Respects (Beside (L := L)) (register limit p middleware handler) := by
  refine (respects_compile p).bind fun compiled => (respects_report _).bind fun _ => ?_
  refine .bind (respects_modify ?_) fun _ => ?_
  · exact ⟨fun _ => rfl, fun _ => rfl, fun _ _ => rfl⟩
  exact (respects_evaluate limit _).bind (respects_follow limit)

theorem respects_act (chain : Option ChainId) (actions : List Action) :
    Respects (Beside (L := L)) (inSession (Session.act limit chain actions)) := by
  intro r q h
  have acts {chain : Option ChainId} (known : Option.Rel (Session.upTo r.session.chains.length) chain chain) :
      Option.Rel (fun o o' => o'.1 = o.1 ∧ o.2.Beside o'.2)
        ((inSession (Session.act limit chain actions)).start r)
        ((inSession (Session.act limit chain actions)).start q) := by
    have both : Option.Rel (fun o o' => o'.1 = o.1 ∧
          o.2.Alike (Session.upTo r.session.chains.length) (fun _ => False) o'.2)
        ((Session.act limit chain actions).start r.session)
        ((Session.act limit chain actions).start q.session) :=
      Session.running_alike ⟨h.twins.alike.session, .cons ⟨⟨known, .none⟩, rfl, rfl⟩ .nil, rfl⟩
    simp only [inSession, start_within]
    obtain ⟨left, right⟩ | ⟨⟨result, s⟩, ⟨_, t⟩, left, right, rfl, alike⟩ := both.either
    · rw [left, right]
      exact .none
    · rw [left, right]
      exact .some ⟨rfl, h.with_session alike (h.closed.session.act left) (Session.act_aged left).length
        (Session.act_aged right).length⟩
  cases chain with
  | none => exact acts .none
  | some id =>
    by_cases there : id < r.session.chains.length
    · exact acts (.some ⟨rfl, there⟩)
    · -- actions about a chain that is in neither are actions about none
      have beyond := Nat.le_of_not_lt there
      have missing : r.session.chain? id = none := List.getElem?_eq_none beyond
      have missing' : q.session.chain? id = none := List.getElem?_eq_none (h.twins.length ▸ beyond)
      have none_ := acts Option.Rel.none
      simp only [inSession, start_within] at none_ ⊢
      rwa [Session.act_missing missing, Session.act_missing missing']

end Router

open Operation Router

theorem Change.respects_apply (c : Change L) : Respects Beside (modify c.apply) := by
  refine respects_modify ⟨fun _ => ?_, fun _ => ?_, fun _ _ => ?_⟩ <;> cases c <;> rfl

/-- Every command ends alike at both. -/
theorem Command.respects_perform (limit : Nat) (c : Command L) : Respects Beside (c.perform limit) := by
  have emits (kind : EventKind) : Respects (Beside (L := L)) (Router.emit limit kind) := by
    cases kind with
    | matched => exact respects_report _
    | navigate | hashChange => exact (respects_raise limit _).bind (respects_follow limit)
  cases c with
  | register p middleware handler => exact respects_register limit p middleware handler
  | registerIn scope value middleware handler =>
    exact (respects_report _).bind fun _ => respects_register limit _ _ handler
  | navigate path => exact (respects_visit limit path).bind (respects_follow limit)
  | dispatch =>
    exact respects_get (fun _ _ => rfl) fun r => (respects_cycle limit r.routes).bind (respects_follow limit)
  | emit kind => exact emits kind
  | handleChange signal => exact (respects_report _).bind fun _ => emits signal.kind
  | act chain actions => exact respects_act limit chain actions
  | change c => exact c.respects_apply

/-! ## Series of commands -/

/-- How a series of commands ends, one by one, and the router after it; `none` if one does not end. -/
def answers (limit : Nat) : List (Command L) → Router L → Option (List (Except RouterError Unit) × Router L)
  | [], r => some ([], r)
  | c :: rest, r => ((c.perform limit).start r).bind fun o =>
      (answers limit rest o.2).map fun later => (o.1 :: later.1, later.2)

theorem serve_eq_answers (limit : Nat) (commands : List (Command L)) (r : Router L) :
    serve limit commands r = (answers limit commands r).map Prod.snd := by
  induction commands generalizing r with
  | nil => rfl
  | cons c rest ih =>
    simp only [serve, answers, ih, Option.map_bind, Function.comp_def, Option.map_map]

/-- Any series of commands ends alike at both, command by command. -/
theorem Router.Beside.answers {r q : Router L} (h : r.Beside q) (limit : Nat) (commands : List (Command L)) :
    Option.Rel (fun o o' => o'.1 = o.1 ∧ o.2.Beside o'.2) (Routing.answers limit commands r)
      (Routing.answers limit commands q) := by
  induction commands generalizing r q with
  | nil => exact .some ⟨rfl, h⟩
  | cons c rest ih =>
    refine (c.respects_perform limit h).bind fun o o' first => ?_
    exact (ih first.2).map fun _ _ later => ⟨congrArg₂ _ first.1 later.1, later.2⟩

end Routing
