import Routing.Proofs.Cache.Transparency
import Routing.Proofs.Router.Commands
import Routing.Proofs.Router.Turns

/-!
# Traces

What a router does at a command is a series of occasions, at which handlers and listeners take part. Each
occasion starts where the one before it ended.

* `Occasion`: a route has its turn, listeners are told of a change, or someone acts from outside
* `Command.ownTrace`, `Command.legs`, `Command.trace`: the occasions of a command, redirect by redirect
* `Passage`: a series of occasions that lead from one to the next
* `Tracks.perform`, `passage_serve`: what a router does is such a series
-/
namespace Routing

open Router

variable {L : Type} [Host L]

/-- Listeners are told of a change of the path. -/
def Router.tellChange (limit : Nat) (kind : EventKind) : Operation (Router L) Unit := do
  announce limit (.changed kind (← get).path)

theorem Router.start_tellChange (limit : Nat) (kind : EventKind) (r : Router L) :
    (tellChange limit kind).start r =
      (r.session.tell limit (.changed kind r.path) (r.listenersOf kind)).map fun s =>
        (.ok (), { r with session := s }) := by
  simp only [tellChange, Operation.start_bind, Operation.start_get, Option.bind_some, start_announce]
  rfl

theorem Router.raise_eq (limit : Nat) (kind : EventKind) : raise limit kind = (do
    tellChange limit kind
    let r : Router L ← get
    if kind.starts r.options.trigger then cycle limit r.routes else return none) := by
  simp only [raise, tellChange, bind_assoc]

/-- What handlers and listeners take part in, with the router before it. -/
inductive Occasion (L : Type) [Host L] where
  | turn (t : Turn L)
  /-- Listeners are told of a change. -/
  | change (kind : EventKind) (before : Router L)
  /-- Someone acts from outside. -/
  | act (chain : Option ChainId) (actions : List Action) (before : Router L)

namespace Occasion

def before : Occasion L → Router L
  | turn t => t.before
  | change _ r => r
  | act _ _ r => r

/-- The router after it; `none` if it does not end. -/
def after? (limit : Nat) : Occasion L → Option (Router L)
  | turn t => ((evaluate limit t.route).start t.before).map Prod.snd
  | change kind r => ((tellChange limit kind).start r).map Prod.snd
  | act chain actions r => ((inSession (Session.act limit chain actions)).start r).map Prod.snd

def turn? : Occasion L → Option (Turn L)
  | turn t => some t
  | _ => none

def entrance? (limit : Nat) (o : Occasion L) : Option (Entrance L) :=
  o.turn?.bind (·.entrance? limit)

end Occasion

/-- A redirect that is followed, and the router before its target is visited. -/
structure Leg (L : Type) [Host L] where
  target : String
  before : Router L

namespace Router

/-! ## Occasions in order -/

def cycleTrace (limit : Nat) : List Route → Router L → List (Occasion L)
  | [], _ => []
  | route :: rest, r =>
    .turn ⟨route, r⟩ :: (evaluate limit route).thereafter (fun
      | some _ => fun _ => []
      | none => cycleTrace limit rest) r

def raiseTrace (limit : Nat) (kind : EventKind) (r : Router L) : List (Occasion L) :=
  .change kind r :: (tellChange limit kind).thereafter (fun _ r =>
    if kind.starts r.options.trigger then cycleTrace limit r.routes r else []) r

/-- The router that goes to a path, before anyone is told. -/
def sent (r : Router L) (path : String) : Router L :=
  { r with session := r.session.report [Log.debug ("Navigating to '" ++ path ++ "'")] }.setPath path

def visitTrace (limit : Nat) (path : String) (r : Router L) : List (Occasion L) :=
  raiseTrace limit .navigate (r.sent path) ++
    (raise limit .navigate).thereafter (fun _ r =>
      match r.options.trigger with
      | .navigate => []
      | .hashChange => raiseTrace limit .hashChange r) (r.sent path)

theorem sent_eq (r : Router L) (path : String) : r.sent path =
    { r with session := r.session.report [Log.debug ("Navigating to '" ++ path ++ "'")] }.setPath path :=
  rfl

/-- The router that took note of a signal. -/
def signalled (r : Router L) (signal : Signal) : Router L :=
  { r with session := r.session.report [Log.trace ("Navigation signal " ++ signal.describe)] }

/-- The router that follows a redirect, before it goes to the path. -/
def redirected (r : Router L) (target : String) : Router L :=
  { r with
    session := r.session.report
      [Log.debug ("Redirecting from '" ++ r.path ++ "' to '" ++ target ++ "'")]
    redirectDepth := r.redirectDepth + 1 }

/-- The redirects that are followed, one from another. -/
def legsWithin (limit : Nat) : Nat → Option String → Router L → List (Leg L)
  | _, none, _ => []
  | 0, some _, _ => []
  | budget + 1, some target, r =>
    ⟨target, r.redirected target⟩ ::
      (visit limit target).thereafter (legsWithin limit budget) (r.redirected target)

def legs (limit : Nat) (asked : Option String) (r : Router L) : List (Leg L) :=
  legsWithin limit (maxRedirectDepth - r.redirectDepth) asked r

theorem legs_none (limit : Nat) (r : Router L) : legs limit none r = [] := by
  unfold legs
  cases maxRedirectDepth - r.redirectDepth <;> simp [legsWithin]

end Router

def Leg.trace (limit : Nat) (l : Leg L) : List (Occasion L) :=
  visitTrace limit l.target l.before

namespace Command

def ownTrace (limit : Nat) : Command L → Router L → List (Occasion L)
  | register p middleware h, r =>
    (enlist p middleware h).thereafter (fun route r => [.turn ⟨route, r⟩]) r
  | registerIn scope value middleware h, r =>
    (enlistIn scope value middleware h).thereafter (fun route r => [.turn ⟨route, r⟩]) r
  | navigate path, r => visitTrace limit path r
  | dispatch, r => cycleTrace limit r.routes r
  | emit .matched, _ => []
  | emit kind, r => raiseTrace limit kind r
  | handleChange signal, r => raiseTrace limit signal.kind (r.signalled signal)
  | act chain actions, r => [.act chain actions r]
  | change _, _ => []

def legs (limit : Nat) (c : Command L) (r : Router L) : List (Leg L) :=
  (c.own limit).thereafter (Router.legs limit) r

def trace (limit : Nat) (c : Command L) (r : Router L) : List (Occasion L) :=
  c.ownTrace limit r ++ (c.legs limit r).flatMap (Leg.trace limit)

/-- If the own part of a command ends well and asks for no redirect, it is all that there is. -/
theorem perform_of_quiet {limit : Nat} {c : Command L} {r r' : Router L}
    (ended : (c.own limit).start r = some (.ok none, r')) :
    (c.perform limit).start r = some (.ok (), r') ∧ c.trace limit r = c.ownTrace limit r := by
  constructor
  · rw [start_perform, Operation.start_bind, ended]
    exact start_follow_none limit r'
  · rw [trace, legs, Operation.thereafter, ended]
    simp only [legs_none, List.flatMap_nil, List.append_nil]

end Command

def serveTrace (limit : Nat) : List (Command L) → Router L → List (Occasion L)
  | [], _ => []
  | c :: rest, r =>
    c.trace limit r ++ ((c.perform limit).start r).elim [] fun o => serveTrace limit rest o.2

theorem serveTrace_append (limit : Nat) (first second : List (Command L)) (r : Router L) :
    serveTrace limit (first ++ second) r =
      serveTrace limit first r ++ (serve limit first r).elim [] (serveTrace limit second) := by
  induction first generalizing r with
  | nil => rfl
  | cons c rest ih =>
    simp only [List.cons_append, serveTrace, serve, List.append_assoc]
    cases (c.perform limit).start r with
    | none => simp
    | some o => simp [ih]

/-! ## One occasion after another -/

/-- Nothing happened to the session but that reports were made, and patterns may have been compiled. -/
structure Router.Rests (r r' : Router L) : Prop where
  current : r'.current = r.current
  session : ∃ records, r'.session = r.session.report records
  cache : r.cache.Sound → r'.cache.Sound

namespace Router.Rests

theorem of_report {r r' : Router L} (records : List Log.Record) (current : r'.current = r.current)
    (session : r'.session = r.session.report records) (cache : r'.cache = r.cache) : r.Rests r' :=
  ⟨current, ⟨records, session⟩, fun sound => cache ▸ sound⟩

theorem of_session {r r' : Router L} (current : r'.current = r.current) (session : r'.session = r.session)
    (cache : r'.cache = r.cache) : r.Rests r' :=
  .of_report [] current (by rw [session, Session.report_nil]) cache

theorem refl (r : Router L) : r.Rests r :=
  .of_session rfl rfl rfl

theorem trans {a b c : Router L} (h : a.Rests b) (k : b.Rests c) : a.Rests c := by
  obtain ⟨first, early⟩ := h.session
  obtain ⟨second, late⟩ := k.session
  refine ⟨k.current.trans h.current, ⟨first ++ second, ?_⟩, fun sound => k.cache (h.cache sound)⟩
  rw [late, early, Session.report_append]

theorem aged {r r' : Router L} (h : r.Rests r') : r.session.Aged r'.session := by
  obtain ⟨records, same⟩ := h.session
  rw [same]
  exact (Session.Aged.refl _).report records

end Router.Rests

theorem Change.rests (c : Change L) (r : Router L) : r.Rests (c.apply r) := by
  cases c <;> exact .of_session rfl rfl rfl

namespace Occasion

variable {limit : Nat} {o : Occasion L}

theorem exists_turn_of_entrance? {e : Entrance L} (h : o.entrance? limit = some e) :
    ∃ t, o = turn t ∧ t.entrance? limit = some e := by
  obtain ⟨t, ht, entered⟩ := Option.bind_eq_some_iff.1 h
  cases o with
  | turn t' => exact ⟨t', rfl, by rwa [← Option.some.inj ht] at entered⟩
  | change | act => cases ht

/-- A chain that is entered was made at the occasion. -/
theorem entrance_facts {e : Entrance L} (h : o.entrance? limit = some e) :
    e.id = o.before.session.chains.length ∧ o.before.session.Grown e.moment.session ∧
      ∃ c, e.moment.session.chain? e.id = some c := by
  obtain ⟨t, rfl, entered⟩ := exists_turn_of_entrance? h
  obtain ⟨id, -, -, aged⟩ := Turn.entrance_facts entered
  obtain ⟨c, hc, -⟩ := aged.grown t.id _ t.chain?_opened
  exact ⟨id, t.grown_opened.trans aged.grown, c, id ▸ hc⟩

theorem after_turn {t : Turn L} {r' : Router L} (h : (turn t).after? limit = some r') :
    ∃ out, (evaluate limit t.route).start t.before = some (out, r') := by
  obtain ⟨⟨out, r''⟩, ended, rfl⟩ := Option.map_eq_some_iff.1 h
  exact ⟨out, ended⟩

theorem after_change {kind : EventKind} {r r' : Router L} (h : (change kind r).after? limit = some r') :
    ∃ s, r.session.tell limit (.changed kind r.path) (r.listenersOf kind) = some s ∧
      r' = { r with session := s } := by
  obtain ⟨⟨out, r''⟩, ended, rfl⟩ := Option.map_eq_some_iff.1 h
  rw [start_tellChange] at ended
  obtain ⟨s, told, same⟩ := Option.map_eq_some_iff.1 ended
  exact ⟨s, told, (Prod.mk.inj same).2.symm⟩

theorem after_act {chain : Option ChainId} {actions : List Action} {r r' : Router L}
    (h : (act chain actions r).after? limit = some r') :
    ∃ result s, (Session.act limit chain actions).start r.session = some (result, s) ∧
      r' = { r with session := s } := by
  obtain ⟨⟨out, r''⟩, ended, rfl⟩ := Option.map_eq_some_iff.1 h
  obtain ⟨⟨result, s⟩, acted, same⟩ := Option.map_eq_some_iff.1 ended
  exact ⟨result, s, acted, (Prod.mk.inj same).2.symm⟩

/-- If no chain is entered, the current chain stays. -/
theorem after_of_no_entrance {r' : Router L} (h : o.entrance? limit = none)
    (after : o.after? limit = some r') :
    r'.current = o.before.current ∧ o.before.session.Grown r'.session := by
  cases o with
  | turn t =>
    obtain ⟨out, ended⟩ := after_turn after
    obtain ⟨-, current, -, grown⟩ := Turn.end_of_no_entrance h ended
    exact ⟨current, grown⟩
  | change kind r =>
    obtain ⟨s, told, rfl⟩ := after_change after
    exact ⟨rfl, (Session.tell_aged told).grown⟩
  | act chain actions r =>
    obtain ⟨result, s, acted, rfl⟩ := after_act after
    exact ⟨rfl, (Session.act_aged acted).grown⟩

theorem after_of_entrance {r' : Router L} {e : Entrance L} (h : o.entrance? limit = some e)
    (after : o.after? limit = some r') :
    r'.current = some e.id ∧ e.moment.session.Aged r'.session := by
  obtain ⟨t, rfl, entered⟩ := exists_turn_of_entrance? h
  obtain ⟨out, ended⟩ := after_turn after
  obtain ⟨current, -, aged⟩ := Turn.end_of_entrance entered ended
  rw [(Turn.entrance_facts entered).1]
  exact ⟨current, aged⟩

end Occasion

/-- The chains that became the current one, in order. -/
def entrances (limit : Nat) (os : List (Occasion L)) : List (Entrance L) :=
  os.filterMap (·.entrance? limit)

theorem entrances_cons (limit : Nat) (o : Occasion L) (os : List (Occasion L)) :
    entrances limit (o :: os) = (o.entrance? limit).toList ++ entrances limit os := by
  simp only [entrances, List.filterMap_cons]
  cases o.entrance? limit <;> rfl

/-- Occasions that lead from a router to a router, or to one that does not end. -/
inductive Passage (limit : Nat) : Router L → List (Occasion L) → Option (Router L) → Prop where
  | rest {r r' : Router L} : r.Rests r' → Passage limit r [] (some r')
  | next {r r' : Router L} {o : Occasion L} {os : List (Occasion L)} {last : Option (Router L)} :
    r.Rests o.before → o.after? limit = some r' → Passage limit r' os last →
    Passage limit r (o :: os) last
  | stuck {r : Router L} {o : Occasion L} :
    r.Rests o.before → o.after? limit = none → Passage limit r [o] none

namespace Passage

variable {limit : Nat} {r r' : Router L} {os ps : List (Occasion L)} {last : Option (Router L)}

theorem rests_left {q : Router L} (h : q.Rests r) (k : Passage limit r os last) :
    Passage limit q os last := by
  cases k with
  | rest rests => exact .rest (h.trans rests)
  | next rests after k => exact .next (h.trans rests) after k
  | stuck rests after => exact .stuck (h.trans rests) after

theorem append (h : Passage limit r os (some r')) (k : Passage limit r' ps last) :
    Passage limit r (os ++ ps) last := by
  generalize ended : some r' = out at h
  induction h with
  | rest rests =>
    obtain rfl := Option.some.inj ended
    exact k.rests_left rests
  | next rests after _ ih => exact .next rests after (ih ended)
  | stuck => cases ended

/-- What does not end does not because of the last of its occasions. -/
theorem stuck_iff (h : Passage limit r os last) :
    last = none ↔ ∃ o ∈ os, o.after? limit = none := by
  induction h with
  | rest => simp
  | next rests after k ih => simp [ih, after]
  | stuck rests after => simp [after]

/-- The current chain is the one that was entered last. -/
theorem current (h : Passage limit r os (some r')) :
    r'.current = ((entrances limit os).getLast?.map (·.id)).or r.current := by
  generalize ended : some r' = last at h
  induction h with
  | rest rests =>
    obtain rfl := Option.some.inj ended
    exact rests.current
  | @next r q o os last rests after k ih =>
    rw [ih ended, entrances_cons, List.getLast?_append, Option.map_or, Option.or_assoc,
      ← rests.current]
    congr 1
    cases entered : o.entrance? limit with
    | none => exact (Occasion.after_of_no_entrance entered after).1
    | some e => exact (Occasion.after_of_entrance entered after).1
  | stuck => cases ended

/-- What is kept when nothing happens to the chains, and at every occasion, holds before each occasion of a
series and when the series has ended. -/
theorem invariant (Inv : List (Entrance L) → Router L → Prop)
    (rests : ∀ {es : List (Entrance L)} {r r' : Router L}, Inv es r → r.Rests r' → Inv es r')
    (after : ∀ {es : List (Entrance L)} {o : Occasion L} {r' : Router L}, Inv es o.before →
      o.after? limit = some r' → Inv (es ++ (o.entrance? limit).toList) r')
    (h : Passage limit r os last) (es : List (Entrance L)) (first : Inv es r) :
    (∀ front o back, os = front ++ o :: back → Inv (es ++ entrances limit front) o.before) ∧
      ∀ r', last = some r' → Inv (es ++ entrances limit os) r' := by
  induction h generalizing es with
  | rest rest =>
    refine ⟨fun front o back split => absurd split (by simp), fun r' ended => ?_⟩
    obtain rfl := Option.some.inj ended
    rw [show entrances limit [] = [] from rfl, List.append_nil]
    exact rests first rest
  | @next r r' o os last rest ended k ih =>
    have here : Inv es o.before := rests first rest
    obtain ⟨inside, atEnd⟩ := ih _ (after here ended)
    refine ⟨fun front o' back split => ?_, fun r' last => ?_⟩
    · cases front with
      | nil =>
        obtain ⟨rfl, -⟩ := List.cons.inj split
        rw [show entrances limit [] = [] from rfl, List.append_nil]
        exact here
      | cons o'' front =>
        obtain ⟨rfl, later⟩ := List.cons.inj split
        rw [entrances_cons, ← List.append_assoc]
        exact inside front o' back later
    · rw [entrances_cons, ← List.append_assoc]
      exact atEnd r' last
  | @stuck r o rest ended =>
    refine ⟨fun front o' back split => ?_, nofun⟩
    obtain ⟨rfl, rfl, -⟩ : front = [] ∧ o = o' ∧ back = [] := by
      cases front with
      | nil => simpa using split
      | cons => simp at split
    rw [show entrances limit [] = [] from rfl, List.append_nil]
    exact rests first rest

end Passage

/-- From any router the operation passes the occasions of the trace. -/
def Tracks {α : Type} (limit : Nat) (x : Operation (Router L) α) (trace : Router L → List (Occasion L)) : Prop :=
  ∀ r, Passage limit r (trace r) ((x.start r).map Prod.snd)

namespace Tracks

variable {α β : Type} {limit : Nat}

theorem ends {x : Operation (Router L) α} {trace : Router L → List (Occasion L)} (h : Tracks limit x trace)
    {r r' : Router L} {out : Except RouterError α} (ended : x.start r = some (out, r')) :
    Passage limit r (trace r) (some r') := by
  have passage := h r
  rwa [ended] at passage

/-- What neither fails to end nor touches the chains passes no occasion. -/
theorem of_rests {x : Operation (Router L) α}
    (h : ∀ r : Router L, ∃ out r', x.start r = some (out, r') ∧ r.Rests r') :
    Tracks limit x fun _ => [] := by
  intro r
  obtain ⟨out, r', ended, rests⟩ := h r
  rw [ended]
  exact .rest rests

theorem pure (a : α) : Tracks limit (pure a : Operation (Router L) α) fun _ => [] :=
  of_rests fun r => ⟨_, _, rfl, .refl r⟩

theorem modify {f : Router L → Router L} (h : ∀ r : Router L, r.Rests (f r)) :
    Tracks limit (modify f : Operation (Router L) Unit) fun _ => [] :=
  of_rests fun r => ⟨_, _, rfl, h r⟩

theorem report (records : List Log.Record) : Tracks (L := L) limit (report records) fun _ => [] :=
  modify fun _ => .of_report records rfl rfl rfl

theorem bind {x : Operation (Router L) α} {f : α → Operation (Router L) β} {t : Router L → List (Occasion L)}
    {u : α → Router L → List (Occasion L)} (hx : Tracks limit x t) (hf : ∀ a, Tracks limit (f a) (u a)) :
    Tracks limit (x >>= f) fun r => t r ++ x.thereafter u r := by
  intro r
  have first := hx r
  simp only [Operation.start_bind, Operation.thereafter]
  cases ended : x.start r with
  | none => simpa [ended] using first
  | some o =>
    rw [ended] at first
    obtain ⟨e | a, r'⟩ := o
    · simpa using first
    · exact first.append (hf a r')

/-- What is returned in the end is no matter of the trace. -/
theorem andReturn {x : Operation (Router L) α} {t : Router L → List (Occasion L)} (hx : Tracks limit x t)
    (b : β) : Tracks limit (do let _ ← x; return b) t := by
  intro r
  have passage := hx r
  rw [Operation.start_bind]
  cases ended : x.start r with
  | none => rwa [ended] at passage
  | some o =>
    rw [ended] at passage
    obtain ⟨_ | _, r'⟩ := o <;> exact passage

theorem get {f : Router L → Operation (Router L) α} {u : Router L → Router L → List (Occasion L)}
    (h : ∀ a, Tracks limit (f a) (u a)) : Tracks limit (MonadState.get >>= f) fun r => u r r :=
  fun r => h r r

theorem ensuring {x : Operation (Router L) α} {t : Router L → List (Occasion L)} (hx : Tracks limit x t)
    {f : Router L → Router L} (h : ∀ r : Router L, r.Rests (f r)) : Tracks limit (x.ensuring f) t := by
  intro r
  have passage := hx r
  rw [Operation.start_ensuring]
  cases ended : x.start r with
  | none => rwa [ended] at passage
  | some o =>
    rw [ended] at passage
    simpa using passage.append (.rest (h o.2))

/-- An operation that is an occasion of its own. -/
theorem occasion {x : Operation (Router L) α} {o : Router L → Occasion L} (before : ∀ r, (o r).before = r)
    (after : ∀ r, (o r).after? limit = (x.start r).map Prod.snd) :
    Tracks limit x fun r => [o r] := by
  intro r
  rw [← after r]
  have rests : r.Rests (o r).before := (before r).symm ▸ .refl r
  cases ended : (o r).after? limit with
  | none => exact .stuck rests ended
  | some r' => exact .next rests ended (.rest (.refl r'))

theorem evaluate (limit : Nat) (route : Route) :
    Tracks (L := L) limit (evaluate limit route) fun r => [.turn ⟨route, r⟩] :=
  occasion (fun _ => rfl) fun _ => rfl

theorem cycle (limit : Nat) (routes : List Route) :
    Tracks (L := L) limit (cycle limit routes) (cycleTrace limit routes) := by
  induction routes with
  | nil => exact .pure none
  | cons route rest ih =>
    refine (evaluate (L := L) limit route).bind (u := fun
      | some _ => fun _ => []
      | none => cycleTrace limit rest) fun asked => ?_
    cases asked with
    | none => exact ih
    | some target => exact .pure _

theorem raise (limit : Nat) (kind : EventKind) :
    Tracks (L := L) limit (raise limit kind) (raiseTrace limit kind) := by
  have told : Tracks (L := L) limit (tellChange limit kind) fun r => [.change kind r] :=
    occasion (fun _ => rfl) fun _ => rfl
  rw [raise_eq]
  refine told.bind fun _ => get (u := fun a r =>
    if kind.starts a.options.trigger then cycleTrace limit a.routes r else []) fun a => ?_
  split
  · exact cycle limit a.routes
  · exact .pure none

theorem visit (limit : Nat) (path : String) :
    Tracks (L := L) limit (visit limit path) (visitTrace limit path) := by
  have rests (r : Router L) : r.Rests (r.sent path) := .of_report _ rfl rfl rfl
  intro r
  have raised := raise limit .navigate (r.sent path)
  refine .rests_left (rests r) ?_
  simp only [Router.visit, start_report, Operation.start_bind, Operation.start_get,
    Operation.start_modify, Option.bind_some, ← sent_eq, visitTrace, Operation.thereafter]
  cases ended : (Router.raise limit .navigate).start (r.sent path) with
  | none => simpa [ended] using raised
  | some o =>
    rw [ended] at raised
    obtain ⟨e | asked, r'⟩ := o
    · simpa using raised
    · simp only [Option.bind_some]
      cases r'.options.trigger with
      | navigate => simpa using raised
      | hashChange => exact raised.append (raise limit .hashChange r')

theorem followWithin (limit budget : Nat) (asked : Option String) :
    Tracks (L := L) limit (followWithin limit budget asked) fun r =>
      (legsWithin limit budget asked r).flatMap (Leg.trace limit) := by
  induction budget generalizing asked with
  | zero =>
    cases asked with
    | none => exact .pure ()
    | some target => exact .get fun r => .report _
  | succ budget ih =>
    cases asked with
    | none => exact .pure ()
    | some target =>
      have rests (r : Router L) : r.Rests (r.redirected target) := .of_report _ rfl rfl rfl
      have visited := ((visit limit target).bind ih).ensuring
        (f := fun r => { r with redirectDepth := r.redirectDepth - 1 }) fun r => .of_session rfl rfl rfl
      intro r
      simp only [legsWithin, List.flatMap_cons, Operation.flatMap_thereafter]
      exact (visited (r.redirected target)).rests_left (rests r)

theorem follow (limit : Nat) (asked : Option String) :
    Tracks (L := L) limit (follow limit asked) fun r => (legs limit asked r).flatMap (Leg.trace limit) :=
  get fun r => followWithin limit (maxRedirectDepth - r.redirectDepth) asked

theorem enlist (p : Pattern) (middleware : List Handler) (h : Handler) :
    Tracks (L := L) limit (enlist p middleware h) fun _ => [] := by
  refine of_rests fun r => ?_
  obtain ⟨records, ended⟩ := start_enlist p middleware h r
  exact ⟨_, _, ended, rfl, ⟨records, rfl⟩, fun sound => (PatternCache.compile_sound sound _ _).2⟩

theorem enlistIn (scope : Scope) (value : String) (middleware : List Handler) (h : Handler) :
    Tracks (L := L) limit (enlistIn scope value middleware h) fun _ => [] := by
  refine of_rests fun r => ?_
  obtain ⟨records, ended⟩ := start_enlistIn scope value middleware h r
  exact ⟨_, _, ended, rfl, ⟨records, rfl⟩, fun sound => (PatternCache.compile_sound sound _ _).2⟩

theorem own (limit : Nat) (c : Command L) : Tracks limit (c.own limit) (c.ownTrace limit) := by
  cases c with
  | register p middleware h => exact (enlist p middleware h).bind fun route => evaluate limit route
  | registerIn scope value middleware h =>
    exact (enlistIn scope value middleware h).bind fun route => evaluate limit route
  | navigate path => exact visit limit path
  | dispatch => exact get (u := fun a => cycleTrace limit a.routes) fun r => cycle limit r.routes
  | emit kind =>
    cases kind with
    | matched => exact (report _).bind fun _ => .pure none
    | navigate => exact raise limit .navigate
    | hashChange => exact raise limit .hashChange
  | handleChange signal => exact (report _).bind fun _ => raise limit signal.kind
  | act chain actions =>
    have acted : Tracks (L := L) limit (inSession (Session.act limit chain actions)) fun r =>
        [.act chain actions r] := occasion (fun _ => rfl) fun _ => rfl
    exact acted.andReturn none
  | change c => exact (Tracks.modify fun r => c.rests r).andReturn none

theorem perform (limit : Nat) (c : Command L) : Tracks limit (c.perform limit) (c.trace limit) := by
  intro r
  have passage := (own limit c).bind (follow limit) r
  rw [Command.start_perform, Command.trace, Command.legs, Operation.flatMap_thereafter]
  exact passage

end Tracks

/-- What a router does at one command after another is one series of occasions. -/
theorem passage_serve (limit : Nat) (commands : List (Command L)) (r : Router L) :
    Passage limit r (serveTrace limit commands r) (serve limit commands r) := by
  induction commands generalizing r with
  | nil => exact .rest (.refl r)
  | cons c rest ih =>
    have first := Tracks.perform limit c r
    simp only [serveTrace, serve]
    cases ended : (c.perform limit).start r with
    | none =>
      rw [ended] at first
      simpa using first
    | some o =>
      rw [ended] at first
      exact first.append (ih o.2)

end Routing
