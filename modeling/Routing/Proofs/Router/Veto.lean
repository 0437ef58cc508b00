import Routing.Proofs.Router.Traces

/-!
# The veto

A chain that stopped propagation keeps later chains on its path from running, in the same cycle and in
those that follow, until a chain on another path has become the current one.

* `Session.Bars`: one chain has a veto on another
* `entrance_vetoed_iff`: whose veto counts at an entrance
* `Passage.order`, `Passage.decided`, `Passage.silent`: the entrances of a series of occasions
* `propagation_veto`: the entrances in the whole life of a router
-/
namespace Routing

open Router

variable {L : Type} [Host L]

/-- A chain has a veto on another one: both were made for one path, which is not empty, and the first
stopped propagation. -/
def Session.Bars (s : Session) (before id : ChainId) : Prop :=
  ∃ p c, s.chain? before = some p ∧ s.chain? id = some c ∧
    p.value ≠ "" ∧ p.value = c.value ∧ p.propagates = false

theorem Session.chain?_link (s : Session) (id : ChainId) (before : Option ChainId) :
    (s.link id before).chain? id = (s.chain? id).map fun c => { c with previous := before } := by
  simp only [link, chain?_modify_self]
  cases before with
  | none => rfl
  | some b =>
    rw [chain?_modify]
    split
    · rw [Option.map_map]
      rfl
    · rfl

theorem Session.parent?_eq_some_iff {s : Session} {id b : ChainId} :
    s.parent? id = some b ↔ ∃ c p, s.chain? id = some c ∧ c.previous = some b ∧
      s.chain? b = some p ∧ p.value ≠ "" ∧ p.value = c.value := by
  simp only [parent?, Option.bind_eq_bind, Option.bind_eq_some_iff]
  constructor
  · rintro ⟨c, hc, b', hb, p, hp, found⟩
    split at found
    · next same =>
      obtain rfl := Option.some.inj found
      simp only [Bool.and_eq_true, Bool.not_eq_true', String.isEmpty_eq_false_iff, beq_iff_eq] at same
      exact ⟨c, p, hc, hb, hp, same⟩
    · cases found
  · rintro ⟨c, p, hc, hb, hp, same⟩
    refine ⟨c, hc, b, hb, p, hp, if_pos ?_⟩
    simpa only [Bool.and_eq_true, Bool.not_eq_true', String.isEmpty_eq_false_iff, beq_iff_eq] using same

theorem Router.vetoed_iff (r : Router L) (id : ChainId) :
    r.vetoed id = true ↔ ∃ b, r.session.previous? id = some b ∧ r.session.Bars b id := by
  simp only [vetoed, Option.any_eq_true, Option.bind_eq_some_iff, Session.parent?_eq_some_iff,
    Session.previous?, Session.Bars, Bool.not_eq_true']
  constructor
  · rintro ⟨p, ⟨b, ⟨c, p', hc, hb, hp', path, same⟩, hp⟩, silent⟩
    obtain rfl := Option.some.inj (hp'.symm.trans hp)
    exact ⟨b, ⟨c, hc, hb⟩, p', c, hp, hc, path, same, silent⟩
  · rintro ⟨b, ⟨c, hc, hb⟩, p, c', hp, hc', path, same, silent⟩
    obtain rfl := Option.some.inj (hc'.symm.trans hc)
    exact ⟨p, ⟨b, ⟨c', p, hc, hb, hp, path, same⟩, hp⟩, silent⟩

/-- The veto that counts is that of the chain that was the current one until then. -/
theorem entrance_vetoed_iff {limit : Nat} {t : Turn L} {e : Entrance L} (h : t.entrance? limit = some e) :
    e.ran = false ↔ ∃ b, t.before.current = some b ∧ e.moment.session.Bars b e.id := by
  obtain ⟨heard, told, -, rfl⟩ := Turn.exists_of_entrance? h
  obtain ⟨-, current, -⟩ := Turn.aged_heard told
  obtain ⟨c, there⟩ : ∃ c, heard.session.chain? t.id = some c := t.exists_chain_of_heard? told
  have previous : (t.entrance heard).moment.session.previous? t.id = heard.current := by
    simp only [Turn.entrance, Session.previous?, Session.chain?_link, there]
    rfl
  have veto := (t.entrance heard).moment.vetoed_iff t.id
  rw [previous, current] at veto
  have ran : (t.entrance heard).ran = !(t.entrance heard).moment.vetoed t.id := rfl
  rw [ran, Bool.not_eq_false']
  exact veto

namespace Entrance

/-- The path for which the chain was made. -/
def value? (e : Entrance L) : Option String :=
  (e.moment.session.chain? e.id).map (·.value)

end Entrance

/-- The current chain was made for the path and has stopped propagation. -/
def Router.Silent (path : String) (r : Router L) : Prop :=
  ∃ id c, r.current = some id ∧ r.session.chain? id = some c ∧ c.value = path ∧ c.propagates = false

/-! ## One entrance after another -/

/-- Chains that are entered one after another; `before` was the current chain until then. -/
inductive Entering : Option ChainId → Session → List (Entrance L) → Prop where
  | nil {before : Option ChainId} {s : Session} : Entering before s []
  | cons {before : Option ChainId} {s t : Session} {e : Entrance L} {es : List (Entrance L)} {c : Chain}
    (grown : s.Grown e.moment.session) (new : s.chains.length ≤ e.id)
    (there : e.moment.session.chain? e.id = some c)
    (decided : e.ran = false ↔ ∃ b, before = some b ∧ e.moment.session.Bars b e.id)
    (aged : e.moment.session.Aged t)
    (silenced : e.ran = false → ∀ d, t.chain? e.id = some d → d.propagates = false)
    (rest : Entering (some e.id) t es) : Entering before s (e :: es)

namespace Entering

variable {before : Option ChainId} {s t : Session} {es : List (Entrance L)}

theorem of_grown (h : s.Grown t) (k : Entering before t es) : Entering before s es := by
  cases k with
  | nil => exact .nil
  | cons grown new there decided aged silenced rest =>
    exact .cons (h.trans grown) (Nat.le_trans h.length_le new) there decided aged silenced rest

theorem le_id (h : Entering before s es) : ∀ e ∈ es, s.chains.length ≤ e.id := by
  induction h with
  | nil => simp
  | cons grown new there decided aged silenced rest ih =>
    intro e he
    obtain rfl | he := List.mem_cons.1 he
    · exact new
    · exact Nat.le_trans (grown.trans aged.grown).length_le (ih e he)

/-- Chains are entered in the order in which they are made. -/
theorem order (h : Entering before s es) : es.Pairwise fun a b => a.id < b.id := by
  induction h with
  | nil => exact .nil
  | cons grown new there decided aged silenced rest ih =>
    refine .cons (fun e he => ?_) ih
    have made := Session.lt_of_chain? there
    have later := rest.le_id e he
    rw [aged.length] at later
    exact Nat.lt_of_lt_of_le made later

/-- The first chain is barred by nothing but the chain before all of them. -/
theorem first (h : Entering before s es) {e : Entrance L} (he : es[0]? = some e) :
    e.ran = false ↔ ∃ b, before = some b ∧ e.moment.session.Bars b e.id := by
  cases h with
  | nil => cases he
  | cons grown new there decided aged silenced rest =>
    obtain rfl := Option.some.inj he
    exact decided

/-- Of two chains in a row, the second runs unless the first has a veto on it. -/
theorem decided (h : Entering before s es) {k : Nat} {a b : Entrance L} (ha : es[k]? = some a)
    (hb : es[k + 1]? = some b) : b.ran = true ↔ ¬ b.moment.session.Bars a.id b.id := by
  induction h generalizing k with
  | nil => cases ha
  | cons grown new there _ aged silenced rest ih =>
    cases k with
    | succ k => exact ih ha hb
    | zero =>
      obtain rfl := Option.some.inj ha
      have decided := rest.first hb
      simp only [Option.some.injEq, exists_eq_left'] at decided
      rw [← Bool.not_eq_false, decided]

/-- As long as chains are made for the path of a chain that stopped propagation, none of them runs. -/
theorem silent {id : ChainId} (h : Entering (some id) s es) {path : String} (nonempty : path ≠ "")
    {c : Chain} (hc : s.chain? id = some c) (value : c.value = path)
    (silent : c.propagates = false) :
    ∀ e ∈ es.takeWhile (·.value? == some path), e.ran = false := by
  generalize start : some id = before at h
  induction h generalizing id c with
  | nil => simp
  | @cons before s t e es made grown new there decided aged silenced rest ih =>
    subst start
    rw [List.takeWhile_cons]
    split
    · next same =>
      have same : made.value = path := by simpa [Entrance.value?, there] using same
      obtain ⟨d, hd, older⟩ := grown id c hc
      have still : d.propagates = false := by
        rw [← Bool.not_eq_true]
        exact fun p => by simp [older.propagates p] at silent
      have veto : e.ran = false := decided.2 ⟨id, rfl, d, made, hd, there,
        by rw [older.value, value]; exact nonempty, by rw [older.value, value, same], still⟩
      obtain ⟨d', hd', older'⟩ := aged.grown e.id made there
      intro e' he'
      obtain rfl | he' := List.mem_cons.1 he'
      · exact veto
      · exact ih hd' (older'.value.trans same) (silenced veto d' hd') rfl e' he'
    · simp

end Entering

theorem Occasion.silenced {limit : Nat} {o : Occasion L} {e : Entrance L} {r' : Router L}
    (h : o.entrance? limit = some e) (veto : e.ran = false) (after : o.after? limit = some r') :
    ∀ d, r'.session.chain? e.id = some d → d.propagates = false := by
  obtain ⟨t, rfl, entered⟩ := exists_turn_of_entrance? h
  simp only [after?, Turn.start_evaluate_of_entrance? entered, veto] at after
  obtain rfl := Option.some.inj after
  intro d hd
  rw [(Turn.entrance_facts entered).1] at hd
  obtain ⟨c, -, rfl⟩ := Option.map_eq_some_iff.1 ((Session.chain?_modify_self ..).symm.trans hd)
  rfl

theorem Occasion.decided {limit : Nat} {o : Occasion L} {e : Entrance L} (h : o.entrance? limit = some e) :
    e.ran = false ↔ ∃ b, o.before.current = some b ∧ e.moment.session.Bars b e.id := by
  obtain ⟨t, rfl, entered⟩ := exists_turn_of_entrance? h
  exact entrance_vetoed_iff entered

/-- The chain of a route that is vetoed does not keep an evaluation from its end. -/
theorem Occasion.ran_of_stuck {limit : Nat} {o : Occasion L} {e : Entrance L}
    (h : o.entrance? limit = some e) (stuck : o.after? limit = none) : e.ran = true := by
  obtain ⟨t, rfl, entered⟩ := exists_turn_of_entrance? h
  simp only [after?, Turn.start_evaluate_of_entrance? entered] at stuck
  rw [← Bool.not_eq_false]
  intro veto
  simp [veto] at stuck

theorem Passage.entering {limit : Nat} {r : Router L} {os : List (Occasion L)} {last : Option (Router L)}
    (h : Passage limit r os last) : Entering r.current r.session (entrances limit os) := by
  induction h with
  | rest => exact .nil
  | @next r r' o os last rests after k ih =>
    rw [entrances_cons, ← rests.current]
    cases entered : o.entrance? limit with
    | none =>
      obtain ⟨current, grown⟩ := Occasion.after_of_no_entrance entered after
      rw [← current]
      exact ih.of_grown (rests.aged.grown.trans grown)
    | some e =>
      obtain ⟨current, aged⟩ := Occasion.after_of_entrance entered after
      obtain ⟨id, grown, c, there⟩ := Occasion.entrance_facts entered
      exact .cons (rests.aged.grown.trans grown) (Nat.le_of_eq (rests.aged.length ▸ id.symm)) there
        (Occasion.decided entered) aged (fun veto => Occasion.silenced entered veto after)
        (current ▸ ih)
  | @stuck r o rests after =>
    rw [entrances_cons, ← rests.current]
    cases entered : o.entrance? limit with
    | none => exact .nil
    | some e =>
      obtain ⟨id, grown, c, there⟩ := Occasion.entrance_facts entered
      refine .cons (rests.aged.grown.trans grown) (Nat.le_of_eq (rests.aged.length ▸ id.symm)) there
        (Occasion.decided entered) (.refl _) (fun veto => ?_) .nil
      rw [Occasion.ran_of_stuck entered after] at veto
      cases veto

theorem Passage.from_occasion {limit : Nat} {r : Router L} {front back : List (Occasion L)} {o : Occasion L}
    {last : Option (Router L)} (h : Passage limit r (front ++ o :: back) last) :
    Passage limit o.before (o :: back) last := by
  induction front generalizing r with
  | nil =>
    cases h with
    | next _ after k => exact .next (.refl _) after k
    | stuck _ after => exact .stuck (.refl _) after
  | cons first front ih =>
    generalize all : first :: front ++ o :: back = os at h
    cases h with
    | rest => cases all
    | next _ _ k =>
      obtain ⟨rfl, rfl⟩ := List.cons.inj all
      exact ih k
    | stuck => simp at all

theorem Passage.silent {limit : Nat} {r : Router L} {os : List (Occasion L)} {last : Option (Router L)}
    (h : Passage limit r os last) {path : String} (nonempty : path ≠ "") (silent : r.Silent path) :
    ∀ e ∈ (entrances limit os).takeWhile (·.value? == some path), e.ran = false := by
  obtain ⟨id, c, current, hc, value, stopped⟩ := silent
  have entering := h.entering
  rw [current] at entering
  exact entering.silent nonempty hc value stopped

/-! ## The life of a router -/

/-- What the veto comes to for the chains that became the current one in a series of occasions. -/
structure VetoObserved (limit : Nat) (os : List (Occasion L)) : Prop where
  order : (entrances limit os).Pairwise fun a b => a.id < b.id
  first : ∀ e, (entrances limit os)[0]? = some e → e.ran = true
  decided : ∀ k a b, (entrances limit os)[k]? = some a → (entrances limit os)[k + 1]? = some b →
    (b.ran = true ↔ ¬ b.moment.session.Bars a.id b.id)
  /-- No chain for the empty path is vetoed, nor one for another path than the chain before it. -/
  free : ∀ k a b, (entrances limit os)[k]? = some a → (entrances limit os)[k + 1]? = some b →
    (b.value? = some "" ∨ (b.moment.session.chain? a.id).map (·.value) ≠ b.value?) → b.ran = true
  /-- A chain that is not vetoed is run. -/
  runs : ∀ t e, .turn t ∈ os → t.entrance? limit = some e → e.ran = true →
    (evaluate limit t.route).start t.before = t.runs limit e.moment
  /-- A chain that is vetoed is not run, and stops propagation. -/
  vetoed : ∀ t e, .turn t ∈ os → t.entrance? limit = some e → e.ran = false →
    (evaluate limit t.route).start t.before = some (.ok none, t.silenced e.moment) ∧
      ∀ c, (t.silenced e.moment).session.chain? e.id = some c → c.propagates = false
  /-- From the moment at which the current chain stopped propagation, none of the chains for its path
  runs, up to the first for another path. -/
  silent : ∀ path front o back, os = front ++ o :: back → path ≠ "" → o.before.Silent path →
    ∀ e ∈ (entrances limit (o :: back)).takeWhile (·.value? == some path), e.ran = false

theorem Session.Bars.value {s : Session} {before id : ChainId} (h : s.Bars before id) :
    ∃ path, path ≠ "" ∧ (s.chain? before).map (·.value) = some path ∧
      (s.chain? id).map (·.value) = some path := by
  obtain ⟨p, c, hp, hc, nonempty, same, -⟩ := h
  exact ⟨p.value, nonempty, by rw [hp]; rfl, by rw [hc, same]; rfl⟩

theorem Passage.vetoObserved {limit : Nat} {r : Router L} {os : List (Occasion L)} {last : Option (Router L)}
    (h : Passage limit r os last) (first : r.current = none) : VetoObserved limit os where
  order := h.entering.order
  first e he := by
    have decided := h.entering.first he
    simp only [first, reduceCtorEq, false_and, exists_false, iff_false, Bool.not_eq_false] at decided
    exact decided
  decided _ _ _ ha hb := h.entering.decided ha hb
  free k a b ha hb other := by
    rw [h.entering.decided ha hb]
    intro bars
    obtain ⟨path, nonempty, before, here⟩ := bars.value
    obtain empty | other := other
    · exact nonempty (Option.some.inj (here.symm.trans empty))
    · exact other (before.trans here.symm)
  runs t e _ entered ran := by rw [Turn.start_evaluate_of_entrance? entered, if_pos ran]
  vetoed t e _ entered veto := by
    have ended : (evaluate limit t.route).start t.before = some (.ok none, t.silenced e.moment) := by
      rw [Turn.start_evaluate_of_entrance? entered, if_neg (by simp [veto])]
    refine ⟨ended, Occasion.silenced (o := .turn t) entered veto ?_⟩
    simp only [Occasion.after?, ended, Option.map_some]
  silent path front o back same nonempty silent := by
    subst same
    exact h.from_occasion.silent nonempty silent

/-- In the whole life of a router, whatever is asked of it and whatever handlers and listeners do: a chain
that became the current one is run, unless the chain that was the current one before was made for the same
path, which is not empty, and has stopped propagation. So once the current chain has stopped propagation, no
chain for its path runs until one for another path has become the current one, be it between two commands or
in the middle of one. -/
theorem propagation_veto (options : RouterOptions) (location : L)
    (library : List (String × Handler)) (limit : Nat) (commands : List (Command L)) :
    VetoObserved limit (serveTrace limit commands (.hosted options location library)) ∧
      ∀ earlier later r path, commands = earlier ++ later →
        serve limit earlier (.hosted options location library) = some r →
        path ≠ "" → r.Silent path →
        ∀ e ∈ (entrances limit (serveTrace limit later r)).takeWhile (·.value? == some path),
          e.ran = false :=
  ⟨(passage_serve limit commands _).vetoObserved rfl, fun _ later r _ _ _ nonempty silent =>
    (passage_serve limit later r).silent nonempty silent⟩

/-- A page that stops propagation is not run again on its path. -/
theorem propagation_veto_again :
    ∃ r, serve 20 [.register (.path "/a") [] [.stopPropagation], .change (.setPath "/a"), .dispatch]
        (.created {} (.memory (.opened "/")) []) = some r ∧ r.Silent "/a" ∧
      (entrances 20 (serveTrace 20 [.dispatch] r)).map (fun e => (e.value?, e.ran)) =
        [(some "/a", false)] := by
  have run : (serve 20 [.register (.path "/a") [] [.stopPropagation], .change (.setPath "/a"), .dispatch]
      (.created {} (.memory (.opened "/")) [])).map (fun r =>
        ((r.current.bind r.session.chain?).map fun c => (c.value, c.propagates),
          (entrances 20 (serveTrace 20 [.dispatch] r)).map (·.value?))) =
      some (some ("/a", false), [some "/a"]) := by decide +kernel
  obtain ⟨r, reached, seen⟩ := Option.map_eq_some_iff.1 run
  obtain ⟨current, values⟩ := Prod.mk.inj seen
  obtain ⟨c, there, same⟩ := Option.map_eq_some_iff.1 current
  obtain ⟨id, here, hc⟩ := Option.bind_eq_some_iff.1 there
  obtain ⟨value, silent⟩ := Prod.mk.inj same
  have still : r.Silent "/a" := ⟨id, c, here, hc, value, silent⟩
  have veto := (propagation_veto {} (Location.memory (.opened "/")) [] 20 _).2 _ [.dispatch] r "/a" rfl reached
    (by decide) still
  refine ⟨r, reached, still, ?_⟩
  obtain ⟨e, only, value⟩ := List.map_eq_singleton_iff.1 values
  rw [only] at veto ⊢
  have vetoed : e.ran = false := veto e (by simp [value])
  simp [value, vetoed]

end Routing
