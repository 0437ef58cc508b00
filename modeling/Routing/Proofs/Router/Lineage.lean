import Mathlib.Logic.Relation
import Routing.Proofs.Router.Veto
import Routing.Proofs.Session.Links

/-!
# The chain before the current one

A router links a chain that becomes the current one to the chain that was the current one until then, and that
one loses its own link. So there is one link at most, whoever looks and whenever.

* `Look`, `Occasion.looks`: what handlers and listeners see of the router while they are under way
* `Lineage`: the links say which chain was the current one before, and nothing else
* `Lineage.entrance`, `Lineage.looks`, `Lineage.after`: what happens at an occasion
* `one_previous_level`: at no moment in the life of a router is there more than one link
-/
namespace Routing

open Router

variable {L : Type} [Host L]

/-! ## Looks -/

/-- What can be seen of a router when a handler or a listener takes its next step, and the chains that were
entered until then at the same occasion. -/
structure Look (L : Type) [Host L] where
  entered : List (Entrance L)
  router : Router L

/-- A look at the router while a machine is under way on its session. -/
def Look.during (entered : List (Entrance L)) (r : Router L) (m : Machine) : Look L :=
  ⟨entered, { r with session := m.session }⟩

namespace Turn

/-- What the listeners do while they are told that the route matched. -/
def hearings (limit : Nat) (t : Turn L) : List Machine :=
  if t.request.matched then
    t.opened.tellTrace (fun _ m => m.course limit) limit t.event (t.before.listenersOf .matched)
  else []

/-- What the handlers do in the run of a chain that was entered. -/
def running (limit : Nat) (t : Turn L) (e : Entrance L) : List Machine :=
  if e.ran then (Machine.call (e.moment.session.modify t.id Chain.start) t.id false []).course limit
  else []

def looks (limit : Nat) (t : Turn L) : List (Look L) :=
  (t.hearings limit).map (.during [] t.before) ++
    (t.entrance? limit).elim [] fun e => (t.running limit e).map (.during [e] e.moment)

end Turn

/-- What is seen at an occasion. -/
def Occasion.looks (limit : Nat) : Occasion L → List (Look L)
  | turn t => t.looks limit
  | change kind r =>
    (r.session.tellTrace (fun _ m => m.course limit) limit (.changed kind r.path)
      (r.listenersOf kind)).map (.during [] r)
  | act chain actions r =>
    ((⟨r.session, [⟨⟨chain, none⟩, actions, false⟩], none⟩ : Machine).course limit).map (.during [] r)

/-! ## Links and listeners -/

theorem Listener.links_hear {limit : Nat} {e : Event} {l : Listener} {s t : Session}
    {out : Except RouterError Unit} (h : (l.hear limit e).start s = some (out, t)) :
    t.links = s.links := by
  rw [start_hear] at h
  obtain ⟨⟨result, u⟩, acted, same⟩ := Option.map_eq_some_iff.1 h
  have links : u.links = s.links := Session.links_running acted
  cases result with
  | ok _ =>
    obtain ⟨-, rfl⟩ := Prod.mk.inj same
    exact links
  | error failure =>
    obtain ⟨-, rfl⟩ := Prod.mk.inj same
    exact links

theorem Session.links_tell {limit : Nat} {e : Event} {ls : List Listener} {s t : Session}
    (h : s.tell limit e ls = some t) : t.links = s.links := by
  induction ls generalizing s with
  | nil => rw [← Option.some.inj h]
  | cons l ls ih =>
    obtain ⟨u, heard, rest⟩ := Option.bind_eq_some_iff.1 h
    obtain ⟨⟨out, v⟩, first, rfl⟩ := Option.map_eq_some_iff.1 heard
    exact (ih rest).trans (Listener.links_hear first)

/-- While listeners are told there are the links that there were before. -/
theorem Session.links_tellTrace {limit : Nat} {e : Event} {ls : List Listener} {s : Session} {m : Machine}
    (h : m ∈ s.tellTrace (fun _ m => m.course limit) limit e ls) : m.session.links = s.links := by
  induction ls generalizing s with
  | nil => cases h
  | cons l ls ih =>
    rw [tellTrace] at h
    obtain here | later := List.mem_append.1 h
    · exact Machine.links_course here
    · cases heard : (l.hear limit e).start s with
      | none =>
        rw [heard] at later
        cases later
      | some o =>
        rw [heard] at later
        exact (ih later).trans (Listener.links_hear heard)

/-- A new chain has no link. -/
theorem Turn.links_opened (t : Turn L) : t.opened.links = t.before.session.links ++ [none] := by
  rw [opened, Session.links_enqueue]
  exact List.map_append

theorem Turn.length_opened (t : Turn L) : t.opened.chains.length = t.before.session.chains.length + 1 := by
  rw [← Session.length_links, t.links_opened, List.length_append, Session.length_links,
    List.length_singleton]

/-! ## Lineages -/

/-- Chains that were entered, in order: the last of them is the current one, and it is linked to the one before
it. There is no other link. -/
structure Lineage (entered : List ChainId) (r : Router L) : Prop where
  current : r.current = entered.getLast?
  previous : ∀ id, r.session.previous? id =
    if r.current = some id then entered.dropLast.getLast? else none
  order : entered.Pairwise (· < ·)
  made : ∀ id ∈ entered, id < r.session.chains.length

namespace Lineage

variable {entered : List ChainId} {r r' : Router L}

theorem hosted (options : RouterOptions) (location : L) (library : List (String × Handler)) :
    Lineage [] (.hosted options location library) where
  current := rfl
  previous id := by
    rw [Session.previous?_eq_links]
    rfl
  order := .nil
  made := by simp

/-- A lineage is a matter of the links. -/
theorem of_links (h : Lineage entered r) (current : r'.current = r.current)
    (links : r'.session.links = r.session.links) : Lineage entered r' where
  current := current.trans h.current
  previous id := by rw [Session.previous?_congr links, h.previous, current]
  order := h.order
  made id known := by
    have length := congrArg List.length links
    rw [Session.length_links, Session.length_links] at length
    exact length ▸ h.made id known

theorem rests (h : Lineage entered r) (rests : r.Rests r') : Lineage entered r' := by
  obtain ⟨records, same⟩ := rests.session
  exact h.of_links rests.current (by rw [same]; rfl)

variable {t : Turn L} {limit : Nat}

theorem opened (h : Lineage entered t.before) :
    Lineage entered { t.before with session := t.opened } := by
  refine ⟨h.current, fun id => ?_, h.order, fun id known => ?_⟩
  · refine Eq.trans ?_ (h.previous id)
    change t.opened.previous? id = _
    rw [Session.previous?_eq_links, Session.previous?_eq_links, t.links_opened]
    by_cases old : id < t.before.session.links.length
    · rw [List.getElem?_append_left old]
    · have beyond := Nat.le_of_not_lt old
      rw [List.getElem?_append_right beyond, List.getElem?_eq_none beyond]
      cases id - t.before.session.links.length <;> rfl
  · change id < t.opened.chains.length
    rw [t.length_opened]
    exact Nat.lt_succ_of_lt (h.made id known)

theorem heard (h : Lineage entered t.before) {heard : Router L} (told : t.heard? limit = some heard) :
    Lineage entered heard := by
  obtain ⟨s, tell, rfl⟩ := Option.map_eq_some_iff.1 told
  exact h.opened.of_links rfl (Session.links_tell tell)

/-- A chain that is entered is linked to the one that was the current one until then. -/
theorem entrance (h : Lineage entered t.before) {heard : Router L} (told : t.heard? limit = some heard) :
    Lineage (entered ++ [t.id]) (t.entrance heard).moment := by
  have before := h.heard told
  obtain ⟨c, there⟩ := Turn.exists_chain_of_heard? told
  have known := Session.lt_of_chain? there
  have older : ∀ id ∈ entered, id < t.id := h.made
  refine ⟨?_, fun id => ?_, ?_, fun id known' => ?_⟩
  · rw [List.getLast?_concat]
    rfl
  · -- of all chains only the new one and the one before it have their links changed
    change (heard.session.link t.id heard.current).previous? id = if some t.id = some id then _ else _
    rw [Session.previous?_link id heard.current known, List.dropLast_concat, ← before.current]
    by_cases new : t.id = id
    · rw [if_pos new, if_pos (congrArg some new)]
    · rw [if_neg new, if_neg fun same => new (Option.some.inj same)]
      by_cases released : heard.current = some id
      · rw [if_pos released]
      · rw [if_neg released, before.previous, if_neg released]
  · refine List.pairwise_append.2 ⟨h.order, List.pairwise_singleton .., fun a ha b hb => ?_⟩
    rw [List.mem_singleton.1 hb]
    exact older a ha
  · change id < (heard.session.link t.id heard.current).chains.length
    rw [(heard.session.aged_link t.id heard.current).length]
    obtain old | new := List.mem_append.1 known'
    · exact before.made id old
    · rw [List.mem_singleton.1 new]
      exact known

/-! ### Occasions -/

theorem of_entrance? (h : Lineage entered t.before) {e : Entrance L} (here : t.entrance? limit = some e) :
    Lineage (entered ++ [e.id]) e.moment := by
  obtain ⟨heard, told, -, rfl⟩ := Turn.exists_of_entrance? here
  exact h.entrance told

/-- Whoever looks at an occasion sees the chains that were entered until then. -/
theorem looks {o : Occasion L} (h : Lineage entered o.before) {look : Look L} (seen : look ∈ o.looks limit) :
    Lineage (entered ++ look.entered.map (·.id)) look.router := by
  have during {r : Router L} (h : Lineage entered r) {m : Machine}
      (links : m.session.links = r.session.links) :
      Lineage (entered ++ (Look.during [] r m).entered.map (·.id)) (Look.during [] r m).router := by
    rw [show (Look.during [] r m).entered = [] from rfl, List.map_nil, List.append_nil]
    exact h.of_links rfl links
  cases o with
  | turn t =>
    obtain told | ran := List.mem_append.1 seen
    · obtain ⟨m, hm, rfl⟩ := List.mem_map.1 told
      rw [Turn.hearings] at hm
      split at hm
      · exact during h.opened (Session.links_tellTrace hm)
      · cases hm
    · cases entered' : t.entrance? limit with
      | none =>
        rw [entered'] at ran
        cases ran
      | some e =>
        rw [entered'] at ran
        obtain ⟨m, hm, rfl⟩ := List.mem_map.1 ran
        rw [Turn.running] at hm
        split at hm
        · refine (h.of_entrance? entered').of_links rfl ((Machine.links_course hm).trans ?_)
          rw [Machine.links_call]
          exact e.moment.session.links_modify t.id Chain.start fun _ => rfl
        · cases hm
  | change kind r =>
    obtain ⟨m, hm, rfl⟩ := List.mem_map.1 seen
    exact during h (Session.links_tellTrace hm)
  | act chain actions r =>
    obtain ⟨m, hm, rfl⟩ := List.mem_map.1 seen
    exact during h (Machine.links_course hm)

/-- The run of a chain, or its veto, changes no link. -/
theorem after_entrance (h : Lineage entered t.before) {e : Entrance L} (here : t.entrance? limit = some e)
    {out : Except RouterError (Option String)}
    (ended : (evaluate limit t.route).start t.before = some (out, r')) :
    Lineage (entered ++ [e.id]) r' := by
  refine (h.of_entrance? here).of_links ?_ ?_
  · rw [(Turn.end_of_entrance here ended).1, (Turn.entrance_facts here).2.1]
  · rw [Turn.start_evaluate_of_entrance? here] at ended
    split at ended
    · obtain ⟨⟨result, s⟩, ran, same⟩ := Option.map_eq_some_iff.1 ended
      have links : s.links = e.moment.session.links := by
        refine (Session.links_running ran).trans ?_
        rw [Machine.links_call]
        exact e.moment.session.links_modify t.id Chain.start fun _ => rfl
      cases result with
      | ok _ =>
        obtain ⟨-, rfl⟩ := Prod.mk.inj same
        exact (s.links_modify t.id (fun c => { c with redirect := none }) fun _ => rfl).trans links
      | error f =>
        obtain ⟨-, rfl⟩ := Prod.mk.inj same
        exact links
    · obtain ⟨-, rfl⟩ := Prod.mk.inj (Option.some.inj ended)
      exact e.moment.session.links_modify t.id Chain.stopPropagation fun _ => rfl

theorem after_no_entrance (h : Lineage entered t.before) (nobody : t.entrance? limit = none)
    {out : Except RouterError (Option String)}
    (ended : (evaluate limit t.route).start t.before = some (out, r')) : Lineage entered r' := by
  rw [Turn.start_evaluate] at ended
  obtain ⟨fate, known, ended⟩ := Option.bind_eq_some_iff.1 ended
  obtain ⟨rfl, -⟩ | ⟨-, heard, told, ⟨rfl, -⟩ | ⟨rfl, -⟩⟩ := Turn.fate?_cases known
  · obtain ⟨-, rfl⟩ := Prod.mk.inj (Option.some.inj ended)
    exact h.of_links rfl rfl
  · obtain ⟨-, rfl⟩ := Prod.mk.inj (Option.some.inj ended)
    exact (h.heard told).of_links rfl rfl
  · rw [Turn.entrance?, known] at nobody
    cases nobody

theorem after {o : Occasion L} (h : Lineage entered o.before) (ended : o.after? limit = some r') :
    Lineage (entered ++ (o.entrance? limit).toList.map (·.id)) r' := by
  cases o with
  | turn t =>
    obtain ⟨out, ended⟩ := Occasion.after_turn ended
    change Lineage (entered ++ (t.entrance? limit).toList.map (·.id)) r'
    cases here : t.entrance? limit with
    | none =>
      rw [Option.toList_none, List.map_nil, List.append_nil]
      exact h.after_no_entrance here ended
    | some e => exact h.after_entrance here ended
  | change kind r =>
    obtain ⟨s, told, rfl⟩ := Occasion.after_change ended
    change Lineage (entered ++ []) _
    rw [List.append_nil]
    exact h.of_links rfl (Session.links_tell told)
  | act chain actions r =>
    obtain ⟨result, s, acted, rfl⟩ := Occasion.after_act ended
    change Lineage (entered ++ []) _
    rw [List.append_nil]
    exact h.of_links rfl (Session.links_running acted)

/-! ### One level -/

/-- The chain before the last of those that were entered is another one. -/
theorem older (h : Lineage entered r) {id before : ChainId} (linked : r.session.previous? id = some before) :
    r.current = some id ∧ entered.dropLast.getLast? = some before ∧ before < id := by
  rw [h.previous] at linked
  split at linked
  · next current =>
    refine ⟨current, linked, ?_⟩
    have last : entered.getLast? = some id := h.current ▸ current
    obtain ⟨front, rfl⟩ := List.getLast?_eq_some_iff.1 last
    rw [List.dropLast_concat] at linked
    have earlier := List.mem_of_getLast? linked
    exact (List.pairwise_append.1 h.order).2.2 before earlier id (List.mem_singleton.2 rfl)
  · cases linked

end Lineage

/-- Of all chains at most the current one is linked to a chain before it: the one that was the current chain
until then. -/
structure OneLevel (entered : List ChainId) (r : Router L) : Prop where
  current : r.current = entered.getLast?
  only : ∀ id before, r.session.previous? id = some before → r.current = some id
  previous : ∀ id, r.current = some id → r.session.previous? id = entered.dropLast.getLast?
  /-- There is no chain before the previous one. -/
  grandparent : ∀ id, (r.session.previous? id).bind r.session.previous? = none
  /-- No chain is reached from itself by links. -/
  acyclic : ∀ id, ¬ Relation.TransGen (fun a b => r.session.previous? a = some b) id id

theorem Lineage.oneLevel {entered : List ChainId} {r : Router L} (h : Lineage entered r) :
    OneLevel entered r where
  current := h.current
  only id before linked := (h.older linked).1
  previous id current := by rw [h.previous, if_pos current]
  grandparent id := by
    cases linked : r.session.previous? id with
    | none => rfl
    | some before =>
      obtain ⟨current, -, lt⟩ := h.older linked
      have other : r.current ≠ some before := by
        rw [current]
        exact fun same => Nat.ne_of_gt lt (Option.some.inj same)
      rw [Option.bind_some, h.previous, if_neg other]
  acyclic id round := by
    have down {a b : ChainId} (path : Relation.TransGen (fun a b => r.session.previous? a = some b) a b) :
        b < a := by
      induction path with
      | single step => exact (h.older step).2.2
      | tail _ step ih => exact Nat.lt_trans (h.older step).2.2 ih
    exact Nat.lt_irrefl id (down round)

/-! ## The life of a router -/

namespace Passage

variable {limit : Nat} {r : Router L} {os : List (Occasion L)} {last : Option (Router L)}

theorem lineage (h : Passage limit r os last) {entered : List (Entrance L)}
    (first : Lineage (entered.map (·.id)) r) :
    (∀ front o back, os = front ++ o :: back →
      Lineage ((entered ++ entrances limit front).map (·.id)) o.before) ∧
      ∀ r', last = some r' → Lineage ((entered ++ entrances limit os).map (·.id)) r' := by
  have rests {es : List (Entrance L)} {r r' : Router L} (h : Lineage (es.map (·.id)) r) (rests : r.Rests r') :
      Lineage (es.map (·.id)) r' := h.rests rests
  have after {es : List (Entrance L)} {o : Occasion L} {r' : Router L} (h : Lineage (es.map (·.id)) o.before)
      (ended : o.after? limit = some r') :
      Lineage ((es ++ (o.entrance? limit).toList).map (·.id)) r' := by
    rw [List.map_append]
    exact h.after ended
  exact h.invariant (fun es r => Lineage (es.map (·.id)) r) rests after entered first

end Passage

/-- In the whole life of a router, whatever is asked of it and whatever handlers and listeners do: whenever one
of them takes a step, and whenever a command has ended, at most one chain of all that were ever made is linked
to another one. It is the current chain, and the other one is the chain that was the current one when it was
entered. -/
theorem one_previous_level (options : RouterOptions) (location : L)
    (library : List (String × Handler)) (limit : Nat) (commands : List (Command L)) :
    (∀ front o back, serveTrace limit commands (.hosted options location library) = front ++ o :: back →
      ∀ look ∈ o.looks limit,
        OneLevel ((entrances limit front ++ look.entered).map (·.id)) look.router) ∧
    (∀ r, serve limit commands (.hosted options location library) = some r →
      OneLevel ((entrances limit
        (serveTrace limit commands (.hosted options location library))).map (·.id)) r) ∧
    ∀ t e, .turn t ∈ serveTrace limit commands (.hosted options location library) →
      t.entrance? limit = some e →
        e.moment.current = some e.id ∧ e.moment.session.previous? e.id = t.before.current := by
  have first : Lineage (([] : List (Entrance L)).map (·.id)) (.hosted options location library) :=
    .hosted options location library
  obtain ⟨inside, atEnd⟩ := (passage_serve limit commands _).lineage first
  refine ⟨fun front o back split look seen => ?_, fun r ended => ?_, fun t e turn here => ?_⟩
  · have before := inside front o back split
    rw [List.map_append, ← List.nil_append (entrances limit front)]
    exact (before.looks seen).oneLevel
  · exact (atEnd r ended).oneLevel
  · obtain ⟨front, back, split⟩ := List.append_of_mem turn
    have before := inside front (.turn t) back split
    have moment := (before.of_entrance? here).oneLevel
    have current : e.moment.current = some e.id := by
      rw [moment.current, List.getLast?_concat]
    refine ⟨current, ?_⟩
    rw [moment.previous e.id current, List.dropLast_concat]
    exact before.current.symm

/-- Two pages are entered at their registration and once more at a dispatch: the last chain is linked to the one
before it, and that one to none. -/
theorem one_previous_level_pages :
    let commands : List (Command Location) := [.change (.setPath "/a"), .register (.path "/a") [] [.note "first"],
      .register (.path "/a") [] [.note "second"], .dispatch]
    let r₀ := Router.created {} (.memory (.opened "/")) []
    (∃ r, serve 20 commands r₀ = some r ∧ OneLevel [0, 1, 2, 3] r ∧ r.session.previous? 3 = some 2 ∧
      r.session.previous? 2 = none) ∧
    ∃ front o back look, serveTrace 20 commands r₀ = front ++ o :: back ∧ look ∈ o.looks 20 ∧
      OneLevel ((entrances 20 front ++ look.entered).map (·.id)) look.router := by
  intro commands r₀
  obtain ⟨inside, atEnd, -⟩ := one_previous_level {} (Location.memory (.opened "/")) [] 20 commands
  constructor
  · have ran : (serve 20 commands r₀).isSome = true := by decide +kernel
    have ids : (entrances 20 (serveTrace 20 commands r₀)).map (·.id) = [0, 1, 2, 3] := by decide +kernel
    obtain ⟨r, ended⟩ := Option.isSome_iff_exists.1 ran
    have level : OneLevel [0, 1, 2, 3] r := ids ▸ atEnd r ended
    have linked : r.session.previous? 3 = some 2 := level.previous 3 level.current
    refine ⟨r, ended, level, linked, ?_⟩
    have none := level.grandparent 3
    rwa [linked, Option.bind_some] at none
  · have seen : ((serveTrace 20 commands r₀).any fun o => !(o.looks 20).isEmpty) = true := by decide +kernel
    obtain ⟨o, known, some_look⟩ := List.any_eq_true.1 seen
    obtain ⟨front, back, split⟩ := List.append_of_mem known
    obtain ⟨look, look_seen⟩ := List.exists_mem_of_ne_nil (o.looks 20) (by simpa using some_look)
    exact ⟨front, o, back, look, split, look_seen, inside front o back split look look_seen⟩

end Routing
