import Routing.Proofs.Router.Alike
import Routing.Proofs.Router.Lineage
import Routing.Proofs.Session.Missing

/-!
# Numbers that stand for chains

In every router that there can be, whatever number stands for a chain, there is that chain. So the router is
alike to itself.

* `Router.Closed`, `Router.alike_self_iff`: all numbers are numbers of chains
* `Turn.length_after`: how many chains an evaluation makes
* `Router.Twins`, `Router.Twins.evaluate`: routers with the same chains
* `Router.Closed.after`, `closed_of_serve`: what is asked of a router leaves it closed
-/
namespace Routing

open Router

variable {L : Type} [Host L]

/-- Whatever number stands for a chain, there is that chain. -/
structure Router.Closed (r : Router L) : Prop where
  session : r.session.Closed
  current : ∀ id, r.current = some id → id < r.session.chains.length

theorem Router.alike_self_iff {r : Router L} {extra : Observation → Prop} :
    r.Alike (Session.upTo r.session.chains.length) extra r ↔ r.Closed := by
  constructor
  · intro h
    exact ⟨Session.alike_self_iff.1 h.session, Session.rel_upTo_iff.1 h.current⟩
  · intro closed
    exact ⟨rfl, rfl, rfl, rfl, Session.rel_upTo_iff.2 closed.current,
      Session.alike_self_iff.2 closed.session⟩

/-- An evaluation makes a chain if the route matches. -/
theorem Turn.length_after {limit : Nat} {t : Turn L} {out : Except RouterError (Option String)} {r' : Router L}
    (ended : (evaluate limit t.route).start t.before = some (out, r')) :
    r'.session.chains.length = t.before.session.chains.length + if t.request.matched then 1 else 0 := by
  cases here : t.entrance? limit with
  | some e =>
    obtain ⟨heard, told, -, rfl⟩ := exists_of_entrance? here
    have hit : t.request.matched = true := by
      rw [← Bool.not_eq_false]
      intro miss
      simp [entrance?, fate?, miss] at here
    rw [(end_of_entrance here ended).2.2.length, (entrance_facts here).2.2.2.length, t.length_opened,
      if_pos hit]
  | none =>
    rw [start_evaluate] at ended
    obtain ⟨fate, known, ended⟩ := Option.bind_eq_some_iff.1 ended
    obtain ⟨rfl, miss⟩ | ⟨hit, heard, told, ⟨rfl, -⟩ | ⟨rfl, -⟩⟩ := fate?_cases known
    · obtain ⟨-, rfl⟩ := Prod.mk.inj (Option.some.inj ended)
      rw [if_neg (by simp [miss])]
      rfl
    · obtain ⟨-, rfl⟩ := Prod.mk.inj (Option.some.inj ended)
      rw [if_pos hit, ← t.length_opened]
      exact (aged_heard told).1.length
    · rw [entrance?, known] at here
      cases here

/-! ## Twins -/

/-- The routers differ in nothing that an evaluation looks at, and have the same chains. -/
structure Router.Twins (r q : Router L) : Prop where
  alike : r.Alike (Session.upTo r.session.chains.length) (fun _ => False) q
  length : q.session.chains.length = r.session.chains.length

namespace Router

theorem twins_self_iff {r : Router L} : r.Twins r ↔ r.Closed :=
  ⟨fun h => alike_self_iff.1 h.alike, fun closed => ⟨alike_self_iff.2 closed, rfl⟩⟩

/-- An evaluation ends in the same way at both, and they are twins again. -/
theorem Twins.evaluate {r q : Router L} (h : r.Twins q) (limit : Nat) (route : Route) :
    Option.Rel (fun o o' => o'.1 = o.1 ∧ o.2.Twins o'.2) ((Router.evaluate limit route).start r)
      ((Router.evaluate limit route).start q) := by
  let t : Turn L := ⟨route, r⟩
  let u : Turn L := ⟨route, q⟩
  have turn : t.Alike (Session.upTo t.id) (fun _ => False) u := ⟨rfl, h.alike⟩
  obtain ⟨left, right⟩ | ⟨⟨out, r'⟩, ⟨_, q'⟩, left, right, rfl, alike⟩ := (turn.evaluate limit).either
  · rw [left, right]
    exact .none
  · have length := Turn.length_after (t := t) left
    have length' := Turn.length_after (t := u) right
    rw [turn.request] at length'
    have after : (Session.upTo t.id).after t u = Session.upTo r'.session.chains.length := by
      rw [length, Renumbering.after]
      cases t.request.matched with
      | false => rfl
      | true =>
        rw [show u.id = t.id from h.length]
        exact Session.upTo_insert t.id
    rw [left, right]
    exact .some ⟨rfl, after ▸ alike, by rw [length, length', h.length]⟩

end Router

namespace Session.Closed

variable {s t : Session} {limit : Nat}

/-- A session that is still alike to itself, and in which no chain was made. -/
theorem of_alike {extra : Observation → Prop} (h : t.Alike (upTo s.chains.length) extra t)
    (length : t.chains.length = s.chains.length) : t.Closed :=
  alike_self_iff.1 (length.symm ▸ h)

theorem tell (h : s.Closed) {e : Event} (about_none : e.chain? = none) {ls : List Listener}
    (told : s.tell limit e ls = some t) : t.Closed := by
  have self : s.Alike (upTo s.chains.length) (fun _ => False) s := alike_self_iff.2 h
  have both := self.tell (e := e) limit rfl (by rw [about_none]; exact .none) ls
  rw [told] at both
  exact of_alike (Option.rel_some_some.1 both) (tell_aged told).length

theorem act (h : s.Closed) {chain : Option ChainId} {actions : List Action}
    {result : Except RouterError Unit} (acted : (act limit chain actions).start s = some (result, t)) :
    t.Closed := by
  have self : s.Alike (upTo s.chains.length) (fun _ => False) s := alike_self_iff.2 h
  have closed {chain : Option ChainId} (known : Option.Rel (upTo s.chains.length) chain chain)
      (acted : (Session.act limit chain actions).start s = some (result, t)) : t.Closed := by
    have both : Option.Rel (fun o o' => o'.1 = o.1 ∧ o.2.Alike (upTo s.chains.length) (fun _ => False) o'.2)
        ((Session.act limit chain actions).start s) ((Session.act limit chain actions).start s) :=
      running_alike ⟨self, .cons ⟨⟨known, .none⟩, rfl, rfl⟩ .nil, rfl⟩
    rw [acted] at both
    exact of_alike (Option.rel_some_some.1 both).2 (act_aged acted).length
  cases chain with
  | none => exact closed .none acted
  | some id =>
    by_cases there : id < s.chains.length
    · exact closed (.some ⟨rfl, there⟩) acted
    · -- anyone may hold a number that no chain has
      rw [act_missing (List.getElem?_eq_none (Nat.le_of_not_lt there))] at acted
      exact closed .none acted

end Session.Closed

namespace Router.Closed

variable {r r' : Router L} {limit : Nat}

theorem hosted (options : RouterOptions) (location : L) (library : List (String × Handler)) :
    Closed (.hosted options location library) where
  session := by
    refine ⟨fun id before linked => ?_, by simp [Router.hosted], by simp [Router.hosted]⟩
    rw [Session.previous?_eq_links] at linked
    cases linked
  current := nofun

theorem of_session (h : r.Closed) (current : r'.current = r.current) (closed : r'.session.Closed)
    (length : r'.session.chains.length = r.session.chains.length) : r'.Closed :=
  ⟨closed, fun id here => length ▸ h.current id (current ▸ here)⟩

theorem rests (h : r.Closed) (rests : r.Rests r') : r'.Closed := by
  obtain ⟨records, same⟩ := rests.session
  have closed : r'.session.Closed := by
    rw [same]
    exact h.session.report records
  exact h.of_session rests.current closed rests.aged.length

theorem evaluate {t : Turn L} (h : t.before.Closed) {out : Except RouterError (Option String)}
    (ended : (Router.evaluate limit t.route).start t.before = some (out, r')) : r'.Closed := by
  have both := (twins_self_iff.2 h).evaluate limit t.route
  rw [ended] at both
  exact twins_self_iff.1 (Option.rel_some_some.1 both).2

theorem after {o : Occasion L} (h : o.before.Closed) (ended : o.after? limit = some r') : r'.Closed := by
  cases o with
  | turn t =>
    obtain ⟨out, ended⟩ := Occasion.after_turn ended
    exact h.evaluate ended
  | change kind r =>
    obtain ⟨s, told, rfl⟩ := Occasion.after_change ended
    exact of_session (r := r) h rfl (h.session.tell rfl told) (Session.tell_aged told).length
  | act chain actions r =>
    obtain ⟨result, s, acted, rfl⟩ := Occasion.after_act ended
    exact of_session (r := r) h rfl (h.session.act acted) (Session.act_aged acted).length

end Router.Closed

/-- Whatever is asked of a router, it stays closed. -/
theorem closed_of_serve {limit : Nat} {commands : List (Command L)} {r r' : Router L} (h : r.Closed)
    (served : serve limit commands r = some r') : r'.Closed :=
  ((passage_serve limit commands r).invariant (fun _ r => r.Closed) (fun h rests => h.rests rests)
    (fun h ended => h.after ended) [] h).2 r' served

end Routing
