import Routing.Proofs.Router.Turns
import Routing.Proofs.Session.Requests

/-!
# What a turn asks for

A route asks for a redirect through its chain, and only by the end of the run that the router makes of it.

* `Turn.asks?`: the redirect that an evaluation ends with
* `Turn.requested`: the requests in the course of it
* `Turn.asks?_iff`: the redirect is the latest request on a chain that the router ran without a failure
-/
namespace Routing

variable {L : Type} [Host L]

/-- What listeners ask for, while they are told of an event. -/
def Session.tellRequested (limit : Nat) (e : Event) : List Listener → Session → List (ChainId × String) :=
  tellTrace (fun _ m => m.requested limit) limit e

theorem Listener.redirect?_hear {limit : Nat} {e : Event} {l : Listener} {s t : Session}
    {out : Except RouterError Unit} (h : (l.hear limit e).start s = some (out, t)) {i : ChainId}
    {c : Chain} (hc : s.chain? i = some c) :
    t.redirect? i = latest i ((l.hearing e s).requested limit) (s.redirect? i) := by
  rw [start_hear] at h
  obtain ⟨⟨result, u⟩, acted, same⟩ := Option.map_eq_some_iff.1 h
  have stands := Session.redirect?_running acted hc
  cases result with
  | ok _ =>
    obtain ⟨-, rfl⟩ := Prod.mk.inj same
    exact stands
  | error failure =>
    obtain ⟨-, rfl⟩ := Prod.mk.inj same
    exact stands

theorem Session.redirect?_tell {limit : Nat} {e : Event} {ls : List Listener} {s t : Session}
    (h : s.tell limit e ls = some t) {i : ChainId} {c : Chain} (hc : s.chain? i = some c) :
    t.redirect? i = latest i (tellRequested limit e ls s) (s.redirect? i) := by
  induction ls generalizing s c with
  | nil =>
    obtain rfl := Option.some.inj h
    rfl
  | cons l ls ih =>
    obtain ⟨u, heard, rest⟩ := Option.bind_eq_some_iff.1 h
    obtain ⟨⟨out, v⟩, first, rfl⟩ := Option.map_eq_some_iff.1 heard
    obtain ⟨d, hd, -⟩ := (Listener.hear_aged first).2.grown i c hc
    rw [tellRequested, tellTrace, first, latest_append, ← Listener.redirect?_hear first hc]
    exact ih rest hd

namespace Turn

/-- What is asked for in the course of an evaluation: by listeners, and in the run of the chain. -/
def requested (limit : Nat) (t : Turn L) : List (ChainId × String) :=
  t.opened.tellRequested limit t.event (t.before.listenersOf .matched) ++
    (t.entrance? limit).elim [] fun e =>
      (Machine.call (e.moment.session.modify t.id Chain.start) t.id false []).requested limit

/-- The redirect that an evaluation ends with, and the router then. -/
def asks? (limit : Nat) (t : Turn L) : Option (String × Router L) :=
  match (Router.evaluate limit t.route).start t.before with
  | some (.ok (some target), r) => some (target, r)
  | _ => none

theorem asks?_eq_some_iff {limit : Nat} {t : Turn L} {target : String} {r : Router L} :
    t.asks? limit = some (target, r) ↔
      (Router.evaluate limit t.route).start t.before = some (.ok (some target), r) := by
  unfold asks?
  split
  · next ended => simp [ended]
  · next other =>
    refine ⟨nofun, fun ended => absurd ended (other target r)⟩

/-- Before anybody asks for a redirect there is none. -/
theorem redirect?_opened (t : Turn L) : t.opened.redirect? t.id = none := by
  rw [Session.redirect?, chain?_opened]
  rfl

theorem redirect?_entrance {limit : Nat} {t : Turn L} {e : Entrance L} (h : t.entrance? limit = some e) :
    e.moment.session.redirect? t.id = latest t.id
      (t.opened.tellRequested limit t.event (t.before.listenersOf .matched)) none := by
  obtain ⟨heard, known, -, rfl⟩ := exists_of_entrance? h
  obtain ⟨s, told, rfl⟩ := Option.map_eq_some_iff.1 known
  have stands := Session.redirect?_tell told t.chain?_opened
  rw [t.redirect?_opened] at stands
  exact (s.redirect?_link t.id t.id _).trans stands

/-- What a chain asks for when its run has ended is the latest request on it. -/
theorem redirect?_ran {limit : Nat} {t : Turn L} {e : Entrance L} (h : t.entrance? limit = some e)
    {out : Except RouterError Unit} {s : Session}
    (ran : (Session.run limit t.id).start e.moment.session = some (out, s)) :
    s.redirect? t.id = latest t.id (t.requested limit) none := by
  obtain ⟨c, hc, -⟩ := (entrance_facts h).2.2.2.grown t.id _ t.chain?_opened
  have started : e.moment.session.Aged
      (Machine.call (e.moment.session.modify t.id Chain.start) t.id false []).session :=
    (e.moment.session.aged_modify t.id Chain.start fun _ => ⟨rfl, rfl, fun h => h⟩).trans
      (Machine.call_aged _ t.id false [])
  obtain ⟨d, hd, -⟩ := started.grown t.id c hc
  have untouched :
      (Machine.call (e.moment.session.modify t.id Chain.start) t.id false []).session.redirect? t.id =
        e.moment.session.redirect? t.id :=
    (Machine.redirect?_call _ t.id t.id false []).trans
      (e.moment.session.redirect?_modify t.id t.id fun _ => rfl)
  rw [Session.redirect?_running ran hd, untouched, redirect?_entrance h, ← latest_append, requested, h]
  rfl

/-- An evaluation ends with a redirect if the router ran the chain, the run had no failure, and the chain
was asked for it last. -/
theorem asks?_iff {limit : Nat} {t : Turn L} {target : String} {r : Router L} :
    t.asks? limit = some (target, r) ↔ ∃ e s, t.entrance? limit = some e ∧ e.ran = true ∧
      (Session.run limit t.id).start e.moment.session = some (.ok (), s) ∧
      (requestsOf t.id (t.requested limit)).getLast? = some target ∧
      r = { e.moment with session := (s.takeRedirect t.id).2 } := by
  rw [asks?_eq_some_iff]
  constructor
  · intro ended
    cases entered : t.entrance? limit with
    | none => cases (end_of_no_entrance entered ended).1
    | some e =>
      rw [start_evaluate_of_entrance? entered] at ended
      split at ended
      · next ran =>
        obtain ⟨⟨out, s⟩, finished, same⟩ := Option.map_eq_some_iff.1 ended
        have stands := redirect?_ran entered finished
        cases out with
        | error f => cases (Prod.mk.inj same).1
        | ok _ =>
          obtain ⟨asked, rfl⟩ := Prod.mk.inj same
          refine ⟨e, s, rfl, ran, finished, ?_, rfl⟩
          rw [← Except.ok.inj asked, ← Session.redirect?, stands, latest, Option.or_none]
      · cases (Prod.mk.inj (Option.some.inj ended)).1
  · rintro ⟨e, s, entered, ran, finished, last, rfl⟩
    have stands := redirect?_ran entered finished
    rw [latest, Option.or_none, last] at stands
    rw [start_evaluate_of_entrance? entered, if_pos ran, runs, finished, Option.map_some, ← stands]
    rfl

end Turn

end Routing
