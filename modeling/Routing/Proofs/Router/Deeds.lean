import Routing.Proofs.Router.Parts
import Routing.Proofs.Session.Continuations

/-!
# What a router does to chains

What a router does at one command after another is deed upon deed, and it runs no chain twice.

* `Session.Led`: deeds that lead from a session to another, with the chains that are run by them
* `Turn.led`, `Occasion.served`: what is done at an occasion
* `exists_deeds_of_serve`: what is done at one command after another
* `one_live_continuation`: a chain that is run once has one continuation at most
-/
namespace Routing

open Machine

variable {L : Type} [Host L]

/-- The chain that someone runs by the deed, if it is not a handler that runs its own. -/
def Machine.Deed.run? : Deed → Option ChainId
  | start id => some id
  | _ => none

/-- Deeds lead from a session to another, and the chains are run by them. -/
def Session.Led (s : Session) (runs : List ChainId) (t : Session) : Prop :=
  ∃ ds, (⟨s, [], none⟩ : Machine).deeds ds = ⟨t, [], none⟩ ∧ ds.filterMap Deed.run? = runs

namespace Session

namespace Led

theorem refl (s : Session) : s.Led [] s :=
  ⟨[], rfl, rfl⟩

theorem trans {s t u : Session} {runs more : List ChainId} (h : s.Led runs t) (k : t.Led more u) :
    s.Led (runs ++ more) u := by
  obtain ⟨ds, here, rfl⟩ := h
  obtain ⟨es, there, rfl⟩ := k
  exact ⟨ds ++ es, by rw [deeds_append, here, there], List.filterMap_append⟩

theorem andThen {s t u : Session} {runs : List ChainId} (h : s.Led runs t) (k : t.Led [] u) :
    s.Led runs u :=
  List.append_nil runs ▸ h.trans k

end Led

theorem led_note (s : Session) (change : Session → Session) (chains : (change s).chains = s.chains)
    (parked : (change s).parked = s.parked) : s.Led [] (change s) := by
  refine ⟨[.note change], ?_, rfl⟩
  simp only [deeds, deed, ← chains, ← parked]

theorem led_report (s : Session) (records : List Log.Record) : s.Led [] (s.report records) :=
  s.led_note (·.report records) rfl rfl

theorem led_observe (s : Session) (o : Observation) : s.Led [] (s.observe o) :=
  s.led_note (·.observe o) rfl rfl

theorem led_mark (s : Session) (id : ChainId) (change : Chain → Chain)
    (other : ∀ c, (change c).queue = c.queue ∧ (change c).context = c.context) :
    s.Led [] (s.modify id change) := by
  refine ⟨[.mark id change], ?_, rfl⟩
  have same : (fun c => { change c with queue := c.queue, context := c.context }) = change := by
    funext c
    obtain ⟨queue, context⟩ := other c
    rw [← queue, ← context]
  simp only [deeds, deed, same]

theorem led_link (s : Session) (id : ChainId) (before : Option ChainId) :
    s.Led [] (s.link id before) := by
  have linked (s : Session) : s.Led [] (s.modify id fun c => { c with previous := before }) :=
    s.led_mark id _ fun _ => ⟨rfl, rfl⟩
  cases before with
  | none => exact linked s
  | some b =>
    have unlinked := s.led_mark b (fun c => { c with previous := none }) fun _ => ⟨rfl, rfl⟩
    exact unlinked.trans (linked _)

theorem led_enqueue (s : Session) (id : ChainId) (batch : List Handler) :
    s.Led [] (s.enqueue id batch) := by
  refine ⟨[.enter (some id) [.enqueue batch], .step, .step], ?_, rfl⟩
  have found : s.sceneChain? ⟨some id, none⟩ = (s.chain? id).map (id, ·) := rfl
  simp only [deeds, deed, step, take, found]
  cases hc : s.chain? id with
  | none => simp [leave, enqueue, hc]
  | some c => rfl

end Session

/-- To run the handlers that are under way to their end is step upon step. -/
theorem Machine.exists_steps_of_run {limit : Nat} {m m' : Machine} (h : m.run limit = some m') :
    ∃ ds, m.deeds ds = m' ∧ ds.filterMap Deed.run? = [] ∧ m'.frames = [] := by
  refine run_induction (P := fun m => ∃ ds, m.deeds ds = m' ∧ ds.filterMap Deed.run? = [] ∧ m'.frames = [])
    h (fun empty => ⟨[], rfl, rfl, empty⟩) fun m _ later => ?_
  obtain ⟨ds, rfl, quiet, empty⟩ := later
  exact ⟨.step :: ds, rfl, quiet, empty⟩

namespace Session

/-- Handlers run to their end, and a failure is taken note of. -/
theorem led_running {limit : Nat} {s t : Session} {d : Deed} {out : Except RouterError Unit}
    (h : (running limit fun s => (⟨s, [], none⟩ : Machine).deed d).start s = some (out, t)) :
    s.Led d.run?.toList t := by
  obtain ⟨m, finished, last⟩ := exists_run_of_running h
  obtain ⟨ds, rfl, quiet, empty⟩ := exists_steps_of_run finished
  -- whoever comes next begins without the failure
  refine ⟨d :: ds ++ [.enter none [], .step], ?_, ?_⟩
  · have next {m : Machine} (idle : m.frames = []) :
        m.deeds [.enter none [], .step] = ⟨m.session, [], none⟩ := by
      obtain ⟨s, frames, failure⟩ := m
      obtain rfl : frames = [] := idle
      rfl
    rw [List.cons_append, deeds, deeds_append, next empty, last]
  · rw [List.filterMap_append, List.filterMap_cons, quiet]
    cases d <;> rfl

theorem led_act {limit : Nat} {chain : Option ChainId} {actions : List Action} {s t : Session}
    {out : Except RouterError Unit} (h : (act limit chain actions).start s = some (out, t)) :
    s.Led [] t :=
  led_running (d := .enter chain actions) h

theorem led_run {limit : Nat} {id : ChainId} {s t : Session} {out : Except RouterError Unit}
    (h : (run limit id).start s = some (out, t)) : s.Led [id] t :=
  led_running (d := .start id) h

end Session

theorem Listener.led_hear {limit : Nat} {e : Event} {l : Listener} {s t : Session}
    {out : Except RouterError Unit} (h : (l.hear limit e).start s = some (out, t)) : s.Led [] t := by
  rw [start_hear] at h
  obtain ⟨⟨result, u⟩, acted, same⟩ := Option.map_eq_some_iff.1 h
  have led : s.Led [] u := (s.led_observe e.observation).trans (Session.led_act acted)
  cases result with
  | ok _ =>
    obtain ⟨-, rfl⟩ := Prod.mk.inj same
    exact led
  | error failure =>
    obtain ⟨-, rfl⟩ := Prod.mk.inj same
    exact led.trans (u.led_observe _)

theorem Session.led_tell {limit : Nat} {e : Event} {ls : List Listener} {s t : Session}
    (h : s.tell limit e ls = some t) : s.Led [] t := by
  induction ls generalizing s with
  | nil =>
    obtain rfl := Option.some.inj h
    exact .refl s
  | cons l ls ih =>
    obtain ⟨u, heard, rest⟩ := Option.bind_eq_some_iff.1 h
    obtain ⟨⟨out, v⟩, first, rfl⟩ := Option.map_eq_some_iff.1 heard
    exact (Listener.led_hear first).trans (ih rest)

/-! ## Routers -/

namespace Turn

/-- The chain that the router runs in an evaluation. -/
def started? (limit : Nat) (t : Turn L) : Option ChainId :=
  (t.entrance? limit).bind fun e => if e.ran then some t.id else none

theorem led_opened (t : Turn L) : t.before.session.Led [] t.opened := by
  have reported := (t.before.session.led_report (t.route.pattern.parseLog t.request)).trans
    (Session.led_report _ [t.matchLog])
  have created (s : Session) : s.Led [] (s.create t.made).2 :=
    ⟨[.create t.request.path (t.route.pattern.context t.request) t.before.globals], rfl, rfl⟩
  exact (reported.trans (created _)).trans (Session.led_enqueue ..)

/-- An evaluation runs its chain, or none. -/
theorem led {limit : Nat} {t : Turn L} {out : Except RouterError (Option String)} {r' : Router L}
    (ended : (Router.evaluate limit t.route).start t.before = some (out, r')) :
    t.before.session.Led (t.started? limit).toList r'.session := by
  cases entrance : t.entrance? limit with
  | none =>
    have idle : (t.started? limit).toList = [] := by simp [started?, entrance]
    rw [idle]
    rw [start_evaluate] at ended
    obtain ⟨fate, known, ended⟩ := Option.bind_eq_some_iff.1 ended
    obtain ⟨rfl, -⟩ | ⟨-, heard, told, ⟨rfl, -⟩ | ⟨rfl, -⟩⟩ := fate?_cases known
    · obtain ⟨-, rfl⟩ := Prod.mk.inj (Option.some.inj ended)
      exact Session.led_report ..
    · obtain ⟨-, rfl⟩ := Prod.mk.inj (Option.some.inj ended)
      obtain ⟨s, telling, rfl⟩ := Option.map_eq_some_iff.1 told
      exact (t.led_opened.trans (Session.led_tell telling)).trans (Session.led_report ..)
    · simp [entrance?, known] at entrance
  | some e =>
    obtain ⟨heard, told, -, rfl⟩ := exists_of_entrance? entrance
    obtain ⟨s, telling, rfl⟩ := Option.map_eq_some_iff.1 told
    have entered := (t.led_opened.trans (Session.led_tell telling)).trans
      (Session.led_link s t.id t.before.current)
    rw [start_evaluate_of_entrance? entrance] at ended
    split at ended
    · next ran =>
      have only : (t.started? limit).toList = [t.id] := by simp [started?, entrance, ran]
      rw [only]
      obtain ⟨⟨result, u⟩, finished, same⟩ := Option.map_eq_some_iff.1 ended
      have run := entered.trans (Session.led_run finished)
      cases result with
      | ok _ =>
        obtain ⟨-, rfl⟩ := Prod.mk.inj same
        exact run.andThen (u.led_mark t.id _ fun _ => ⟨rfl, rfl⟩)
      | error f =>
        obtain ⟨-, rfl⟩ := Prod.mk.inj same
        exact run.andThen (u.led_report _)
    · next veto =>
      have idle : (t.started? limit).toList = [] := by simp [started?, entrance, veto]
      rw [idle]
      obtain ⟨-, rfl⟩ := Prod.mk.inj (Option.some.inj ended)
      have silenced := (s.link t.id t.before.current).led_mark t.id Chain.stopPropagation
        fun _ => ⟨rfl, rfl⟩
      exact (entered.trans silenced).trans (Session.led_report ..)

/-- The chain that is run was made in the evaluation. -/
theorem fresh_run {limit : Nat} {t : Turn L} {out : Except RouterError (Option String)} {r' : Router L}
    (ended : (Router.evaluate limit t.route).start t.before = some (out, r')) {id : ChainId}
    (run : t.started? limit = some id) :
    t.before.session.chains.length ≤ id ∧ id < r'.session.chains.length := by
  obtain ⟨e, entrance, ran⟩ := Option.bind_eq_some_iff.1 run
  obtain rfl : t.id = id := by
    split at ran
    · exact Option.some.inj ran
    · cases ran
  obtain ⟨-, -, -, aged⟩ := entrance_facts entrance
  obtain ⟨-, -, aged'⟩ := end_of_entrance entrance ended
  obtain ⟨c, hc, -⟩ := (aged.trans aged').grown t.id _ t.chain?_opened
  exact ⟨Nat.le_refl _, Session.lt_of_chain? hc⟩

end Turn

/-- A router led from a session to another, and ran none but new chains, and none of them twice. -/
structure Session.Served (s t : Session) (runs : List ChainId) : Prop where
  led : s.Led runs t
  grows : s.chains.length ≤ t.chains.length
  fresh : ∀ id ∈ runs, s.chains.length ≤ id ∧ id < t.chains.length
  once : runs.Nodup

namespace Session.Served

theorem of_led {s t : Session} (led : s.Led [] t) (grows : s.chains.length ≤ t.chains.length) :
    s.Served t [] :=
  ⟨led, grows, nofun, .nil⟩

theorem trans {s t u : Session} {runs more : List ChainId} (h : s.Served t runs)
    (k : t.Served u more) : s.Served u (runs ++ more) where
  led := h.led.trans k.led
  grows := Nat.le_trans h.grows k.grows
  fresh id hid := by
    obtain hid | hid := List.mem_append.1 hid
    · exact ⟨(h.fresh id hid).1, Nat.lt_of_lt_of_le (h.fresh id hid).2 k.grows⟩
    · exact ⟨Nat.le_trans h.grows (k.fresh id hid).1, (k.fresh id hid).2⟩
  once := by
    refine List.nodup_append.2 ⟨h.once, k.once, ?_⟩
    rintro i hi j hj rfl
    exact absurd (h.fresh i hi).2 (Nat.not_lt.2 (k.fresh i hj).1)

end Session.Served

theorem Router.Rests.served {r r' : Router L} (h : r.Rests r') : r.session.Served r'.session [] := by
  obtain ⟨records, same⟩ := h.session
  rw [same]
  exact .of_led (r.session.led_report records) (Nat.le_refl _)

theorem Occasion.served {limit : Nat} {o : Occasion L} {r' : Router L} (h : o.after? limit = some r') :
    ∃ runs, o.before.session.Served r'.session runs := by
  cases o with
  | turn t =>
    obtain ⟨out, ended⟩ := after_turn h
    refine ⟨_, t.led ended, (Turn.keeps_and_grown ended).2.length_le, fun id hid => ?_, ?_⟩
    · exact Turn.fresh_run ended (Option.mem_toList.1 hid)
    · cases t.started? limit <;> simp
  | change kind r =>
    obtain ⟨s, told, rfl⟩ := after_change h
    exact ⟨_, .of_led (Session.led_tell told) (Nat.le_of_eq (Session.tell_aged told).length.symm)⟩
  | act chain actions r =>
    obtain ⟨result, s, acted, rfl⟩ := after_act h
    exact ⟨_, .of_led (Session.led_act acted) (Nat.le_of_eq (Session.act_aged acted).length.symm)⟩

theorem Passage.served {limit : Nat} {r r' : Router L} {os : List (Occasion L)}
    (h : Passage limit r os (some r')) : ∃ runs, r.session.Served r'.session runs := by
  generalize ended : some r' = last at h
  induction h with
  | rest rests =>
    obtain rfl := Option.some.inj ended
    exact ⟨_, rests.served⟩
  | next rests after _ ih =>
    obtain ⟨runs, here⟩ := Occasion.served after
    obtain ⟨more, later⟩ := ih ended
    exact ⟨_, (rests.served.trans here).trans later⟩
  | stuck => cases ended

/-! ## Runs -/

namespace Machine

/-- Whether a handler, or whoever else acts, runs the chain that the actions speak about. -/
def Deed.reruns (id : ChainId) (m : Machine) (d : Deed) : Nat :=
  match d.action? m with
  | some (scene, .run) => if scene.chain = some id then 1 else 0
  | _ => 0

def reruns (id : ChainId) (m : Machine) : List Deed → Nat
  | [] => 0
  | d :: ds => d.reruns id m + (m.deed d).reruns id ds

theorem Deed.starts_le (id : ChainId) (m : Machine) (d : Deed) :
    d.starts id m ≤ d.run?.toList.count id + d.reruns id m := by
  have acted (h : d.act? m = (d.action? m).bind fun p => p.2.act? m.session p.1) :
      d.starts id m ≤ d.reruns id m := by
    unfold starts
    split
    · next i guarded run =>
      obtain ⟨⟨scene, a⟩, action, act⟩ := Option.bind_eq_some_iff.1 (h.symm.trans run)
      cases a with
      | run =>
        obtain ⟨⟨j, c⟩, found, same⟩ := Option.map_eq_some_iff.1 act
        obtain ⟨k, here, known⟩ := Option.bind_eq_some_iff.1 found
        obtain ⟨c', -, both⟩ := Option.map_eq_some_iff.1 known
        obtain ⟨rfl, -⟩ := Prod.mk.inj both
        obtain ⟨rfl, -⟩ := ChainAct.run.inj same
        have here : scene.chain = some k := here
        simp [reruns, action, own, here]
      | _ => simp [Action.act?] at act
    · exact Nat.zero_le _
  cases d with
  | step | improvise => exact Nat.le_add_left_of_le (acted rfl)
  | start i => simp [starts, act?, run?, own, List.count_cons]
  | _ => exact Nat.zero_le _

theorem starts_le (id : ChainId) (m : Machine) (ds : List Deed) :
    m.starts id ds ≤ (ds.filterMap Deed.run?).count id + m.reruns id ds := by
  induction ds generalizing m with
  | nil => exact Nat.zero_le _
  | cons d ds ih =>
    have here := d.starts_le id m
    have later := ih (m.deed d)
    have both : ((d :: ds).filterMap Deed.run?).count id =
        d.run?.toList.count id + (ds.filterMap Deed.run?).count id := by
      rw [List.filterMap_cons]
      cases d.run? <;> simp [List.count_cons, Nat.add_comm]
    rw [starts, reruns, both]
    omega

end Machine

/-- What a router does at one command after another is deed upon deed, and it runs each chain once at most: all
other runs of the chain are due to those who act on it. -/
theorem exists_deeds_of_serve {options : RouterOptions} {location : L}
    {library : List (String × Handler)} {limit : Nat} {commands : List (Command L)} {r : Router L}
    (served : serve limit commands (.hosted options location library) = some r) :
    ∃ ds, (idle library).deeds ds = ⟨r.session, [], none⟩ ∧
      ∀ id, (idle library).starts id ds ≤ 1 + (idle library).reruns id ds := by
  have passage := passage_serve limit commands (.hosted options location library)
  rw [served] at passage
  obtain ⟨runs, all⟩ := passage.served
  have created : Session.Served { library } (Router.hosted options location library).session [] :=
    .of_led (Session.led_report { library } _) (Nat.le_refl _)
  obtain ⟨⟨ds, ended, same⟩, -, -, once⟩ := created.trans all
  refine ⟨ds, ended, fun id => Nat.le_trans (starts_le id _ ds) (Nat.add_le_add_right ?_ _)⟩
  rw [same]
  exact List.nodup_iff_count_le_one.1 once id

/-- A chain that is run once has one continuation at most that nobody has called yet, whatever handlers and others
do. While a slot has it, no handler of the chain is called unless someone calls this very continuation; once it is
dropped, no handler of the chain is ever called, and no fewer wait. What a router does is no exception, and it
runs each chain once at most by itself. -/
theorem one_live_continuation (library : List (String × Handler)) (id : ChainId)
    (before rest : List Deed) (once : (idle library).starts id (before ++ rest) ≤ 1) :
    OneLive id ((idle library).deeds before) rest ∧
      ∀ options (location : L) limit commands r,
        serve limit commands (.hosted options location library) = some r →
          ∃ ds, (idle library).deeds ds = ⟨r.session, [], none⟩ ∧
            ∀ id, (idle library).starts id ds ≤ 1 + (idle library).reruns id ds := by
  refine ⟨.of_once ?_, fun _ _ _ _ _ served => exists_deeds_of_serve served⟩
  have left := live_deeds id (idle library) before
  have none_ : (idle library).live id = 0 := rfl
  rw [starts_append] at once
  omega

/-- A handler puts its continuation aside. What others hand to the chain then waits, up to the call of this
continuation. -/
theorem one_live_continuation_slot :
    ∃ before rest, (idle []).starts 0 (before ++ rest) ≤ 1 ∧
      ((idle []).deeds before).session.parked.lookup "slot" = some 0 ∧
      OneLive 0 ((idle []).deeds before) rest ∧
      ((idle []).deeds before).called rest = [(0, [.note "now"]), (0, [.note "last"])] := by
  let context : RouteContext := ⟨"/a", ⟨"/a", true, [], .empty, []⟩, ⟨"/a", false, .empty⟩⟩
  let before : List Deed := [.create "/a" context [[.park "slot"]], .start 0, .step, .step]
  let rest : List Deed := [.enter (some 0) [.enqueue [[.note "now"], [.note "last"]]], .step, .step,
    .enter none [.resume "slot"], .step, .improvise .next]
  have once : (idle []).starts 0 (before ++ rest) ≤ 1 := by decide
  have there : ((idle []).deeds before).session.parked.lookup "slot" = some 0 := by rfl
  have calls : ((idle []).deeds before).called rest =
      [(0, [.note "now"]), (0, [.note "last"])] := by rfl
  exact ⟨before, rest, once, there, (one_live_continuation (L := Location) [] 0 before rest once).1, calls⟩

end Routing
