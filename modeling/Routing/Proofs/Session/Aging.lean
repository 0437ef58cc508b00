import Routing.Proofs.Operation
import Routing.Proofs.Session.Acts

/-!
# What stays as time goes by

Chains are never removed. They keep the path and the route for which they were made, and a chain that
stopped propagation does not take that back.

* `Chain.Aged`, `Session.Grown`, `Session.Aged`: a chain and a session at a later time
* `Machine.step_aged`, `Session.running_aged`: handlers make no chains, and age those there are
-/
namespace Routing

structure Chain.Aged (c d : Chain) : Prop where
  value : d.value = c.value
  context : d.context = c.context
  propagates : d.propagates = true → c.propagates = true

theorem Chain.Aged.refl (c : Chain) : c.Aged c :=
  ⟨rfl, rfl, id⟩

theorem Chain.Aged.trans {a b c : Chain} (h : a.Aged b) (k : b.Aged c) : a.Aged c :=
  ⟨k.value.trans h.value, k.context.trans h.context, fun p => h.propagates (k.propagates p)⟩

namespace Session

/-- Every chain is still there. -/
def Grown (s t : Session) : Prop :=
  ∀ id c, s.chain? id = some c → ∃ d, t.chain? id = some d ∧ c.Aged d

/-- Every chain is still there, and there is no other. -/
structure Aged (s t : Session) : Prop where
  grown : s.Grown t
  length : t.chains.length = s.chains.length

theorem Grown.refl (s : Session) : s.Grown s :=
  fun _ c hc => ⟨c, hc, .refl c⟩

theorem Grown.trans {s t u : Session} (h : s.Grown t) (k : t.Grown u) : s.Grown u := by
  intro id c hc
  obtain ⟨d, hd, hcd⟩ := h id c hc
  obtain ⟨e, he, hde⟩ := k id d hd
  exact ⟨e, he, hcd.trans hde⟩

theorem Grown.length_le {s t : Session} (h : s.Grown t) : s.chains.length ≤ t.chains.length := by
  cases last : s.chains.length with
  | zero => exact Nat.zero_le _
  | succ n =>
    obtain ⟨c, hc⟩ : ∃ c, s.chain? n = some c := Option.isSome_iff_exists.1 (by simp [chain?, last])
    obtain ⟨d, hd, -⟩ := h n c hc
    exact lt_of_chain? hd

theorem Aged.refl (s : Session) : s.Aged s :=
  ⟨.refl s, rfl⟩

theorem Aged.trans {s t u : Session} (h : s.Aged t) (k : t.Aged u) : s.Aged u :=
  ⟨h.grown.trans k.grown, k.length.trans h.length⟩

theorem aged_of_chains {s t u : Session} (same : u.chains = t.chains) (h : s.Aged t) : s.Aged u := by
  refine ⟨fun id c hc => ?_, by rw [same, h.length]⟩
  obtain ⟨d, hd, aged⟩ := h.grown id c hc
  exact ⟨d, by rwa [chain?, same], aged⟩

theorem Aged.report {s t : Session} (h : s.Aged t) (records : List Log.Record) :
    s.Aged (t.report records) :=
  ⟨h.grown, h.length⟩

theorem Aged.observe {s t : Session} (h : s.Aged t) (o : Observation) : s.Aged (t.observe o) :=
  ⟨h.grown, h.length⟩

theorem aged_modify (s : Session) (id : ChainId) (f : Chain → Chain) (hf : ∀ c : Chain, c.Aged (f c)) :
    s.Aged (s.modify id f) := by
  refine ⟨fun i c hc => ?_, s.length_modify id f⟩
  rw [chain?_modify, hc]
  split
  · exact ⟨f c, rfl, hf c⟩
  · exact ⟨c, rfl, .refl c⟩

theorem grown_create (s : Session) (c : Chain) : s.Grown (s.create c).2 := by
  intro id d hd
  refine ⟨d, ?_, .refl d⟩
  rw [chain?_create, if_neg (Nat.ne_of_lt (lt_of_chain? hd)), hd]

theorem aged_enqueue (s : Session) (id : ChainId) (batch : List Handler) :
    s.Aged (s.enqueue id batch) := by
  unfold enqueue
  split
  · exact .refl s
  · exact (s.aged_modify id (·.enqueue batch) fun _ => ⟨rfl, rfl, fun h => h⟩).report _

theorem aged_link (s : Session) (id : ChainId) (before : Option ChainId) :
    s.Aged (s.link id before) := by
  have linked (s : Session) : s.Aged (s.modify id fun c => { c with previous := before }) :=
    s.aged_modify id _ fun _ => ⟨rfl, rfl, fun h => h⟩
  cases before with
  | none => exact linked s
  | some b =>
    refine Aged.trans ?_ (linked (s.modify b fun c => { c with previous := none }))
    exact s.aged_modify b _ fun _ => ⟨rfl, rfl, fun h => h⟩

end Session

namespace Machine

theorem call_aged (s : Session) (id : ChainId) (guarded : Bool) (below : List Frame) :
    s.Aged (call s id guarded below).session := by
  rw [call_eq]
  split
  · exact s.aged_modify id _ fun _ => ⟨rfl, rfl, fun h => h⟩
  · exact (Session.Aged.refl s).report _

theorem act_aged (m : Machine) {a : ChainAct}
    (old : ∀ value context globals, a ≠ .create value context globals) :
    m.session.Aged (m.act a).session := by
  cases a with
  | create value context globals => exact absurd rfl (old value context globals)
  | enqueue id batch => exact m.session.aged_enqueue id batch
  | enqueueAt id index batch =>
    simp only [act, Session.enqueueAt]
    split
    · exact .refl _
    · exact (m.session.aged_modify id (·.enqueueAt index batch) fun _ => ⟨rfl, rfl, fun h => h⟩).report _
  | run id guarded =>
    exact (m.session.aged_modify id Chain.start fun _ => ⟨rfl, rfl, fun h => h⟩).trans
      (call_aged _ id guarded m.frames)
  | call id guarded => exact call_aged m.session id guarded m.frames
  | preventDefault id =>
    exact m.session.aged_modify id Chain.preventDefault fun _ => ⟨rfl, rfl, fun h => h⟩
  | stopPropagation id =>
    exact m.session.aged_modify id Chain.stopPropagation fun _ => ⟨rfl, rfl, fun h => nomatch h⟩
  | navigate id path =>
    simp only [act, Session.navigate]
    split
    · exact .refl _
    · exact (m.session.aged_modify id (Chain.navigate path) fun _ => ⟨rfl, rfl, fun h => h⟩).report _

/-- Handlers make no chains. -/
theorem nextAct?_ne_create (m : Machine) (value : String) (context : RouteContext)
    (globals : List Handler) : m.nextAct? ≠ some (.create value context globals) := by
  obtain ⟨s, frames, failure⟩ := m
  cases failure with
  | some e => simp [nextAct?]
  | none =>
    match frames with
    | [] | ⟨_, [], _⟩ :: _ => simp [nextAct?]
    | ⟨_, a :: _, _⟩ :: _ => cases a <;> simp [nextAct?, Action.act?]

theorem step_aged (m : Machine) : m.session.Aged m.step.session := by
  have does := m.step_does
  cases next : m.nextAct? with
  | none =>
    rw [next] at does
    exact Session.aged_of_chains does (.refl _)
  | some a =>
    rw [next] at does
    refine Session.aged_of_chains does.1 (act_aged ⟨m.session, [], none⟩ fun _ _ _ created => ?_)
    exact m.nextAct?_ne_create _ _ _ (next.trans (congrArg some created))

theorem run_aged {limit : Nat} {m m' : Machine} (h : m.run limit = some m') :
    m.session.Aged m'.session :=
  run_induction h (fun _ => .refl _) fun m _ later => m.step_aged.trans later

theorem session_result (m : Machine) : m.result.2 = m.session := by
  unfold result
  split <;> rfl

end Machine

namespace Session

/-- What was started has run to its end. -/
theorem exists_run_of_running {limit : Nat} {start : Session → Machine} {s t : Session}
    {result : Except RouterError Unit} (h : (running limit start).start s = some (result, t)) :
    ∃ m, (start s).run limit = some m ∧ m.session = t := by
  obtain ⟨m, finished, same⟩ := Option.map_eq_some_iff.1 h
  exact ⟨m, finished, m.session_result.symm.trans (congrArg Prod.snd same)⟩

theorem running_aged {limit : Nat} {start : Session → Machine} {s t : Session}
    {result : Except RouterError Unit} (first : s.Aged (start s).session)
    (h : (running limit start).start s = some (result, t)) : s.Aged t := by
  obtain ⟨m, finished, rfl⟩ := exists_run_of_running h
  exact first.trans (Machine.run_aged finished)

theorem run_aged {limit : Nat} {id : ChainId} {s t : Session} {result : Except RouterError Unit}
    (h : (run limit id).start s = some (result, t)) : s.Aged t :=
  running_aged ((s.aged_modify id Chain.start fun _ => ⟨rfl, rfl, fun h => h⟩).trans
    (Machine.call_aged _ id false [])) h

theorem act_aged {limit : Nat} {chain : Option ChainId} {actions : List Action} {s t : Session}
    {result : Except RouterError Unit} (h : (act limit chain actions).start s = some (result, t)) :
    s.Aged t :=
  running_aged (.refl s) h

end Session

end Routing
