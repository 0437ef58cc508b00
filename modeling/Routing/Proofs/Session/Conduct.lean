import Routing.Proofs.Session.Aging

/-!
# How a chain is served

What handlers do one after another, each alone until it calls its continuation or ends, is what the machine
does with the handlers on top of each other.

* `Machine.step_onto`: a step is about the handlers on top, whatever lies below
* `Machine.Goes`: handlers go on, and leave the other handlers and the rest of the cycle alone
* `Serves`: the handlers of a chain, one after another
* `Serves.leads`: the machine serves a chain like that
-/
namespace Routing

namespace Machine

/-! ## What lies below -/

/-- The handlers of the machine come on top of others. -/
def onto (m : Machine) (below : List Frame) : Machine :=
  { m with frames := m.frames ++ below }

theorem call_onto (s : Session) (id : ChainId) (guarded : Bool) (fs below : List Frame) :
    call s id guarded (fs ++ below) = (call s id guarded fs).onto below := by
  rw [call_eq, call_eq]
  split <;> rfl

theorem take_onto (s : Session) (f : Frame) (fs below : List Frame) (a : Action) :
    take s f (fs ++ below) a = (take s f fs a).onto below := by
  cases a with
  | next | nextCaught =>
    simp only [take]
    split
    · rfl
    · exact call_onto s _ _ (_ :: fs) below
  | resume slot =>
    simp only [take]
    split
    · rfl
    · exact call_onto _ _ false (f :: fs) below
  | park slot =>
    simp only [take]
    split <;> rfl
  | run =>
    simp only [take]
    split
    · rfl
    · exact call_onto _ _ false (f :: fs) below
  | onPrevious body | onParent body =>
    simp only [take]
    split
    · rfl
    · split <;> rfl
  | note | fail | failWith | recover | consult | times | observeRequest | perform => rfl
  | _ =>
    simp only [take]
    split <;> rfl

/-- A step is about the handlers on top. -/
theorem step_onto {m : Machine} (busy : m.frames ≠ []) (below : List Frame) :
    (m.onto below).step = m.step.onto below := by
  obtain ⟨s, frames, failure⟩ := m
  cases frames with
  | nil => exact absurd rfl busy
  | cons f fs =>
    cases failure with
    | some e =>
      simp only [onto, step, List.cons_append, unwind, leave]
      split
      · rfl
      · split <;> rfl
    | none =>
      obtain ⟨scene, todo, guarded⟩ := f
      cases todo with
      | nil => cases guarded <;> rfl
      | cons a rest => exact take_onto s ⟨scene, rest, guarded⟩ fs below a

end Machine

/-! ## What is called -/

/-- The handler that a call of a chain would call. -/
def Session.upNext (s : Session) (id : ChainId) : Option (ChainId × Handler) :=
  ((s.chain? id).bind (·.queue.head?)).map (id, ·)

namespace Machine

/-- The handler that the next step calls. -/
def called? (m : Machine) : Option (ChainId × Handler) :=
  match m.nextAct? with
  | some (.run id _) | some (.call id _) => m.session.upNext id
  | _ => none

/-- The handlers that are called in so many steps. -/
def calls (limit : Nat) (m : Machine) : List (ChainId × Handler) :=
  m.collect called? limit

/-- One machine comes to be another, and the handlers are called on the way. -/
def Leads (m : Machine) (hs : List (ChainId × Handler)) (m' : Machine) : Prop :=
  ∃ n, ∀ limit, m.run (n + limit) = m'.run limit ∧ m.calls (n + limit) = hs ++ m'.calls limit

theorem Leads.refl (m : Machine) : m.Leads [] m :=
  ⟨0, fun limit => by simp⟩

theorem Leads.trans {a b c : Machine} {hs ks : List (ChainId × Handler)} (h : a.Leads hs b)
    (k : b.Leads ks c) : a.Leads (hs ++ ks) c := by
  obtain ⟨n, h⟩ := h
  obtain ⟨l, k⟩ := k
  refine ⟨n + l, fun limit => ?_⟩
  rw [Nat.add_assoc, (h _).1, (h _).2, (k _).1, (k _).2, List.append_assoc]
  exact ⟨rfl, rfl⟩

theorem Leads.of_step {m : Machine} (busy : m.frames ≠ []) : m.Leads m.called?.toList m.step := by
  refine ⟨1, fun limit => ?_⟩
  have working : m.frames.isEmpty = false := by simpa using busy
  rw [Nat.add_comm, run, calls, collect, working]
  exact ⟨rfl, rfl⟩

/-- When no handler is left, the machine has run. -/
theorem Leads.ends {m : Machine} {hs : List (ChainId × Handler)} {t : Session}
    {failure : Option RouterError} (h : m.Leads hs ⟨t, [], failure⟩) :
    ∃ n, ∀ limit, n ≤ limit → m.run limit = some ⟨t, [], failure⟩ ∧ m.calls limit = hs := by
  obtain ⟨n, h⟩ := h
  refine ⟨n, fun limit enough => ?_⟩
  have := h (limit - n)
  rw [Nat.add_sub_cancel' enough] at this
  rw [this.1, this.2]
  cases limit - n <;> simp [run, calls, collect]

end Machine

/-! ## Going on -/

/-- An act that leaves the queue of one chain alone, and the rest of a cycle too: it calls no handler, asks
for no redirect and does not stop propagation. -/
def ChainAct.Mild (id : ChainId) : ChainAct → Prop
  | .enqueue i _ | .enqueueAt i _ _ => i ≠ id
  | .preventDefault _ => True
  | .create .. | .run .. | .call .. | .stopPropagation _ | .navigate .. => False

namespace Machine

/-- The next step is mild. -/
structure Mild (id : ChainId) (m : Machine) : Prop where
  busy : m.frames ≠ []
  act : ∀ a, m.nextAct? = some a → a.Mild id

/-- Handlers go on by mild steps. -/
inductive Goes (id : ChainId) : Machine → Machine → Prop where
  | refl (m : Machine) : Goes id m m
  | step {m m' : Machine} : m.Mild id → Goes id m.step m' → Goes id m m'

theorem Goes.trans {id : ChainId} {a b c : Machine} (h : Goes id a b) (k : Goes id b c) :
    Goes id a c := by
  induction h with
  | refl => exact k
  | step mild rest ih => exact .step mild (ih k)

theorem nextAct?_onto {m : Machine} (busy : m.frames ≠ []) (below : List Frame) :
    (m.onto below).nextAct? = m.nextAct? := by
  obtain ⟨s, frames, failure⟩ := m
  cases frames with
  | nil => exact absurd rfl busy
  | cons f fs =>
    obtain ⟨scene, _ | _, guarded⟩ := f <;> cases failure <;> rfl

theorem Mild.onto {id : ChainId} {m : Machine} (h : m.Mild id) (below : List Frame) :
    (m.onto below).Mild id where
  busy := by simp [Machine.onto, h.busy]
  act := by rw [nextAct?_onto h.busy]; exact h.act

theorem Goes.onto {id : ChainId} {m m' : Machine} (h : Goes id m m') (below : List Frame) :
    Goes id (m.onto below) (m'.onto below) := by
  induction h with
  | refl => exact .refl _
  | step mild rest ih => exact .step (mild.onto below) (by rwa [step_onto mild.busy])

/-- No handler is called by those that go on. -/
theorem Goes.leads {id : ChainId} {m m' : Machine} (h : Goes id m m') : m.Leads [] m' := by
  induction h with
  | refl => exact .refl _
  | @step m m' mild rest ih =>
    have quiet : m.called? = none := by
      unfold called?
      split
      · next next => exact (mild.act _ next).elim
      · next next => exact (mild.act _ next).elim
      · rfl
    have first := Leads.of_step mild.busy
    rw [quiet] at first
    exact first.trans ih

end Machine

/-! ## What mild steps leave -/

/-- What counts of a chain when a cycle goes on after it. -/
structure Face where
  value : String
  context : RouteContext
  propagates : Bool
  redirect : Option String

def Chain.face (c : Chain) : Face :=
  ⟨c.value, c.context, c.propagates, c.redirect⟩

namespace Session

def faces (s : Session) : List (Face) :=
  s.chains.map Chain.face

/-- No chain was asked for anything or stopped, and none came; the queue of one chain is as before. -/
structure Steady (id : ChainId) (s t : Session) : Prop where
  faces : t.faces = s.faces
  queue : (t.chain? id).map (·.queue) = (s.chain? id).map (·.queue)

theorem Steady.refl (id : ChainId) (s : Session) : s.Steady id s :=
  ⟨rfl, rfl⟩

theorem Steady.trans {id : ChainId} {s t u : Session} (h : s.Steady id t) (k : t.Steady id u) :
    s.Steady id u :=
  ⟨k.faces.trans h.faces, k.queue.trans h.queue⟩

theorem Steady.of_chains {id : ChainId} {s t u : Session} (h : s.Steady id t)
    (same : u.chains = t.chains) : s.Steady id u := by
  refine ⟨?_, ?_⟩
  · rw [← h.faces, Session.faces, Session.faces, same]
  · rw [← h.queue, Session.chain?, Session.chain?, same]

theorem getElem?_faces (s : Session) (i : Nat) : s.faces[i]? = (s.chain? i).map Chain.face :=
  List.getElem?_map

/-- The chains of a session that has one more than another and is like it for the rest. -/
theorem chain?_of_faces {s t : Session} {face : Face}
    (more : t.faces = s.faces ++ [face]) {i : Nat} {c : Chain} (hc : t.chain? i = some c) :
    (∃ d, s.chain? i = some d ∧ c.face = d.face) ∨ (i = s.chains.length ∧ c.face = face) := by
  have here : (s.faces ++ [face])[i]? = some c.face := by
    rw [← more, getElem?_faces, hc]
    rfl
  have all : s.faces.length = s.chains.length := List.length_map ..
  obtain old | old := Nat.lt_or_ge i s.faces.length
  · rw [List.getElem?_append_left old, getElem?_faces] at here
    obtain ⟨d, hd, same⟩ := Option.map_eq_some_iff.1 here
    exact .inl ⟨d, hd, same.symm⟩
  · rw [List.getElem?_append_right old] at here
    obtain ⟨lt, same⟩ := List.getElem?_eq_some_iff.1 here
    have last : i = s.chains.length := by
      simp only [List.length_singleton] at lt
      omega
    exact .inr ⟨last, by simpa using same.symm⟩

theorem exists_chain_of_faces {s t : Session} {face : Face}
    (more : t.faces = s.faces ++ [face]) :
    ∃ c, t.chain? s.chains.length = some c ∧ c.face = face := by
  have all : s.faces.length = s.chains.length := List.length_map ..
  refine Option.map_eq_some_iff.1 ?_
  rw [← getElem?_faces, more, ← all]
  exact List.getElem?_concat_length

theorem faces_modify (s : Session) (id : ChainId) (f : Chain → Chain)
    (same : ∀ c, (f c).face = c.face) : (s.modify id f).faces = s.faces :=
  s.map_chains_modify Chain.face id f same

theorem queue_modify (s : Session) (id i : ChainId) (f : Chain → Chain)
    (same : id = i → ∀ c, (f c).queue = c.queue) :
    ((s.modify id f).chain? i).map (·.queue) = (s.chain? i).map (·.queue) := by
  rw [chain?_modify]
  split
  · next here =>
    cases s.chain? i with
    | none => rfl
    | some c => exact congrArg some (same here c)
  · rfl

theorem steady_modify (s : Session) (id i : ChainId) (f : Chain → Chain)
    (face : ∀ c, (f c).face = c.face) (queue : id = i → ∀ c, (f c).queue = c.queue) :
    s.Steady i (s.modify id f) :=
  ⟨s.faces_modify id f face, s.queue_modify id i f queue⟩

theorem steady_link (s : Session) (id i : ChainId) (before : Option ChainId) :
    s.Steady i (s.link id before) := by
  have linked (s : Session) : s.Steady i (s.modify id fun c => { c with previous := before }) :=
    s.steady_modify id i _ (fun _ => rfl) fun _ _ => rfl
  cases before with
  | none => exact linked s
  | some b =>
    refine Steady.trans ?_ (linked (s.modify b fun c => { c with previous := none }))
    exact s.steady_modify b i _ (fun _ => rfl) fun _ _ => rfl

end Session

namespace Machine

theorem act_steady {m : Machine} {id : ChainId} {a : ChainAct} (mild : a.Mild id) :
    m.session.Steady id (m.act a).session := by
  cases a with
  | enqueue i batch =>
    simp only [act, Session.enqueue]
    split
    · exact .refl id _
    · exact (m.session.steady_modify i id (·.enqueue batch) (fun _ => rfl)
        fun here => absurd here mild).of_chains rfl
  | enqueueAt i index batch =>
    simp only [act, Session.enqueueAt]
    split
    · exact .refl id _
    · exact (m.session.steady_modify i id (·.enqueueAt index batch) (fun _ => rfl)
        fun here => absurd here mild).of_chains rfl
  | preventDefault i => exact m.session.steady_modify i id _ (fun _ => rfl) fun _ _ => rfl
  | create | run | call | stopPropagation | navigate => exact mild.elim

theorem Mild.steady {id : ChainId} {m : Machine} (h : m.Mild id) :
    m.session.Steady id m.step.session := by
  have does := m.step_does
  cases next : m.nextAct? with
  | none =>
    rw [next] at does
    exact (Session.Steady.refl id _).of_chains does
  | some a =>
    rw [next] at does
    exact (act_steady (m := ⟨m.session, [], none⟩) (h.act a next)).of_chains does.1

theorem Goes.steady {id : ChainId} {m m' : Machine} (h : Goes id m m') :
    m.session.Steady id m'.session := by
  induction h with
  | refl => exact .refl id _
  | step mild rest ih => exact mild.steady.trans ih

end Machine

/-! ## One handler after another -/

/-- An action that calls the continuation; the value says whether a failure would stop there. -/
def Action.passes? : Action → Option Bool
  | .next => some false
  | .nextCaught => some true
  | _ => none

/-- The handlers of a chain that wait, and those of them that are called when the next is: one after another,
up to the first that does not call its continuation. Each goes on alone until it calls its continuation, and
once more when the call has come back. -/
inductive Serves (id : ChainId) : Session → Bool → List Handler → List Handler → Session → Prop where
  | exhausted {s : Session} {guarded : Bool} :
    Serves id s guarded [] [] (Machine.leave (s.report ((s.chain? id).toList.map Chain.exhaustedLog))
      ⟨{}, [], guarded⟩ [] none).session
  | halts {s t : Session} {guarded : Bool} {h : Handler} {hs : List Handler} :
    Machine.Goes id ⟨s.popped id, [⟨⟨some id, some id⟩, h, guarded⟩], none⟩ ⟨t, [], none⟩ →
    Serves id s guarded (h :: hs) [h] t
  | passes {s t u v : Session} {guarded caught : Bool} {h : Handler} {hs called : List Handler}
      {a : Action} {rest : List Action} :
    Machine.Goes id ⟨s.popped id, [⟨⟨some id, some id⟩, h, guarded⟩], none⟩
      ⟨t, [⟨⟨some id, some id⟩, a :: rest, guarded⟩], none⟩ →
    a.passes? = some caught → Serves id t caught hs called u →
    Machine.Goes id ⟨u, [⟨⟨some id, none⟩, rest, guarded⟩], none⟩ ⟨v, [], none⟩ →
    Serves id s guarded (h :: hs) (h :: called) v

namespace Serves

variable {id : ChainId} {s t : Session} {guarded : Bool} {hs called : List Handler}

/-- The handlers that are called are the first of those that wait. -/
theorem called_prefix (h : Serves id s guarded hs called t) : called <+: hs := by
  induction h with
  | exhausted => exact List.nil_prefix
  | halts => exact ⟨_, rfl⟩
  | passes _ _ _ _ ih => exact (List.prefix_cons_inj _).2 ih

theorem calls (h : Serves id s guarded hs called t) :
    (hs.head?.map (id, ·)).toList ++ called.tail.map (id, ·) = called.map (id, ·) := by
  cases h <;> rfl

theorem faces (h : Serves id s guarded hs called t) : t.faces = s.faces := by
  induction h with
  | @exhausted s guarded => cases guarded <;> rfl
  | @halts s t guarded h hs alone =>
    exact alone.steady.faces.trans (s.faces_modify id _ fun _ => rfl)
  | @passes s t u v guarded caught h hs called a rest alone pass inner after ih =>
    exact after.steady.faces.trans (ih.trans (alone.steady.faces.trans
      (s.faces_modify id _ fun _ => rfl)))

/-- The machine serves a chain in the same way, on top of whatever is under way. -/
theorem leads (h : Serves id s guarded hs called t)
    (queue : (s.chain? id).map (·.queue) = some hs) (below : List Frame) :
    (Machine.call s id guarded below).Leads (called.tail.map (id, ·)) ⟨t, below, none⟩ := by
  induction h generalizing below with
  | @exhausted s guarded =>
    rw [Machine.call_eq, Session.head?_of_queue queue]
    have left := Machine.Leads.of_step (m := ⟨s.report ((s.chain? id).toList.map Chain.exhaustedLog),
      ⟨{}, [], guarded⟩ :: below, none⟩) (by simp)
    cases guarded <;> exact left
  | @halts s t guarded h hs alone =>
    rw [Machine.call_eq, Session.head?_of_queue queue]
    exact (alone.onto below).leads
  | @passes s t u v guarded caught h hs called a rest alone pass inner after ih =>
    rw [Machine.call_eq, Session.head?_of_queue queue]
    have waiting : (t.chain? id).map (·.queue) = some hs :=
      alone.steady.queue.trans (Session.queue_popped queue)
    have stepped : (⟨t, ⟨⟨some id, some id⟩, a :: rest, guarded⟩ :: below, none⟩ : Machine).step =
        Machine.call t id caught (⟨⟨some id, none⟩, rest, guarded⟩ :: below) := by
      cases a <;> cases pass <;> rfl
    have next : (⟨t, ⟨⟨some id, some id⟩, a :: rest, guarded⟩ :: below, none⟩ : Machine).called? =
        hs.head?.map (id, ·) := by
      rw [← Session.head?_of_queue waiting]
      cases a <;> cases pass <;> rfl
    have call := Machine.Leads.of_step
      (m := ⟨t, ⟨⟨some id, some id⟩, a :: rest, guarded⟩ :: below, none⟩) (by simp)
    rw [stepped, next] at call
    have path := ((alone.onto below).leads.trans call).trans
      ((ih waiting (⟨⟨some id, none⟩, rest, guarded⟩ :: below)).trans (after.onto below).leads)
    rwa [List.nil_append, List.append_nil, inner.calls] at path

end Serves

/-- The handlers that are called in a run of a chain. -/
def Session.runCalls (limit : Nat) (id : ChainId) (s : Session) : List (ChainId × Handler) :=
  ((s.modify id Chain.start).upNext id).toList ++
    (Machine.call (s.modify id Chain.start) id false []).calls limit

/-- A run of a chain serves it. -/
theorem Serves.ends {id : ChainId} {s t : Session} {hs called : List Handler}
    (h : Serves id (s.modify id Chain.start) false hs called t)
    (queue : (s.chain? id).map (·.queue) = some hs) :
    ∃ n, ∀ limit, n ≤ limit → (Session.run limit id).start s = some (.ok (), t) ∧
      s.runCalls limit id = called.map (id, ·) := by
  have waiting : ((s.modify id Chain.start).chain? id).map (·.queue) = some hs :=
    (s.queue_modify id id Chain.start fun _ _ => rfl).trans queue
  obtain ⟨c, hc, rfl⟩ := Option.map_eq_some_iff.1 waiting
  obtain ⟨n, ends⟩ := (h.leads waiting []).ends
  refine ⟨n, fun limit enough => ⟨?_, ?_⟩⟩
  · change ((Machine.call (s.modify id Chain.start) id false []).run limit).map Machine.result = _
    rw [(ends limit enough).1]
    rfl
  · rw [Session.runCalls, (ends limit enough).2, Session.upNext, hc]
    exact h.calls

end Routing
