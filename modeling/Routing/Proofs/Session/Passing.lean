import Routing.Proofs.Session.Plain

/-!
# Handlers that pass

A handler passes when the call of its continuation is the last that it does. What a chain comes to where each
handler passes, halts or fails, and what is left of it.

* `Machine.Apart`: handlers go on, and do not call the chain
* `Conduct`, `Behaves`: what a handler does, alone
* `Ran`: one handler after another, up to the first that does not pass
* `Ran.leads`: the machine does the same with the handlers on top of each other
* `exists_ran_of_acc`, `exists_ran_of_run`: when there is an end
-/
namespace Routing

namespace Machine

/-! ## Apart from the chain -/

/-- The next step neither runs the chain nor calls a continuation of it. -/
structure Away (id : ChainId) (m : Machine) : Prop where
  busy : m.frames ≠ []
  idle : ∀ guarded, m.nextAct? ≠ some (.run id guarded) ∧ m.nextAct? ≠ some (.call id guarded)

/-- Handlers go on, and the chain is not called, whatever they do to others. -/
inductive Apart (id : ChainId) : Machine → Machine → Prop where
  | refl (m : Machine) : Apart id m m
  | step {m m' : Machine} : m.Away id → Apart id m.step m' → Apart id m m'

theorem Away.onto {id : ChainId} {m : Machine} (h : m.Away id) (below : List Frame) :
    (m.onto below).Away id where
  busy := by simp [Machine.onto, h.busy]
  idle := by rw [nextAct?_onto h.busy]; exact h.idle

theorem Away.called? {id : ChainId} {m : Machine} (h : m.Away id) :
    m.called?.toList.filter (·.1 == id) = [] := by
  have other {i : ChainId} (apart : i ≠ id) : (m.session.upNext i).toList.filter (·.1 == id) = [] := by
    unfold Session.upNext
    cases (m.session.chain? i).bind (·.queue.head?) <;> simp [apart]
  unfold Machine.called?
  split
  · next i guarded next =>
    refine other ?_
    rintro rfl
    exact (h.idle guarded).1 next
  · next i guarded next =>
    refine other ?_
    rintro rfl
    exact (h.idle guarded).2 next
  · rfl

theorem exists_run_of_step {m last : Machine} (busy : m.frames ≠ []) {limit : Nat}
    (ran : m.run limit = some last) : ∃ less, less < limit ∧ m.step.run less = some last := by
  have working : ¬ m.frames.isEmpty = true := by simpa using busy
  cases limit with
  | zero => simp [run, busy] at ran
  | succ limit =>
    rw [run, if_neg working] at ran
    exact ⟨limit, Nat.lt_succ_self limit, ran⟩

namespace Apart

variable {id : ChainId} {m m' : Machine}

theorem onto (h : Apart id m m') (below : List Frame) :
    Apart id (m.onto below) (m'.onto below) := by
  induction h with
  | refl => exact .refl _
  | step away rest ih => exact .step (away.onto below) (by rwa [step_onto away.busy])

theorem of_goes (h : Goes id m m') : Apart id m m' := by
  induction h with
  | refl => exact .refl _
  | step mild rest ih =>
    exact .step ⟨mild.busy, fun guarded => ⟨fun next => mild.act _ next, fun next => mild.act _ next⟩⟩ ih

theorem trans {n : Machine} (h : Apart id m m') (k : Apart id m' n) : Apart id m n := by
  induction h with
  | refl => exact k
  | step away rest ih => exact .step away (ih k)

theorem leads (h : Apart id m m') : ∃ ks, m.Leads ks m' ∧ ks.filter (·.1 == id) = [] := by
  induction h with
  | refl => exact ⟨[], .refl _, rfl⟩
  | step away rest ih =>
    obtain ⟨ks, later, others⟩ := ih
    exact ⟨_, (Leads.of_step away.busy).trans later, by rw [List.filter_append, away.called?, others]; rfl⟩

/-- What has an end has it after what goes on, and sooner. -/
theorem run (h : Apart id m m') {limit : Nat} {last : Machine} (ran : m.run limit = some last) :
    ∃ less, less ≤ limit ∧ m'.run less = some last := by
  induction h generalizing limit with
  | refl => exact ⟨limit, Nat.le_refl _, ran⟩
  | step away rest ih =>
    obtain ⟨before, lt, ran⟩ := exists_run_of_step away.busy ran
    obtain ⟨less, le, later⟩ := ih ran
    exact ⟨less, Nat.le_trans le (Nat.le_of_lt lt), later⟩

end Apart

end Machine

/-! ## What a handler does -/

/-- What a handler does in the end. -/
inductive Conduct where
  /-- It calls its continuation, and ends with it. The batch stands in front of the queue then. -/
  | passes (batch : List Handler)
  | halts
  /-- It leaves its continuation in a slot. -/
  | parks (slot : String)
  | fails (e : RouterError)

namespace Conduct

def isPass : Conduct → Bool
  | passes _ => true
  | _ => false

/-- What the handler put into the queue before those that waited. -/
def batch : Conduct → List Handler
  | passes batch => batch
  | _ => []

def error? : Conduct → Option RouterError
  | fails e => some e
  | _ => none

/-- The machine when the handler alone is through, or is about to pass. -/
def after (id : ChainId) (t : Session) : Conduct → Machine
  | passes _ => ⟨t, [⟨⟨some id, some id⟩, [.next], false⟩], none⟩
  | halts | parks _ => ⟨t, [], none⟩
  | fails e => ⟨t, [], some e⟩

end Conduct

/-- What a handler of the chain does, alone, from the session it is called in. Until then it does not call the
chain; it may do anything to others. -/
structure Behaves (id : ChainId) (h : Handler) (s : Session) (c : Conduct) (t : Session) : Prop where
  alone : Machine.Apart id ⟨s, [⟨⟨some id, some id⟩, h, false⟩], none⟩ (c.after id t)
  queue : (t.chain? id).map (·.queue) = (s.chain? id).map (c.batch ++ ·.queue)
  parked : ∀ slot, c = .parks slot → t.parked.lookup slot = some id

/-- Known handlers pass, halt or fail in the sessions that they may find when they are called, out of the queue
already. What they put in front of the queue is known too. -/
def Conducted (id : ChainId) (Fit : Session → Prop) (Known : Handler → Prop)
    (inserts : Handler → Handler → Prop) : Prop :=
  ∀ h s, Known h → Fit s → ∃ c t, Behaves id h s c t ∧ (∀ k ∈ c.batch, Known k ∧ inserts k h) ∧
    (c.isPass = true → Fit (t.popped id))

/-! ## One after another -/

/-- The handlers of a queue are called one after another, up to the first that does not pass: what each of them
does, and which handlers are left. -/
inductive Ran (id : ChainId) :
    Session → List Handler → List (Handler × Conduct) → List Handler → Session → Prop where
  | exhausted {s : Session} :
    Ran id s [] [] [] (s.report ((s.chain? id).toList.map Chain.exhaustedLog))
  | stops {s t : Session} {h : Handler} {hs : List Handler} {c : Conduct} :
    Behaves id h (s.popped id) c t → c.isPass = false → Ran id s (h :: hs) [(h, c)] hs t
  | passes {s t u : Session} {h : Handler} {hs batch left : List Handler} {cs : List (Handler × Conduct)} :
    Behaves id h (s.popped id) (.passes batch) t → Ran id t (batch ++ hs) cs left u →
    Ran id s (h :: hs) ((h, .passes batch) :: cs) left u

/-- A queue with the batches directly after the handlers that put them there. -/
def spliced : List Handler → List Conduct → List Handler
  | h :: hs, c :: cs => h :: spliced (c.batch ++ hs) cs
  | hs, _ => hs

/-- The failure that comes of it. -/
def outcome (cs : List (Handler × Conduct)) : Option RouterError :=
  cs.getLast?.bind (·.2.error?)

theorem outcome_passes (h : Handler) (batch : List Handler) (cs : List (Handler × Conduct)) :
    outcome ((h, .passes batch) :: cs) = outcome cs := by
  rw [outcome, List.getLast?_cons, outcome]
  cases cs.getLast? <;> rfl

theorem mem_spliced {h : Handler} {queue : List Handler} {cs : List Conduct} (hh : h ∈ spliced queue cs) :
    h ∈ queue ∨ ∃ c ∈ cs, h ∈ c.batch := by
  fun_induction spliced queue cs with
  | case1 k hs c cs ih =>
    obtain rfl | later := List.mem_cons.1 hh
    · exact .inl (List.mem_cons_self ..)
    · obtain waits | ⟨d, hd, inserted⟩ := ih later
      · obtain inserted | waits := List.mem_append.1 waits
        · exact .inr ⟨c, List.mem_cons_self .., inserted⟩
        · exact .inl (List.mem_cons_of_mem _ waits)
      · exact .inr ⟨d, List.mem_cons_of_mem _ hd, inserted⟩
  | case2 => exact .inl hh

theorem spliced_of_plain {queue : List Handler} {cs : List Conduct} (plain : ∀ c ∈ cs, c.batch = []) :
    spliced queue cs = queue := by
  induction cs generalizing queue with
  | nil => cases queue <;> rfl
  | cons c cs ih =>
    cases queue with
    | nil => rfl
    | cons h hs =>
      rw [spliced, plain c (List.mem_cons_self ..), List.nil_append,
        ih fun d hd => plain d (List.mem_cons_of_mem _ hd)]

namespace Ran

variable {id : ChainId} {s t : Session} {queue left : List Handler} {cs : List (Handler × Conduct)}

theorem split (h : Ran id s queue cs left t) :
    cs.map (·.1) ++ left = spliced queue (cs.map (·.2)) := by
  induction h with
  | exhausted => rfl
  | @stops s t h hs c behaves stop =>
    have quiet : c.batch = [] := by cases c <;> simp_all [Conduct.isPass, Conduct.batch]
    rw [spliced_of_plain (by simpa using quiet)]
    rfl
  | passes _ _ ih => exact congrArg _ ih

/-- If what waits and what is inserted is known, so is all that is called and all that is left. -/
theorem known {Known : Handler → Prop} (h : Ran id s queue cs left t) (waits : ∀ h ∈ queue, Known h)
    (inserted : ∀ c ∈ cs, ∀ k ∈ c.2.batch, Known k) : ∀ h ∈ cs.map (·.1) ++ left, Known h := by
  intro k hk
  rw [h.split] at hk
  obtain here | ⟨_, some_, there⟩ := mem_spliced hk
  · exact waits k here
  · obtain ⟨c, hc, rfl⟩ := List.mem_map.1 some_
    exact inserted c hc k there

theorem front (h : Ran id s queue cs left t) : ∀ c ∈ cs.dropLast, c.2.isPass = true := by
  induction h with
  | exhausted | stops => nofun
  | @passes s t u h hs batch left cs _ _ ih =>
    intro c hc
    cases cs with
    | nil => cases hc
    | cons d cs =>
      obtain rfl | later := List.mem_cons.1 hc
      · rfl
      · exact ih c later

theorem last (h : Ran id s queue cs left t) (all : ∀ c ∈ cs, c.2.isPass = true) : left = [] := by
  induction h with
  | exhausted => rfl
  | stops _ stop => cases stop.symm.trans (all _ (List.mem_singleton_self _))
  | passes _ _ ih => exact ih fun c hc => all c (List.mem_cons_of_mem _ hc)

theorem parked (h : Ran id s queue cs left t) {k : Handler} {slot : String}
    (last : cs.getLast? = some (k, .parks slot)) : t.parked.lookup slot = some id := by
  induction h with
  | exhausted => cases last
  | stops behaves => exact behaves.parked slot (Prod.mk.inj (Option.some.inj last)).2
  | @passes s t u h hs batch left cs _ _ ih =>
    cases cs with
    | nil => cases last
    | cons d cs => exact ih (by rwa [List.getLast?_cons_cons] at last)

theorem queue_next {h : Handler} {hs batch : List Handler}
    (waiting : (s.chain? id).map (·.queue) = some (h :: hs))
    (behaves : Behaves id h (s.popped id) (.passes batch) t) :
    (t.chain? id).map (·.queue) = some (batch ++ hs) := by
  obtain ⟨c, hc, same⟩ := Option.map_eq_some_iff.1 (Session.queue_popped waiting)
  rw [behaves.queue, hc, ← same]
  rfl

theorem pending (h : Ran id s queue cs left t) (waiting : (s.chain? id).map (·.queue) = some queue) :
    (t.chain? id).map (·.queue) = some left := by
  induction h with
  | exhausted => exact waiting
  | @stops s t h hs c behaves stop =>
    have quiet : c.batch = [] := by cases c <;> simp_all [Conduct.isPass, Conduct.batch]
    rw [behaves.queue, quiet]
    exact Session.queue_popped waiting
  | passes behaves _ ih => exact ih (queue_next waiting behaves)

/-- The machine does the same with the handlers on top of each other, and of whatever is under way: each of them
waits until those after it have come to their end, and then ends in the same way. -/
theorem leads (h : Ran id s queue cs left t) (waiting : (s.chain? id).map (·.queue) = some queue)
    (below : List Frame) : ∃ ks, (Machine.call s id false below).Leads ks ⟨t, below, outcome cs⟩ ∧
      (queue.head?.map (id, ·)).toList ++ ks.filter (·.1 == id) = cs.map fun c => (id, c.1) := by
  induction h generalizing below with
  | exhausted =>
    rw [Machine.call_eq, Session.head?_of_queue waiting]
    exact ⟨_, Machine.Leads.of_step (by simp), rfl⟩
  | @stops s t h hs c behaves stop =>
    rw [Machine.call_eq, Session.head?_of_queue waiting]
    obtain ⟨ks, leads, others⟩ := (behaves.alone.onto below).leads
    refine ⟨ks, ?_, by rw [others]; rfl⟩
    cases c with
    | passes => cases stop
    | halts | parks | fails => exact leads
  | @passes s t u h hs batch left cs behaves rest ih =>
    rw [Machine.call_eq, Session.head?_of_queue waiting, outcome_passes]
    have waiting' := queue_next waiting behaves
    obtain ⟨ks, leads, others⟩ := (behaves.alone.onto below).leads
    obtain ⟨ks', later, called⟩ := ih waiting' (⟨⟨some id, none⟩, [], false⟩ :: below)
    have call := Machine.Leads.of_step
      (m := ⟨t, ⟨⟨some id, some id⟩, [.next], false⟩ :: below, none⟩) (by simp)
    have next : (⟨t, ⟨⟨some id, some id⟩, [.next], false⟩ :: below, none⟩ : Machine).called? =
        (batch ++ hs).head?.map (id, ·) := by
      rw [← Session.head?_of_queue waiting']
      rfl
    rw [next] at call
    -- the handler has nothing left to do, whether those after it have failed or not
    have back : (⟨u, ⟨⟨some id, none⟩, [], false⟩ :: below, outcome cs⟩ : Machine).Leads []
        ⟨u, below, outcome cs⟩ := by
      have left := Machine.Leads.of_step
        (m := ⟨u, ⟨⟨some id, none⟩, [], false⟩ :: below, outcome cs⟩) (by simp)
      cases failed : outcome cs <;> rw [failed] at left <;> exact left
    refine ⟨_, ((leads.trans call).trans later).trans back, ?_⟩
    have same : (((batch ++ hs).head?.map (id, ·)).toList).filter (·.1 == id) =
        ((batch ++ hs).head?.map (id, ·)).toList := by
      cases (batch ++ hs).head? <;> simp
    rw [List.append_nil, List.filter_append, List.filter_append, others, same, List.nil_append, called]
    rfl

end Ran

/-! ## When there is an end -/

section Ends

variable {id : ChainId} {Fit : Session → Prop} {Known : Handler → Prop}
  {inserts : Handler → Handler → Prop} {s : Session} {queue : List Handler}

/-- Whatever is in the session, the handlers of a queue are called one after another, and insert known ones. -/
def Runs (id : ChainId) (Fit : Session → Prop) (Known : Handler → Prop) (queue : List Handler) : Prop :=
  ∀ s : Session, (s.chain? id).map (·.queue) = some queue → Fit (s.popped id) →
    ∃ cs left t, Ran id s queue cs left t ∧ ∀ c ∈ cs, ∀ k ∈ c.2.batch, Known k

/-- Handlers in front of a queue that has an end, one by one. -/
theorem Runs.append {front queue : List Handler}
    (cons : ∀ h ∈ front, ∀ hs, Runs id Fit Known hs → Runs id Fit Known (h :: hs))
    (rest : Runs id Fit Known queue) : Runs id Fit Known (front ++ queue) := by
  induction front with
  | nil => exact rest
  | cons h front ih =>
    exact cons h (List.mem_cons_self ..) _ (ih fun k hk => cons k (List.mem_cons_of_mem _ hk))

/-- A handler that does not insert handlers without end may stand in front. -/
theorem Runs.cons {h : Handler} (conducted : Conducted id Fit Known inserts) (finite : Acc inserts h)
    (known : Known h) {hs : List Handler} (rest : Runs id Fit Known hs) : Runs id Fit Known (h :: hs) := by
  induction finite generalizing hs with
  | intro h _ ih =>
    intro s waiting fit
    obtain ⟨c, t, behaves, inserted, fit'⟩ := conducted h _ known fit
    cases c with
    | passes batch =>
      have more : Runs id Fit Known (batch ++ hs) :=
        .append (fun k hk _ => ih k (inserted k hk).2 (inserted k hk).1) rest
      obtain ⟨cs, left, u, ran, others⟩ := more t (Ran.queue_next waiting behaves) (fit' rfl)
      exact ⟨_, _, _, .passes behaves ran,
        List.forall_mem_cons.2 ⟨fun k hk => (inserted k hk).1, others⟩⟩
    | halts | parks | fails => exact ⟨_, _, _, .stops behaves rfl, by simp [Conduct.batch]⟩

/-- If handlers are not inserted without end, there is an end. -/
theorem exists_ran_of_acc (conducted : Conducted id Fit Known inserts)
    (known : ∀ h ∈ queue, Known h) (finite : ∀ h ∈ queue, Acc inserts h) : Runs id Fit Known queue := by
  have empty : Runs id Fit Known [] := fun _ _ _ => ⟨_, _, _, .exhausted, nofun⟩
  rw [← List.append_nil queue]
  exact .append (fun h hh _ => .cons conducted (finite h hh) (known h hh)) empty

/-- If the machine comes to an end, the handlers were called one after another. -/
theorem exists_ran_of_run (conducted : Conducted id Fit Known inserts)
    (known : ∀ h ∈ queue, Known h) (waiting : (s.chain? id).map (·.queue) = some queue)
    (fit : Fit (s.popped id)) {limit : Nat} {below : List Frame} {last : Machine}
    (ran : (Machine.call s id false below).run limit = some last) :
    ∃ cs left t, Ran id s queue cs left t ∧ ∀ c ∈ cs, ∀ k ∈ c.2.batch, Known k := by
  induction limit using Nat.strongRecOn generalizing s queue below with
  | ind limit ih =>
    cases queue with
    | nil => exact ⟨_, _, _, .exhausted, nofun⟩
    | cons h hs =>
      obtain ⟨c, t, behaves, inserted, fit'⟩ := conducted h _ (known h (List.mem_cons_self ..)) fit
      cases c with
      | passes batch =>
        rw [Machine.call_eq, Session.head?_of_queue waiting] at ran
        obtain ⟨before, le, ran⟩ := (behaves.alone.onto below).run ran
        -- the call of the continuation is a step of its own
        obtain ⟨less, lt, ran⟩ := Machine.exists_run_of_step (by simp [Conduct.after, Machine.onto]) ran
        have ran : (Machine.call t id false (⟨⟨some id, none⟩, [], false⟩ :: below)).run less =
            some last := ran
        have known' : ∀ k ∈ batch ++ hs, Known k := fun k hk =>
          (List.mem_append.1 hk).elim (fun hb => (inserted k hb).1)
            fun hh => known k (List.mem_cons_of_mem _ hh)
        obtain ⟨cs, left, u, rest, others⟩ :=
          ih less (Nat.lt_of_lt_of_le lt le) known' (Ran.queue_next waiting behaves) (fit' rfl) ran
        exact ⟨_, _, _, .passes behaves rest,
          List.forall_mem_cons.2 ⟨fun k hk => (inserted k hk).1, others⟩⟩
      | halts | parks | fails => exact ⟨_, _, _, .stops behaves rfl, by simp [Conduct.batch]⟩

theorem exists_ran (conducted : Conducted id Fit Known inserts) (known : ∀ h ∈ queue, Known h)
    (waiting : (s.chain? id).map (·.queue) = some queue) (fit : Fit (s.popped id)) {below : List Frame}
    (ends : (∃ limit last, (Machine.call s id false below).run limit = some last) ∨
      ∀ h ∈ queue, Acc inserts h) :
    ∃ cs left t, Ran id s queue cs left t ∧ ∀ h ∈ cs.map (·.1) ++ left, Known h := by
  have either : ∃ cs left t, Ran id s queue cs left t ∧ ∀ c ∈ cs, ∀ k ∈ c.2.batch, Known k := by
    obtain ⟨limit, last, ran⟩ | finite := ends
    · exact exists_ran_of_run conducted known waiting fit ran
    · exact exists_ran_of_acc conducted known finite s waiting fit
  obtain ⟨cs, left, t, ran, inserted⟩ := either
  exact ⟨cs, left, t, ran, ran.known known inserted⟩

end Ends

/-! ## Handlers that observe before they pass -/

/-- Handlers that only make observations before they pass, halt or fail. -/
inductive Simple : Handler → Prop where
  | passes {front : List Action} (quiet : ∀ a ∈ front, a.quiet = true) : Simple (front ++ [.next])
  | inserts {front : List Action} {batch : List Handler} (quiet : ∀ a ∈ front, a.quiet = true)
    (simple : ∀ k ∈ batch, Simple k) : Simple (front ++ [.enqueueAt 0 batch, .next])
  | halts {front : List Action} (quiet : ∀ a ∈ front, a.quiet = true) : Simple front
  | parks {front : List Action} (quiet : ∀ a ∈ front, a.quiet = true) (slot : String) :
    Simple (front ++ [.park slot])
  | fails {front : List Action} (quiet : ∀ a ∈ front, a.quiet = true) (message : String) :
    Simple (front ++ [.fail message])

/-- The handler passes, and is of the batch that is put in front of the queue right before that. -/
def Inserts (k h : Handler) : Prop :=
  ∃ front batch, h = front ++ [.enqueueAt 0 batch, .next] ∧ k ∈ batch

theorem Simple.acc {h : Handler} (simple : Simple h) : Acc Inserts h := by
  have leaf {h : Handler} (other : ∀ front batch, h ≠ front ++ [.enqueueAt 0 batch, .next]) :
      Acc Inserts h := ⟨h, fun _ ⟨front, batch, same, _⟩ => absurd same (other front batch)⟩
  have apart {front : List Action} (quiet : ∀ a ∈ front, a.quiet = true) :
      ∀ before batch rest, front ≠ before ++ .enqueueAt 0 batch :: rest := by
    rintro before batch rest rfl
    cases quiet (.enqueueAt 0 batch) (by simp)
  induction simple with
  | @passes front quiet =>
    refine leaf fun before batch same => apart quiet before batch [] ?_
    have same : front ++ [.next] = (before ++ [.enqueueAt 0 batch]) ++ [.next] := by simpa using same
    exact (List.append_inj' same rfl).1
  | inserts quiet _ ih =>
    refine ⟨_, ?_⟩
    rintro k ⟨before, batch, same, hk⟩
    obtain ⟨-, same⟩ := List.append_inj' same rfl
    obtain ⟨-, rfl⟩ := Action.enqueueAt.inj (List.cons.inj same).1
    exact ih k hk
  | halts quiet => exact leaf fun before batch => apart quiet before batch [.next]
  | parks | fails =>
    refine leaf fun before batch same => ?_
    have ends := congrArg List.getLast? same
    simp at ends

namespace Machine

/-- Actions that only observe come first, and leave the chains as they are. -/
theorem apart_of_quiet (id : ChainId) (s : Session) (scene : Scene) {front : List Action}
    (quiet : ∀ a ∈ front, a.quiet = true) (rest : List Action) :
    ∃ t, Apart id ⟨s, [⟨scene, front ++ rest, false⟩], none⟩ ⟨t, [⟨scene, rest, false⟩], none⟩ ∧
      t.chains = s.chains := by
  induction front generalizing s with
  | nil => exact ⟨s, .refl _, rfl⟩
  | cons a front ih =>
    obtain ⟨t, here, same⟩ :=
      goes_of_quiet id s false scene (front ++ rest) (quiet a (List.mem_cons_self ..))
    obtain ⟨u, later, same'⟩ := ih t fun b hb => quiet b (List.mem_cons_of_mem _ hb)
    exact ⟨u, (Apart.of_goes here).trans later, same'.trans same⟩

theorem Away.of_none {id : ChainId} {m : Machine} (busy : m.frames ≠ []) (none : m.nextAct? = none) :
    m.Away id :=
  ⟨busy, fun guarded => by simp [none]⟩

end Machine

namespace Behaves

variable (id : ChainId) (s : Session) {front : List Action}

theorem queue_of_chains {s t : Session} (same : t.chains = s.chains) :
    (t.chain? id).map (·.queue) = (s.chain? id).map ([] ++ ·.queue) := by
  simp [Session.chain?, same]

theorem exists_passes (quiet : ∀ a ∈ front, a.quiet = true) :
    ∃ t, Behaves id (front ++ [.next]) s (.passes []) t := by
  obtain ⟨t, on, same⟩ := Machine.apart_of_quiet id s ⟨some id, some id⟩ quiet [.next]
  exact ⟨t, on, queue_of_chains id same, fun _ same => by cases same⟩

variable {id s} in
/-- What a handler puts at the front of the queue, right before it passes, stands before all that waited. -/
theorem inserts {t : Session} {batch : List Handler}
    (on : Machine.Apart id
      ⟨s, [⟨⟨some id, some id⟩, front ++ [.enqueueAt 0 batch, .next], false⟩], none⟩
      ⟨t, [⟨⟨some id, some id⟩, [.enqueueAt 0 batch, .next], false⟩], none⟩)
    (queue : (t.chain? id).map (·.queue) = (s.chain? id).map (·.queue)) :
    Behaves id (front ++ [.enqueueAt 0 batch, .next]) s (.passes batch) (t.enqueueAt id 0 batch) := by
  have away : Machine.Away id ⟨t, [⟨⟨some id, some id⟩, [.enqueueAt 0 batch, .next], false⟩], none⟩ :=
    ⟨by simp, fun guarded => by simp [Machine.nextAct?, Action.act?]⟩
  have inserted : Machine.step ⟨t, [⟨⟨some id, some id⟩, [.enqueueAt 0 batch, .next], false⟩], none⟩ =
      ⟨t.enqueueAt id 0 batch, [⟨⟨some id, some id⟩, [.next], false⟩], none⟩ := by
    have found : t.sceneChain? ⟨some id, some id⟩ = (t.chain? id).map (id, ·) := rfl
    simp only [Machine.step, Machine.take, found]
    cases hc : t.chain? id with
    | none => rw [Session.enqueueAt, hc]; rfl
    | some c => rfl
  refine ⟨on.trans (.step away (inserted ▸ .refl _)), ?_, fun _ same => by cases same⟩
  have inFront : ((t.enqueueAt id 0 batch).chain? id).map (·.queue) =
      (t.chain? id).map (batch ++ ·.queue) := by
    rw [Session.enqueueAt]
    cases hc : t.chain? id with
    | none => simp [hc]
    | some c =>
      change ((t.modify id (·.enqueueAt 0 batch)).chain? id).map (·.queue) = _
      rw [Session.chain?_modify_self, hc]
      simp [Chain.enqueueAt]
  have prepended := congrArg (Option.map (batch ++ ·)) queue
  rw [Option.map_map, Option.map_map] at prepended
  exact inFront.trans prepended

theorem exists_inserts (quiet : ∀ a ∈ front, a.quiet = true) (batch : List Handler) :
    ∃ t, Behaves id (front ++ [.enqueueAt 0 batch, .next]) s (.passes batch) t := by
  obtain ⟨t, on, same⟩ :=
    Machine.apart_of_quiet id s ⟨some id, some id⟩ quiet [.enqueueAt 0 batch, .next]
  exact ⟨_, inserts on (by rw [Session.chain?, same]; rfl)⟩

theorem exists_halts (quiet : ∀ a ∈ front, a.quiet = true) : ∃ t, Behaves id front s .halts t := by
  obtain ⟨t, on, same⟩ := Machine.apart_of_quiet id s ⟨some id, some id⟩ quiet []
  rw [List.append_nil] at on
  exact ⟨t, on.trans (.step (.of_none (by simp) rfl) (.refl _)), queue_of_chains id same,
    fun _ same => by cases same⟩

theorem exists_parks (quiet : ∀ a ∈ front, a.quiet = true) (slot : String) :
    ∃ t, Behaves id (front ++ [.park slot]) s (.parks slot) t := by
  obtain ⟨t, on, same⟩ := Machine.apart_of_quiet id s ⟨some id, some id⟩ quiet [.park slot]
  have parks : Machine.Apart id ⟨t, [⟨⟨some id, some id⟩, [.park slot], false⟩], none⟩
      ⟨t.park slot id, [], none⟩ :=
    .step (.of_none (by simp) rfl) (.step (.of_none (by simp [Machine.step, Machine.take]) rfl) (.refl _))
  refine ⟨t.park slot id, on.trans parks, queue_of_chains id same, fun slot' same => ?_⟩
  obtain rfl := Conduct.parks.inj same
  simp [Session.park]

theorem exists_fails (quiet : ∀ a ∈ front, a.quiet = true) (message : String) :
    ∃ t, Behaves id (front ++ [.fail message]) s (.fails (.handler message)) t := by
  obtain ⟨t, on, same⟩ := Machine.apart_of_quiet id s ⟨some id, some id⟩ quiet [.fail message]
  have fails : Machine.Apart id ⟨t, [⟨⟨some id, some id⟩, [.fail message], false⟩], none⟩
      ⟨t, [], some (.handler message)⟩ :=
    .step (.of_none (by simp) rfl) (.step (.of_none (by simp [Machine.step, Machine.take]) rfl) (.refl _))
  exact ⟨t, on.trans fails, queue_of_chains id same, fun _ same => by cases same⟩

end Behaves

/-- Simple handlers pass, halt or fail in any session. -/
theorem conducted_simple (id : ChainId) : Conducted id (fun _ => True) Simple Inserts := by
  intro h s simple _
  cases simple with
  | passes quiet =>
    obtain ⟨t, behaves⟩ := Behaves.exists_passes id s quiet
    exact ⟨_, t, behaves, fun _ hk => (by cases hk), fun _ => trivial⟩
  | @inserts front batch quiet simple =>
    obtain ⟨t, behaves⟩ := Behaves.exists_inserts id s quiet batch
    exact ⟨_, t, behaves, fun k hk => ⟨simple k hk, _, _, rfl, hk⟩, fun _ => trivial⟩
  | halts quiet =>
    obtain ⟨t, behaves⟩ := Behaves.exists_halts id s quiet
    exact ⟨_, t, behaves, fun _ hk => (by cases hk), fun _ => trivial⟩
  | parks quiet slot =>
    obtain ⟨t, behaves⟩ := Behaves.exists_parks id s quiet slot
    exact ⟨_, t, behaves, fun _ hk => (by cases hk), fun _ => trivial⟩
  | fails quiet message =>
    obtain ⟨t, behaves⟩ := Behaves.exists_fails id s quiet message
    exact ⟨_, t, behaves, fun _ hk => (by cases hk), fun _ => trivial⟩

namespace Machine

variable {s u : Session} {slot : String} {id : ChainId}

/-! ## Continuations in slots -/

theorem chain?_of_unpark? (taken : s.unpark? slot = some (id, u)) (i : ChainId) : u.chain? i = s.chain? i := by
  obtain ⟨_, -, same⟩ := Option.map_eq_some_iff.1 taken
  obtain ⟨-, rfl⟩ := Prod.mk.inj same
  rfl

theorem step_resume (taken : s.unpark? slot = some (id, u)) (scene : Scene) (rest : List Action)
    (guarded : Bool) (below : List Frame) :
    step ⟨s, ⟨scene, .resume slot :: rest, guarded⟩ :: below, none⟩ =
      call u id false (⟨scene, rest, guarded⟩ :: below) := by
  simp only [step, take, taken]

theorem called?_resume (taken : s.unpark? slot = some (id, u)) (scene : Scene) (rest : List Action)
    (guarded : Bool) (below : List Frame) :
    called? ⟨s, ⟨scene, .resume slot :: rest, guarded⟩ :: below, none⟩ = s.upNext id := by
  obtain ⟨_, parked, same⟩ := Option.map_eq_some_iff.1 taken
  obtain ⟨rfl, -⟩ := Prod.mk.inj same
  simp only [called?, nextAct?, Action.act?, parked, Option.map_some]

end Machine

/-! ## Up to the first that does not pass -/

/-- Of the handlers that wait in a queue, those up to the first that does not pass are called, in order, and the
others are left. -/
structure UpToFirst (id : ChainId) (s : Session) (queue : List Handler) (cs : List (Handler × Conduct))
    (left : List Handler) (t : Session) : Prop where
  ran : Ran id s queue cs left t
  /-- Batches count as if they had been directly after the handlers that inserted them. -/
  split : cs.map (·.1) ++ left = spliced queue (cs.map (·.2))
  plain : (∀ c ∈ cs, c.2.batch = []) → cs.map (·.1) ++ left = queue
  front : ∀ c ∈ cs.dropLast, c.2.isPass = true
  last : (∀ c ∈ cs, c.2.isPass = true) → left = []
  pending : (t.chain? id).map (·.queue) = some left
  parked : ∀ h slot, cs.getLast? = some (h, .parks slot) → t.parked.lookup slot = some id

theorem Ran.upToFirst {id : ChainId} {s t : Session} {queue left : List Handler}
    {cs : List (Handler × Conduct)} (h : Ran id s queue cs left t)
    (waiting : (s.chain? id).map (·.queue) = some queue) : UpToFirst id s queue cs left t where
  ran := h
  split := h.split
  plain quiet := h.split.trans (spliced_of_plain (List.forall_mem_map.2 quiet))
  front := h.front
  last := h.last
  pending := h.pending waiting
  parked _ _ := h.parked

/-- A run of a chain whose handlers pass, halt or fail calls those up to the first that does not pass, and ends as
that one does; the others are left as they were. The call of a continuation that was put aside does the same with
those that are left then, whoever calls it, and whatever is under way. This holds of each run that comes to an
end; and there is an end if handlers do not insert others without end. A handler that inserts a batch at index 0
right before it calls its continuation passes with this batch. -/
theorem runs_up_to_first_stop {id : ChainId} {Fit : Session → Prop} {Known : Handler → Prop}
    {inserts : Handler → Handler → Prop} (conducted : Conducted id Fit Known inserts) {s : Session}
    {c : Chain} (hc : s.chain? id = some c) (known : ∀ h ∈ c.queue, Known h) :
    (Fit ((s.modify id Chain.start).popped id) →
      (∃ limit o, (Session.run limit id).start s = some o) ∨ (∀ h ∈ c.queue, Acc inserts h) →
      ∃ cs left t, UpToFirst id (s.modify id Chain.start) c.queue cs left t ∧
        (∀ h ∈ cs.map (·.1) ++ left, Known h) ∧
        ∃ n, ∀ limit, n ≤ limit →
          (Session.run limit id).start s = some ((outcome cs).elim (.ok ()) .error, t) ∧
          (s.runCalls limit id).filter (·.1 == id) = cs.map fun called => (id, called.1)) ∧
    (∀ slot u, s.unpark? slot = some (id, u) → Fit (u.popped id) → ∀ scene rest guarded below,
      (∃ limit last, (⟨s, ⟨scene, .resume slot :: rest, guarded⟩ :: below, none⟩ : Machine).run limit =
        some last) ∨ (∀ h ∈ c.queue, Acc inserts h) →
      ∃ cs left t, UpToFirst id u c.queue cs left t ∧ (∀ h ∈ cs.map (·.1) ++ left, Known h) ∧
        ∃ ks, (⟨s, ⟨scene, .resume slot :: rest, guarded⟩ :: below, none⟩ : Machine).Leads ks
            ⟨t, ⟨scene, rest, guarded⟩ :: below, outcome cs⟩ ∧
          ks.filter (·.1 == id) = cs.map fun called => (id, called.1)) ∧
    ∀ front batch u v,
      Machine.Apart id ⟨u, [⟨⟨some id, some id⟩, front ++ [.enqueueAt 0 batch, .next], false⟩], none⟩
        ⟨v, [⟨⟨some id, some id⟩, [.enqueueAt 0 batch, .next], false⟩], none⟩ →
      (v.chain? id).map (·.queue) = (u.chain? id).map (·.queue) →
      Behaves id (front ++ [.enqueueAt 0 batch, .next]) u (.passes batch) (v.enqueueAt id 0 batch) := by
  have head (h : Option Handler) : ((h.map (id, ·)).toList).filter (·.1 == id) = (h.map (id, ·)).toList := by
    cases h <;> simp
  refine ⟨fun fit ends => ?_, fun slot u taken fit scene rest guarded below ends => ?_,
    fun front batch u v on queue => Behaves.inserts on queue⟩
  · have waiting : ((s.modify id Chain.start).chain? id).map (·.queue) = some c.queue := by
      rw [Session.chain?_modify_self, hc]
      rfl
    have ends' : (∃ limit last, (Machine.call (s.modify id Chain.start) id false []).run limit =
        some last) ∨ ∀ h ∈ c.queue, Acc inserts h := by
      refine ends.imp_left (Exists.imp fun limit ended => ?_)
      obtain ⟨o, ended⟩ := ended
      exact (Option.map_eq_some_iff.1 ended).imp fun _ => And.left
    obtain ⟨cs, left, t, ran, known⟩ := exists_ran conducted known waiting fit ends'
    obtain ⟨ks, leads, called⟩ := ran.leads waiting []
    obtain ⟨n, last⟩ := leads.ends
    refine ⟨cs, left, t, ran.upToFirst waiting, known, n, fun limit enough => ⟨?_, ?_⟩⟩
    · change ((Machine.call (s.modify id Chain.start) id false []).run limit).map Machine.result = _
      rw [(last limit enough).1]
      cases outcome cs <;> rfl
    · rw [Session.runCalls, (last limit enough).2, List.filter_append, Session.upNext,
        Session.head?_of_queue waiting, head, called]
  · have waiting : (u.chain? id).map (·.queue) = some c.queue := by
      rw [Machine.chain?_of_unpark? taken, hc]
      rfl
    have stepped := Machine.step_resume taken scene rest guarded below
    have ends' : (∃ limit last, (Machine.call u id false (⟨scene, rest, guarded⟩ :: below)).run limit =
        some last) ∨ ∀ h ∈ c.queue, Acc inserts h := by
      refine ends.imp_left fun ran => ?_
      obtain ⟨limit, last, ran⟩ := ran
      obtain ⟨less, -, ran⟩ := Machine.exists_run_of_step (by simp) ran
      exact ⟨less, last, stepped ▸ ran⟩
    obtain ⟨cs, left, t, ran, known⟩ := exists_ran conducted known waiting fit ends'
    obtain ⟨ks, leads, called⟩ := ran.leads waiting (⟨scene, rest, guarded⟩ :: below)
    have call := Machine.Leads.of_step (m := ⟨s, ⟨scene, .resume slot :: rest, guarded⟩ :: below, none⟩) (by simp)
    rw [stepped, Machine.called?_resume taken, Session.upNext, hc] at call
    exact ⟨cs, left, t, ran.upToFirst waiting, known, _, call.trans leads,
      by rw [List.filter_append, Option.bind_some, head, called]⟩

/-- The first handler inserts another one, which passes too; the next halts, with its continuation in a slot, and the
last fails. -/
theorem runs_up_to_first_stop_batch :
    ∃ (s u : Session) (c : Chain), s.chain? 0 = some c ∧
      c.queue = [[.note "a", .enqueueAt 0 [[.note "b", .next]], .next], [.park "slot"], [.fail "x"]] ∧
      s.unpark? "slot" = some (0, u) ∧ (∀ h ∈ c.queue, Simple h ∧ Acc Inserts h) ∧
      (∃ cs left t, UpToFirst 0 (s.modify 0 Chain.start) c.queue cs left t ∧
        (∀ h ∈ cs.map (·.1) ++ left, Simple h) ∧
        ∃ n, ∀ limit, n ≤ limit →
          (Session.run limit 0).start s = some ((outcome cs).elim (.ok ()) .error, t) ∧
          (s.runCalls limit 0).filter (·.1 == 0) = cs.map fun called => (0, called.1)) ∧
      (∃ cs left t, UpToFirst 0 u c.queue cs left t ∧ (∀ h ∈ cs.map (·.1) ++ left, Simple h) ∧
        ∃ ks, (⟨s, [⟨{}, [.resume "slot"], false⟩], none⟩ : Machine).Leads ks
            ⟨t, [⟨{}, [], false⟩], outcome cs⟩ ∧
          ks.filter (·.1 == 0) = cs.map fun called => (0, called.1)) ∧
      Behaves 0 [.note "a", .enqueueAt 0 [[.note "b", .next]], .next] s (.passes [[.note "b", .next]])
        ((s.observe (.note "a")).enqueueAt 0 0 [[.note "b", .next]]) := by
  let inserted : Handler := [.note "b", .next]
  let first : Handler := [.note "a", .enqueueAt 0 [inserted], .next]
  let context : RouteContext := ⟨"/a", ⟨"/a", true, [], .empty, []⟩, ⟨"/a", false, .empty⟩⟩
  let c : Chain := .opened "/a" context [first, [.park "slot"], [.fail "x"]]
  let s : Session := { chains := [c], parked := [("slot", 0)] }
  have simple : ∀ h ∈ c.queue, Simple h := by
    have passes : Simple ([.note "b"] ++ [.next]) := .passes (by simp [Action.quiet])
    have inserts : Simple ([.note "a"] ++ [.enqueueAt 0 [inserted], .next]) :=
      .inserts (by simp [Action.quiet]) (by simpa using passes)
    have parks : Simple ([] ++ [.park "slot"]) := .parks (by simp) "slot"
    have fails : Simple ([] ++ [.fail "x"]) := .fails (by simp) "x"
    simpa [c, Chain.opened] using And.intro inserts (And.intro parks fails)
  have finite : ∀ h ∈ c.queue, Acc Inserts h := fun h hh => (simple h hh).acc
  have noted : Machine.Apart 0 ⟨s, [⟨⟨some 0, some 0⟩, first, false⟩], none⟩
      ⟨s.observe (.note "a"), [⟨⟨some 0, some 0⟩, [.enqueueAt 0 [inserted], .next], false⟩], none⟩ :=
    .step (.of_none (by simp) rfl) (.refl _)
  obtain ⟨ran, resumed, inserts⟩ := runs_up_to_first_stop (conducted_simple 0) (s := s) (c := c) rfl simple
  exact ⟨s, { s with parked := [] }, c, rfl, rfl, rfl, fun h hh => ⟨simple h hh, finite h hh⟩,
    ran trivial (.inr finite), resumed "slot" _ rfl trivial {} [] false [] (.inr finite),
    inserts [.note "a"] [inserted] s _ noted rfl⟩

end Routing
