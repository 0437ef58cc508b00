import Mathlib.Data.List.Forall2
import Routing.Proofs.Session.Conduct

/-!
# Chains that are missing

Who acts on a chain that was never made does what he would do without a chain.

* `Frame.Blank`, `Machine.Blank`: handlers about a missing chain, and the same about none
* `Session.act_missing`: actions about a missing chain
-/
namespace Routing

/-- The second handler is the first one, or is about no chain where the first one is about the missing one. -/
def Frame.Blank (id : ChainId) (f g : Frame) : Prop :=
  g = f ∨ (f.scene = ⟨some id, none⟩ ∧ g = { f with scene := {} })

structure Machine.Blank (id : ChainId) (m n : Machine) : Prop where
  session : n.session = m.session
  frames : List.Forall₂ (Frame.Blank id) m.frames n.frames
  failure : n.failure = m.failure

namespace Machine

variable {id : ChainId} {s : Session} {f g : Frame} {below below' : List Frame}

theorem Blank.onto (m : Machine) (under : List.Forall₂ (Frame.Blank id) below below') :
    (m.onto below).Blank id (m.onto below') where
  session := rfl
  frames := List.rel_append (List.forall₂_same.2 fun _ _ => .inl rfl) under
  failure := rfl

theorem blank_call (s : Session) (i : ChainId) (guarded : Bool)
    (under : List.Forall₂ (Frame.Blank id) below below') :
    (call s i guarded below).Blank id (call s i guarded below') := by
  rw [← List.nil_append below, ← List.nil_append below', call_onto, call_onto]
  exact .onto _ under

theorem sight_missing (missing : s.chain? id = none) :
    s.sight ⟨some id, none⟩ = s.sight {} := by
  simp [Session.sight, Session.chainReport?, Session.nextReport, missing]

theorem blank_take (missing : s.chain? id = none) (top : f.Blank id g)
    (under : List.Forall₂ (Frame.Blank id) below below') (a : Action) :
    (take s f below a).Blank id (take s g below' a) := by
  obtain rfl | ⟨about, rfl⟩ := top
  · rw [← List.nil_append below, ← List.nil_append below', take_onto, take_onto]
    exact .onto _ under
  · obtain ⟨scene, todo, guarded⟩ := f
    obtain rfl : scene = ⟨some id, none⟩ := about
    have nothing : s.sceneChain? ⟨some id, none⟩ = none := by
      simp [Session.sceneChain?, missing]
    have goes_on (s : Session) (todo : List Action) (failure : Option RouterError) :
        (⟨s, ⟨⟨some id, none⟩, todo, guarded⟩ :: below, failure⟩ : Machine).Blank id
          ⟨s, ⟨{}, todo, guarded⟩ :: below', failure⟩ :=
      ⟨rfl, .cons (.inr ⟨rfl, rfl⟩) under, rfl⟩
    cases a with
    | note | fail | failWith | recover | next | nextCaught | park | times | perform => exact goes_on ..
    | consult choose =>
      simp only [take, sight_missing missing]
      exact goes_on ..
    | onKept slot body =>
      simp only [take]
      cases s.handles.lookup slot with
      | none => exact goes_on ..
      | some kept => exact ⟨rfl, .cons (.inl rfl) (.cons (.inr ⟨rfl, rfl⟩) under), rfl⟩
    | resume slot =>
      simp only [take]
      cases s.unpark? slot with
      | none => exact goes_on ..
      | some found => exact blank_call _ _ _ (.cons (.inr ⟨rfl, rfl⟩) under)
    | observeRequest =>
      simp only [take, Session.sceneRequest?, nothing]
      exact goes_on ..
    | _ =>
      simp only [take, nothing]
      exact goes_on ..

theorem Blank.step {m n : Machine} (missing : m.session.chain? id = none) (h : m.Blank id n) :
    m.step.Blank id n.step := by
  obtain ⟨s, frames, failure⟩ := m
  obtain ⟨t, frames', failure'⟩ := n
  obtain ⟨rfl, under, rfl⟩ := h
  cases under with
  | nil => exact ⟨rfl, .nil, rfl⟩
  | @cons f g below below' top under =>
    have same : g.todo = f.todo ∧ g.guarded = f.guarded := by
      obtain rfl | ⟨-, rfl⟩ := top <;> exact ⟨rfl, rfl⟩
    have left (failure : Option RouterError) :
        (leave t f below failure).Blank id (leave t g below' failure) := by
      simp only [leave, same.2]
      split <;> exact ⟨rfl, under, rfl⟩
    have rest (todo : List Action) : ({ f with todo } : Frame).Blank id { g with todo } := by
      obtain rfl | ⟨about, rfl⟩ := top
      · exact .inl rfl
      · exact .inr ⟨about, rfl⟩
    simp only [Machine.step, unwind, same.1]
    split
    · split
      · exact ⟨rfl, .cons (rest _) under, rfl⟩
      · exact left _
    · exact left _
    · exact blank_take missing (rest _) under _

theorem Blank.run {m n : Machine} (missing : m.session.chain? id = none) (h : m.Blank id n) (limit : Nat) :
    (n.run limit).map Machine.result = (m.run limit).map Machine.result := by
  have empty {m n : Machine} (h : m.Blank id n) : n.frames.isEmpty = m.frames.isEmpty := by
    obtain ⟨s, frames, failure⟩ := m
    obtain ⟨t, frames', failure'⟩ := n
    obtain ⟨-, under, -⟩ := h
    cases under <;> rfl
  have ended {m n : Machine} (h : m.Blank id n) : n.result = m.result := by
    rw [result, result, h.failure, h.session]
  induction limit generalizing m n with
  | zero =>
    simp only [Machine.run, empty h]
    split
    · exact congrArg some (ended h)
    · rfl
  | succ limit ih =>
    simp only [Machine.run, empty h]
    split
    · exact congrArg some (ended h)
    · have still : m.step.session.chain? id = none := by
        have length := m.step_aged.length
        rw [Session.chain?, List.getElem?_eq_none_iff] at missing ⊢
        exact length ▸ missing
      exact ih still (h.step missing)

end Machine

/-- Actions about a missing chain are actions about none. -/
theorem Session.act_missing {limit : Nat} {id : ChainId} {actions : List Action} {s : Session}
    (missing : s.chain? id = none) :
    (act limit (some id) actions).start s = (act limit none actions).start s := by
  have blank : (⟨s, [⟨⟨some id, none⟩, actions, false⟩], none⟩ : Machine).Blank id
      ⟨s, [⟨⟨none, none⟩, actions, false⟩], none⟩ :=
    ⟨rfl, .cons (.inr ⟨rfl, rfl⟩) .nil, rfl⟩
  exact (blank.run missing limit).symm

end Routing
