import Routing.Proofs.Session.Conduct

/-!
# Handlers that observe and pass

Handlers that only make observations and call their continuations are served, whatever is in the session.

* `Action.quiet`, `Action.plain`: actions that observe, and actions that observe or call the continuation
* `Machine.goes_of_plain`, `Machine.goes_or_passes`: plain actions go on
* `exists_serves`: handlers of plain actions are served
-/
namespace Routing

/-- An action that makes an observation and is nothing to any chain. -/
def Action.quiet : Action → Bool
  | .note _ | .observeNext | .observeParam _ | .observeIndex _ | .observeRequest | .observeChain
  | .observeContext | .describeChain => true
  | _ => false

def Action.plain (a : Action) : Bool :=
  a.quiet || a.passes?.isSome

theorem Action.plain_iff (a : Action) :
    a.plain = true ↔ a.quiet = true ∨ ∃ caught, a.passes? = some caught := by
  simp [plain, Option.isSome_iff_exists]

namespace Machine

variable (id : ChainId) (s : Session) {scene : Scene} {a : Action} (guarded : Bool)

theorem goes_step (rest : List Action) (nothing : a.act? s scene = none)
    (on : ∃ t, step ⟨s, [⟨scene, a :: rest, guarded⟩], none⟩ = ⟨t, [⟨scene, rest, guarded⟩], none⟩) :
    ∃ t, Goes id ⟨s, [⟨scene, a :: rest, guarded⟩], none⟩ ⟨t, [⟨scene, rest, guarded⟩], none⟩ ∧
      t.chains = s.chains := by
  obtain ⟨t, on⟩ := on
  have idle : nextAct? ⟨s, [⟨scene, a :: rest, guarded⟩], none⟩ = none := nothing
  have does := step_does ⟨s, [⟨scene, a :: rest, guarded⟩], none⟩
  rw [idle, on] at does
  have mild : Mild id ⟨s, [⟨scene, a :: rest, guarded⟩], none⟩ :=
    ⟨by simp, by simp [idle]⟩
  exact ⟨t, .step mild (on ▸ .refl _), does⟩

/-- An action that only observes leaves the chains as they are. -/
theorem goes_of_quiet (scene : Scene) (rest : List Action) (quiet : a.quiet = true) :
    ∃ t, Goes id ⟨s, [⟨scene, a :: rest, guarded⟩], none⟩ ⟨t, [⟨scene, rest, guarded⟩], none⟩ ∧
      t.chains = s.chains := by
  cases a with
  | note | observeRequest => exact goes_step id s guarded rest rfl ⟨_, rfl⟩
  | observeNext | observeParam | observeIndex | observeChain | observeContext | describeChain =>
    refine goes_step id s guarded rest rfl ?_
    simp only [step, take]
    cases s.sceneChain? scene <;> exact ⟨_, rfl⟩
  | _ => cases quiet

theorem goes_leave (scene : Scene) :
    ∃ t, Goes id ⟨s, [⟨scene, [], guarded⟩], none⟩ ⟨t, [], none⟩ ∧ t.chains = s.chains := by
  have mild : Mild id ⟨s, [⟨scene, [], guarded⟩], none⟩ := ⟨by simp, nofun⟩
  cases guarded with
  | false => exact ⟨s, .step mild (.refl _), rfl⟩
  | true => exact ⟨s.observe (.caught none), .step mild (.refl _), rfl⟩

theorem goes_of_passes (rest : List Action) {caught : Bool} (used : scene.next = none)
    (pass : a.passes? = some caught) :
    ∃ t, Goes id ⟨s, [⟨scene, a :: rest, guarded⟩], none⟩ ⟨t, [⟨scene, rest, guarded⟩], none⟩ ∧
      t.chains = s.chains := by
  cases a with
  | next | nextCaught =>
    refine goes_step id s guarded rest (by simp [Action.act?, used]) ?_
    simp only [step, take, used]
    exact ⟨_, rfl⟩
  | _ => cases pass

/-- Once the continuation is used, plain actions leave the chains as they are. -/
theorem goes_of_plain (used : scene.next = none) {actions : List Action}
    (plain : ∀ a ∈ actions, a.plain = true) :
    ∃ t, Goes id ⟨s, [⟨scene, actions, guarded⟩], none⟩ ⟨t, [], none⟩ ∧ t.chains = s.chains := by
  induction actions generalizing s with
  | nil => exact goes_leave id s guarded scene
  | cons a actions ih =>
    have first : ∃ t, Goes id ⟨s, [⟨scene, a :: actions, guarded⟩], none⟩
        ⟨t, [⟨scene, actions, guarded⟩], none⟩ ∧ t.chains = s.chains := by
      obtain quiet | pass := a.plain_iff.1 (plain a (List.mem_cons_self ..))
      · exact goes_of_quiet id s guarded scene actions quiet
      · exact goes_of_passes id s guarded actions used pass.choose_spec
    obtain ⟨t, here, same⟩ := first
    obtain ⟨u, others, same'⟩ := ih t fun b hb => plain b (List.mem_cons_of_mem _ hb)
    exact ⟨u, here.trans others, same'.trans same⟩

/-- Plain actions go on to their end, or up to a call of the continuation. -/
theorem goes_or_passes (scene : Scene) {actions : List Action} (plain : ∀ a ∈ actions, a.plain = true) :
    (∃ t, Goes id ⟨s, [⟨scene, actions, guarded⟩], none⟩ ⟨t, [], none⟩) ∨
      ∃ t a caught rest, Goes id ⟨s, [⟨scene, actions, guarded⟩], none⟩
        ⟨t, [⟨scene, a :: rest, guarded⟩], none⟩ ∧ a.passes? = some caught ∧
          ∀ b ∈ rest, b.plain = true := by
  induction actions generalizing s with
  | nil =>
    obtain ⟨t, ends, -⟩ := goes_leave id s guarded scene
    exact .inl ⟨t, ends⟩
  | cons a actions ih =>
    have others : ∀ b ∈ actions, b.plain = true := fun b hb => plain b (List.mem_cons_of_mem _ hb)
    obtain quiet | ⟨caught, pass⟩ := a.plain_iff.1 (plain a (List.mem_cons_self ..))
    · obtain ⟨t, here, -⟩ := goes_of_quiet id s guarded scene actions quiet
      obtain ⟨u, ends⟩ | ⟨u, b, caught, rest, on, pass, left⟩ := ih t others
      · exact .inl ⟨u, here.trans ends⟩
      · exact .inr ⟨u, b, caught, rest, here.trans on, pass, left⟩
    · exact .inr ⟨s, a, caught, actions, .refl _, pass, others⟩

end Machine

/-- Handlers of plain actions are served, whatever is in the session. -/
theorem exists_serves {id : ChainId} {hs : List Handler} (plain : ∀ h ∈ hs, ∀ a ∈ h, a.plain = true)
    (s : Session) (guarded : Bool) : ∃ called t, Serves id s guarded hs called t := by
  induction hs generalizing s guarded with
  | nil => exact ⟨_, _, .exhausted⟩
  | cons h hs ih =>
    have others : ∀ h ∈ hs, ∀ a ∈ h, a.plain = true := fun k hk => plain k (List.mem_cons_of_mem _ hk)
    obtain ⟨t, ends⟩ | ⟨t, a, caught, rest, on, pass, left⟩ :=
      Machine.goes_or_passes id (s.popped id) guarded ⟨some id, some id⟩
        (plain h (List.mem_cons_self ..))
    · exact ⟨_, t, .halts ends⟩
    · obtain ⟨called, u, inner⟩ := ih others t caught
      obtain ⟨v, after, -⟩ := Machine.goes_of_plain id u guarded
        (rfl : Scene.next ⟨some id, none⟩ = none) left
      exact ⟨_, v, .passes on pass inner after⟩

end Routing
