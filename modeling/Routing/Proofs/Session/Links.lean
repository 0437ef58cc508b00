import Routing.Proofs.Session.Aging

/-!
# Links between chains

Each chain may be linked to the chain before it. Handlers go from chain to chain by the links, but only a
router makes them.

* `Session.links`: the chain before each chain
* `Session.previous?_link`: what one link changes
* `Machine.course`: a machine in the course of its steps
* `Machine.links_step`, `Machine.links_course`, `Session.links_running`: handlers change no link
-/
namespace Routing

namespace Session

def links (s : Session) : List (Option ChainId) :=
  s.chains.map (·.previous)

theorem previous?_eq_links (s : Session) (id : ChainId) : s.previous? id = s.links[id]?.join := by
  rw [previous?, chain?, links, List.getElem?_map]
  cases s.chains[id]? <;> rfl

theorem previous?_congr {s t : Session} (same : s.links = t.links) (id : ChainId) :
    s.previous? id = t.previous? id := by
  rw [previous?_eq_links, previous?_eq_links, same]

theorem length_links (s : Session) : s.links.length = s.chains.length :=
  List.length_map ..

theorem links_modify (s : Session) (id : ChainId) (f : Chain → Chain)
    (same : ∀ c, (f c).previous = c.previous) : (s.modify id f).links = s.links :=
  s.map_chains_modify (·.previous) id f same

theorem links_enqueue (s : Session) (id : ChainId) (batch : List Handler) :
    (s.enqueue id batch).links = s.links := by
  unfold enqueue
  split
  · rfl
  · exact s.links_modify id (·.enqueue batch) fun _ => rfl

theorem previous?_modify {s : Session} {id : ChainId} (i : ChainId) {before : Option ChainId}
    (fits : before = none ∨ id < s.chains.length) :
    (s.modify id fun c => { c with previous := before }).previous? i =
      if id = i then before else s.previous? i := by
  rw [previous?, previous?, chain?_modify]
  by_cases here : id = i
  · rw [if_pos here, if_pos here]
    cases hc : s.chain? i with
    | some c => rfl
    | none =>
      -- a chain that is missing can only be left without a link
      have missing : s.chains.length ≤ i := List.getElem?_eq_none_iff.1 hc
      obtain rfl | there := fits
      · rfl
      · exact absurd there (Nat.not_lt.2 (here ▸ missing))
  · rw [if_neg here, if_neg here]

/-- A link is made to one chain, and that one loses its own. -/
theorem previous?_link {s : Session} {id : ChainId} (i : ChainId) (before : Option ChainId)
    (there : id < s.chains.length) :
    (s.link id before).previous? i =
      if id = i then before else if before = some i then none else s.previous? i := by
  cases before with
  | none =>
    simp only [reduceCtorEq, if_false]
    exact previous?_modify i (.inr there)
  | some b =>
    have unlinked := s.length_modify b fun c => { c with previous := none }
    refine (previous?_modify i (.inr (unlinked ▸ there))).trans ?_
    rw [previous?_modify i (.inl rfl)]
    simp only [Option.some.injEq]

end Session

namespace Machine

/-- The machine before each of so many steps, as long as handlers are under way. -/
def course (limit : Nat) (m : Machine) : List Machine :=
  m.collect some limit

theorem links_call (s : Session) (id : ChainId) (guarded : Bool) (below : List Frame) :
    (call s id guarded below).session.links = s.links := by
  rw [call_eq]
  split
  · exact s.links_modify id _ fun _ => rfl
  · rfl

theorem links_act (m : Machine) {a : ChainAct}
    (old : ∀ value context globals, a ≠ .create value context globals) :
    (m.act a).session.links = m.session.links := by
  cases a with
  | create value context globals => exact absurd rfl (old value context globals)
  | enqueue id batch => exact m.session.links_enqueue id batch
  | enqueueAt id index batch =>
    simp only [act, Session.enqueueAt]
    split
    · rfl
    · exact m.session.links_modify id (·.enqueueAt index batch) fun _ => rfl
  | run id guarded =>
    exact (links_call _ id guarded m.frames).trans (m.session.links_modify id Chain.start fun _ => rfl)
  | call id guarded => exact links_call m.session id guarded m.frames
  | preventDefault id | stopPropagation id => exact m.session.links_modify id _ fun _ => rfl
  | navigate id path =>
    simp only [act, Session.navigate]
    split
    · rfl
    · exact m.session.links_modify id (Chain.navigate path) fun _ => rfl

/-- Handlers change no link. -/
theorem links_step (m : Machine) : m.step.session.links = m.session.links := by
  have of_chains {s t : Session} (same : s.chains = t.chains) : s.links = t.links := by
    rw [Session.links, Session.links, same]
  have does := m.step_does
  cases next : m.nextAct? with
  | none =>
    rw [next] at does
    exact of_chains does
  | some a =>
    rw [next] at does
    refine (of_chains does.1).trans (links_act ⟨m.session, [], none⟩ fun _ _ _ created => ?_)
    exact m.nextAct?_ne_create _ _ _ (next.trans (congrArg some created))

theorem links_course {limit : Nat} {m m' : Machine} (h : m' ∈ m.course limit) :
    m'.session.links = m.session.links := by
  induction limit generalizing m with
  | zero => cases h
  | succ limit ih =>
    simp only [course, collect] at h
    split at h
    · cases h
    · obtain rfl | later := List.mem_cons.1 h
      · rfl
      · exact (ih later).trans m.links_step

theorem links_run {limit : Nat} {m m' : Machine} (h : m.run limit = some m') :
    m'.session.links = m.session.links :=
  run_induction (P := fun m => m'.session.links = m.session.links) h (fun _ => rfl) fun m _ later =>
    later.trans m.links_step

end Machine

theorem Session.links_running {limit : Nat} {start : Session → Machine} {s t : Session}
    {result : Except RouterError Unit} (h : (running limit start).start s = some (result, t)) :
    t.links = (start s).session.links := by
  obtain ⟨m, finished, rfl⟩ := exists_run_of_running h
  exact Machine.links_run finished

end Routing
