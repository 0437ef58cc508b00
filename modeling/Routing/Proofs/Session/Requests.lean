import Routing.Proofs.Session.Aging

/-!
# Requests for a redirect

A chain may be asked for a redirect again and again. Only the latest request stands.

* `Session.redirect?`: the request that stands
* `Machine.requested`: the requests in the course of a run
* `Session.redirect?_running`: the latest of them stands when the run has ended
-/
namespace Routing

/-- The path that the router is asked to go to, and the chain that asks. -/
def ChainAct.request? : ChainAct → Option (ChainId × String)
  | .navigate id path => some (id, path)
  | _ => none

/-- What one chain asks for. -/
def requestsOf (id : ChainId) (requests : List (ChainId × String)) : List String :=
  requests.filterMap fun q => if q.1 = id then some q.2 else none

/-- The latest request stands, or the one that stood before if there is none. -/
def latest (id : ChainId) (requests : List (ChainId × String)) (before : Option String) :
    Option String :=
  (requestsOf id requests).getLast?.or before

theorem latest_append (id : ChainId) (a b : List (ChainId × String)) (before : Option String) :
    latest id (a ++ b) before = latest id b (latest id a before) := by
  simp only [latest, requestsOf, List.filterMap_append, List.getLast?_append, Option.or_assoc]

namespace Session

def redirect? (s : Session) (id : ChainId) : Option String :=
  (s.chain? id).bind (·.redirect)

theorem redirect?_congr {s t : Session} (same : s.chains = t.chains) (id : ChainId) :
    s.redirect? id = t.redirect? id := by
  rw [redirect?, redirect?, chain?, chain?, same]

theorem redirect?_modify (s : Session) (id i : ChainId) {f : Chain → Chain}
    (same : ∀ c, (f c).redirect = c.redirect) : (s.modify id f).redirect? i = s.redirect? i := by
  rw [redirect?, redirect?, chain?_modify]
  split
  · cases s.chain? i with
    | none => rfl
    | some c => exact same c
  · rfl

theorem redirect?_enqueue (s : Session) (id i : ChainId) (batch : List Handler) :
    (s.enqueue id batch).redirect? i = s.redirect? i := by
  unfold enqueue
  split
  · rfl
  · exact s.redirect?_modify id i (f := (·.enqueue batch)) fun _ => rfl

theorem redirect?_link (s : Session) (id i : ChainId) (before : Option ChainId) :
    (s.link id before).redirect? i = s.redirect? i := by
  have linked (s : Session) :
      (s.modify id fun c => { c with previous := before }).redirect? i = s.redirect? i :=
    s.redirect?_modify id i fun _ => rfl
  cases before with
  | none => exact linked s
  | some b =>
    exact (linked _).trans
      (s.redirect?_modify b i (f := fun c => { c with previous := none }) fun _ => rfl)

end Session

namespace Machine

theorem redirect?_call (s : Session) (id i : ChainId) (guarded : Bool) (below : List Frame) :
    (call s id guarded below).session.redirect? i = s.redirect? i := by
  rw [call_eq]
  split
  · exact s.redirect?_modify id i fun _ => rfl
  · rfl

theorem redirect?_act (m : Machine) (a : ChainAct) {i : ChainId} {c : Chain}
    (hc : m.session.chain? i = some c) :
    (m.act a).session.redirect? i = latest i a.request?.toList (m.session.redirect? i) := by
  cases a with
  | create value context globals =>
    simp only [act, Session.redirect?, Session.chain?_create,
      if_neg (Nat.ne_of_lt (Session.lt_of_chain? hc))]
    rfl
  | enqueue id batch => exact m.session.redirect?_enqueue id i batch
  | enqueueAt id index batch =>
    simp only [act, Session.enqueueAt]
    split
    · rfl
    · exact m.session.redirect?_modify id i (f := (·.enqueueAt index batch)) fun _ => rfl
  | run id guarded =>
    exact (redirect?_call _ id i guarded m.frames).trans
      (m.session.redirect?_modify id i fun _ => rfl)
  | call id guarded => exact redirect?_call m.session id i guarded m.frames
  | preventDefault id | stopPropagation id => exact m.session.redirect?_modify id i fun _ => rfl
  | navigate id path =>
    have asked (s : Session) (hs : s.chain? i = some c) :
        (s.modify id (Chain.navigate path)).redirect? i =
          latest i (ChainAct.navigate id path).request?.toList (s.redirect? i) := by
      rw [Session.redirect?, Session.chain?_modify, Session.redirect?, hs]
      by_cases here : id = i <;> simp [latest, requestsOf, ChainAct.request?, Chain.navigate, here]
    simp only [act, Session.navigate]
    split
    · next missing =>
      have other : id ≠ i := fun here => by rw [here, hc] at missing; cases missing
      simp [latest, requestsOf, ChainAct.request?, other]
    · exact asked m.session hc

/-- What the next step asks for. -/
def request? (m : Machine) : Option (ChainId × String) :=
  m.nextAct?.bind ChainAct.request?

/-- What is asked for in so many steps. -/
def requested (limit : Nat) (m : Machine) : List (ChainId × String) :=
  m.collect request? limit

theorem redirect?_step (m : Machine) {i : ChainId} {c : Chain} (hc : m.session.chain? i = some c) :
    m.step.session.redirect? i = latest i m.request?.toList (m.session.redirect? i) := by
  have does := m.step_does
  unfold request?
  cases next : m.nextAct? with
  | none =>
    rw [next] at does
    exact Session.redirect?_congr does i
  | some a =>
    rw [next] at does
    exact (Session.redirect?_congr does.1 i).trans (redirect?_act ⟨m.session, [], none⟩ a hc)

theorem redirect?_run {limit : Nat} {m m' : Machine} (h : m.run limit = some m') {i : ChainId}
    {c : Chain} (hc : m.session.chain? i = some c) :
    m'.session.redirect? i = latest i (m.requested limit) (m.session.redirect? i) := by
  induction limit generalizing m c with
  | zero =>
    simp only [run] at h
    split at h
    · obtain rfl := Option.some.inj h
      rfl
    · cases h
  | succ limit ih =>
    simp only [run] at h
    simp only [requested, collect]
    split at h
    · next done =>
      obtain rfl := Option.some.inj h
      rw [if_pos done]
      rfl
    · next busy =>
      obtain ⟨d, hd, -⟩ := m.step_aged.grown i c hc
      rw [if_neg busy, latest_append, ← redirect?_step m hc]
      exact ih h hd

end Machine

/-- When what was started has ended, the latest request stands. -/
theorem Session.redirect?_running {limit : Nat} {start : Session → Machine} {s t : Session}
    {result : Except RouterError Unit} (h : (running limit start).start s = some (result, t))
    {i : ChainId} {c : Chain} (hc : (start s).session.chain? i = some c) :
    t.redirect? i = latest i ((start s).requested limit) ((start s).session.redirect? i) := by
  obtain ⟨m, finished, rfl⟩ := exists_run_of_running h
  exact Machine.redirect?_run finished hc

end Routing
