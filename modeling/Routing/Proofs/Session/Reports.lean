import Routing.Proofs.Session.Aging

/-!
# What is reported

A log only grows. Handlers come to be reported on in many ways, but not one of their records is of a failure:
those are for the router to make.

* `Log.failures`: the records of failures
* `Session.Reports`: a session at a later time, and the failures that were reported in between
* `Machine.reports_step`, `Session.reports_running`: handlers report no failure
-/
namespace Routing

def Log.failures (records : List Log.Record) : List Log.Record :=
  records.filter (·.level = .error)

namespace Session

/-- The log of a session at a later time, which has these records of failures more. -/
def Reports (s t : Session) (failures : List Log.Record) : Prop :=
  ∃ records, t.log = s.log ++ records ∧ Log.failures records = failures

theorem Reports.of_log {s t : Session} (same : t.log = s.log) : s.Reports t [] :=
  ⟨[], by rw [same, List.append_nil], rfl⟩

theorem Reports.refl (s : Session) : s.Reports s [] :=
  .of_log rfl

theorem Reports.trans {s t u : Session} {a b : List Log.Record} (h : s.Reports t a) (k : t.Reports u b) :
    s.Reports u (a ++ b) := by
  obtain ⟨first, early, rfl⟩ := h
  obtain ⟨second, late, rfl⟩ := k
  refine ⟨first ++ second, ?_, List.filter_append ..⟩
  rw [late, early, List.append_assoc]

/-- Nothing was to be reported before. -/
theorem Reports.after {s t u : Session} {b : List Log.Record} (h : s.Reports t []) (k : t.Reports u b) :
    s.Reports u b :=
  h.trans k

theorem reports_report (s : Session) (records : List Log.Record) :
    s.Reports (s.report records) (Log.failures records) :=
  ⟨records, rfl, rfl⟩

/-- Whatever was done besides, the records are all that was added to the log. -/
theorem reports_of_quiet {s t : Session} (records : List Log.Record) (log : t.log = s.log ++ records)
    (quiet : ∀ record ∈ records, record.level ≠ .error) : s.Reports t [] :=
  ⟨records, log, List.filter_eq_nil_iff.2 fun record known => by simpa using quiet record known⟩

theorem reports_enqueue (s : Session) (id : ChainId) (batch : List Handler) :
    s.Reports (s.enqueue id batch) [] := by
  unfold enqueue
  split
  · exact .refl s
  · next c _ => exact reports_of_quiet [c.enqueueLog batch] rfl (by simp [Chain.enqueueLog, Log.trace])

theorem reports_enqueueAt (s : Session) (id : ChainId) (index : Nat) (batch : List Handler) :
    s.Reports (s.enqueueAt id index batch) [] := by
  unfold enqueueAt
  split
  · exact .refl s
  · next c _ =>
    exact reports_of_quiet [c.enqueueAtLog index batch] rfl (by simp [Chain.enqueueAtLog, Log.trace])

theorem reports_navigate (s : Session) (id : ChainId) (path : String) :
    s.Reports (s.navigate id path) [] := by
  unfold navigate
  split
  · exact .refl s
  · next c _ => exact reports_of_quiet [c.navigateLog path] rfl (by simp [Chain.navigateLog, Log.trace])

theorem reports_link (s : Session) (id : ChainId) (before : Option ChainId) :
    s.Reports (s.link id before) [] := by
  cases before <;> exact .of_log rfl

theorem reports_carryOut (s : Session) (id : ChainId) (c : Chain) (scene : Scene) (a : Action) :
    s.Reports (s.carryOut id c scene a) [] := by
  cases a with
  | enqueue batch => exact s.reports_enqueue id batch
  | enqueueAt index batch => exact s.reports_enqueueAt id index batch
  | navigate path => exact s.reports_navigate id path
  | observeChain =>
    simp only [carryOut]
    cases s.chainReport? id <;> exact .of_log rfl
  | _ => exact .of_log rfl

end Session

namespace Machine

theorem reports_call (s : Session) (id : ChainId) (guarded : Bool) (below : List Frame) :
    s.Reports (call s id guarded below).session [] := by
  rw [call_eq]
  split
  · exact .of_log rfl
  · refine Session.reports_of_quiet _ rfl fun record known => ?_
    obtain ⟨c, -, rfl⟩ := List.mem_map.1 known
    simp [Chain.exhaustedLog, Log.trace]

theorem reports_take (s : Session) (f : Frame) (below : List Frame) (a : Action) :
    s.Reports (take s f below a).session [] := by
  cases a with
  | next | nextCaught =>
    simp only [take]
    split
    · exact .refl s
    · exact reports_call s ..
  | park slot =>
    simp only [take]
    split <;> exact .of_log rfl
  | resume slot =>
    simp only [take]
    split
    · exact .refl s
    · next id t taken =>
      obtain ⟨_, -, same⟩ := Option.map_eq_some_iff.1 taken
      obtain ⟨-, rfl⟩ := Prod.mk.inj same
      exact reports_call { s with parked := s.parked.filter (·.1 != slot) } ..
  | run =>
    simp only [take]
    split
    · exact .refl s
    · next id _ _ => exact reports_call (s.modify id Chain.start) ..
  | onPrevious body | onParent body =>
    simp only [take]
    split
    · exact .refl s
    · split <;> exact .refl s
  | whenParam | whenRoute | onKept =>
    simp only [take]
    split <;> exact .refl s
  | note | fail | failWith | recover | consult | times | observeRequest | perform => exact .of_log rfl
  | _ =>
    simp only [take]
    split
    · exact .refl s
    · exact s.reports_carryOut ..

theorem reports_leave (s : Session) (f : Frame) (below : List Frame) (failure : Option RouterError) :
    s.Reports (leave s f below failure).session [] := by
  unfold leave
  split <;> exact .of_log rfl

theorem reports_unwind (s : Session) (f : Frame) (below : List Frame) (e : RouterError) :
    s.Reports (unwind s f below e).session [] := by
  obtain ⟨todo, takesOver⟩ | ends := unwind_cases s f below e
  · rw [takesOver]
    exact .refl s
  · rw [ends]
    exact reports_leave ..

/-- Handlers report no failure, not even their own. -/
theorem reports_step (m : Machine) : m.session.Reports m.step.session [] := by
  unfold step
  split
  · exact .refl _
  · split
    · exact reports_unwind ..
    · exact reports_leave ..
    · exact reports_take ..

theorem reports_run {limit : Nat} {m m' : Machine} (h : m.run limit = some m') :
    m.session.Reports m'.session [] :=
  run_induction h (fun _ => .refl _) fun m _ later => m.reports_step.after later

end Machine

namespace Session

theorem reports_running {limit : Nat} {start : Session → Machine} {s t : Session}
    {result : Except RouterError Unit} (first : s.Reports (start s).session [])
    (h : (running limit start).start s = some (result, t)) : s.Reports t [] := by
  obtain ⟨m, finished, rfl⟩ := exists_run_of_running h
  exact first.after (Machine.reports_run finished)

theorem reports_run {limit : Nat} {id : ChainId} {s t : Session} {result : Except RouterError Unit}
    (h : (run limit id).start s = some (result, t)) : s.Reports t [] :=
  have called := Machine.reports_call (s.modify id Chain.start) id false []
  reports_running (Reports.after (t := s.modify id Chain.start) (.of_log rfl) called) h

theorem reports_act {limit : Nat} {chain : Option ChainId} {actions : List Action} {s t : Session}
    {result : Except RouterError Unit} (h : (act limit chain actions).start s = some (result, t)) :
    s.Reports t [] :=
  reports_running (.refl s) h

end Session

end Routing
