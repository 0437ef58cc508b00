import Routing.Proofs.Session.Deeds

/-!
# One continuation for one run

However handlers deal with their continuations, a chain that is run once has one that nobody has called yet, or
none.

* `Machine.live`: the continuations of a chain that nobody has called yet
* `Machine.live_deed`, `Machine.live_deeds`: only a run of the chain adds to them
* `Machine.continuation_of_called`: who calls a handler has one of them
* `Machine.OneLive`: what follows where there is one at most
-/
namespace Routing.Machine

/-! ## Slots -/

theorem lookup_filter_of_ne {ps : List (String × ChainId)} {slot other : String} (ne : slot ≠ other) :
    (ps.filter (·.1 != other)).lookup slot = ps.lookup slot := by
  induction ps with
  | nil => rfl
  | cons p ps ih =>
    obtain ⟨name, i⟩ := p
    by_cases here : name = other
    · subst here
      have apart : (slot == name) = false := by simpa using ne
      simp [ih, List.lookup_cons, apart]
    · simp [here, ih, List.lookup_cons]

/-- What a slot holds is one of what all slots hold. -/
theorem countP_filter_of_lookup {ps : List (String × ChainId)} {slot : String} {i : ChainId}
    (found : ps.lookup slot = some i) :
    (ps.filter (·.1 != slot)).countP (·.2 == i) + 1 ≤ ps.countP (·.2 == i) := by
  induction ps with
  | nil => cases found
  | cons p ps ih =>
    obtain ⟨name, j⟩ := p
    by_cases here : name = slot
    · subst here
      obtain rfl : j = i := by simpa [List.lookup_cons] using found
      have less := (List.filter_sublist (p := (·.1 != name)) (l := ps)).countP_le (p := (·.2 == j))
      simpa [List.countP_cons] using less
    · have later : ps.lookup slot = some i := by
        simpa [List.lookup_cons, show (slot == name) = false by simpa using Ne.symm here] using found
      have ih := ih later
      simp only [List.filter_cons, bne_iff_ne, ne_eq, here, not_false_eq_true, if_true,
        List.countP_cons]
      omega

theorem countP_filter_le (ps : List (String × ChainId)) (slot : String) (id : ChainId) :
    (ps.filter (·.1 != slot)).countP (·.2 == id) ≤ ps.countP (·.2 == id) :=
  List.filter_sublist.countP_le

theorem countP_filter_of_parked {ps : List (String × ChainId)} {slot : String} {i : ChainId}
    (found : ps.lookup slot = some i) (id : ChainId) :
    (ps.filter (·.1 != slot)).countP (·.2 == id) + own i id ≤ ps.countP (·.2 == id) := by
  unfold own
  split
  · next here => exact here ▸ countP_filter_of_lookup found
  · exact countP_filter_le ps slot id

/-! ## How many there are -/

/-- How many slots have a continuation of the chain. -/
def kept (id : ChainId) (s : Session) : Nat :=
  s.parked.countP (·.2 == id)

/-- How many continuations of the chain there are that nobody has called yet: those that handlers under way
have, and those in slots. -/
def live (id : ChainId) (m : Machine) : Nat :=
  held id m.frames + kept id m.session

/-- Whether a deed runs the chain. -/
def Deed.starts (id : ChainId) (m : Machine) (d : Deed) : Nat :=
  match d.act? m with
  | some (.run i _) => own i id
  | _ => 0

/-- How often the chain is run by deed upon deed. -/
def starts (id : ChainId) (m : Machine) : List Deed → Nat
  | [] => 0
  | d :: ds => d.starts id m + (m.deed d).starts id ds

theorem starts_append (id : ChainId) (m : Machine) (ds rest : List Deed) :
    m.starts id (ds ++ rest) = m.starts id ds + (m.deeds ds).starts id rest := by
  induction ds generalizing m with
  | nil => simp [starts, deeds]
  | cons d ds ih => simp only [List.cons_append, starts, deeds, ih, Nat.add_assoc]

theorem kept_parked {s s' : Session} {slot : String} {i : ChainId}
    (parked : s'.parked = (slot, i) :: s.parked.filter (·.1 != slot)) (id : ChainId) :
    kept id s' = (s.parked.filter (·.1 != slot)).countP (·.2 == id) + own i id := by
  rw [kept, parked, List.countP_cons]
  simp [own]

/-- Only a run of the chain adds to its continuations. -/
theorem live_deed (id : ChainId) (m : Machine) (d : Deed) :
    (m.deed d).live id ≤ m.live id + d.starts id m := by
  unfold live
  cases m.deals_deed d with
  | ends held parked | calls _ _ _ _ held parked =>
    have := held id
    simp only [kept, parked]
    omega
  | starts i guarded act held parked =>
    have := held id
    simp only [kept, parked, Deed.starts, act]
    omega
  | resumes i slot _ _ had held parked =>
    have := held id
    have := countP_filter_of_parked had id
    simp only [kept, parked]
    omega
  | parks i slot held parked =>
    have := held id
    have := countP_filter_le m.session.parked slot id
    rw [kept_parked parked, kept]
    omega
  | forgets slot held parked =>
    have := held id
    have := countP_filter_le m.session.parked slot id
    simp only [kept, parked]
    omega

theorem live_deeds (id : ChainId) (m : Machine) (ds : List Deed) :
    (m.deeds ds).live id ≤ m.live id + m.starts id ds := by
  induction ds generalizing m with
  | nil => exact Nat.le_refl _
  | cons d ds ih =>
    have first := live_deed id m d
    have later := ih (m.deed d)
    rw [deeds, starts]
    omega

/-! ## Who calls -/

theorem eq_of_upNext {s : Session} {i id : ChainId} {h : Handler} (up : s.upNext i = some (id, h)) :
    i = id := by
  obtain ⟨h', -, same⟩ := Option.map_eq_some_iff.1 up
  exact (Prod.mk.inj same).1

/-- A handler is called because its chain is run, or because a continuation of the chain is called: that of the
handler on top, or one in a slot. -/
theorem continuation_of_called {m : Machine} {d : Deed} {id : ChainId} {h : Handler}
    (called : d.called? m = some (id, h)) (again : d.starts id m = 0) :
    0 < held id m.frames ∨ ∃ slot, d.Resumes m slot ∧ m.session.parked.lookup slot = some id := by
  cases m.deals_deed d with
  | ends _ _ quiet | parks _ _ _ _ quiet | forgets _ _ _ quiet => cases quiet.symm.trans called
  | starts i guarded act =>
    simp only [Deed.called?, act] at called
    obtain rfl := eq_of_upNext called
    simp [Deed.starts, act, own] at again
  | calls i guarded act had =>
    simp only [Deed.called?, act] at called
    obtain rfl := eq_of_upNext called
    exact .inl had
  | resumes i slot act resumes had =>
    simp only [Deed.called?, act] at called
    obtain rfl := eq_of_upNext called
    exact .inr ⟨slot, resumes, had⟩

theorem live_pos_of_called {m : Machine} {d : Deed} {id : ChainId} {h : Handler}
    (called : d.called? m = some (id, h)) (again : d.starts id m = 0) : 0 < m.live id := by
  unfold live kept
  obtain had | ⟨slot, -, had⟩ := continuation_of_called called again
  · omega
  · have := countP_filter_of_lookup had
    omega

/-- Two slots have two continuations. -/
theorem eq_of_kept_le_one {ps : List (String × ChainId)} {slot other : String} {id : ChainId}
    (one : ps.countP (·.2 == id) ≤ 1) (found : ps.lookup slot = some id)
    (also : ps.lookup other = some id) : other = slot := by
  by_contra apart
  have less := countP_filter_of_lookup also
  have still : (ps.filter (·.1 != other)).lookup slot = some id :=
    (lookup_filter_of_ne (Ne.symm apart)).trans found
  have more := countP_filter_of_lookup still
  omega

/-- While a slot has the only continuation, that is the one which is called. -/
theorem resumes_of_called {m : Machine} {d : Deed} {id : ChainId} {h : Handler} {slot : String}
    (one : m.live id ≤ 1) (parked : m.session.parked.lookup slot = some id)
    (called : d.called? m = some (id, h)) (again : d.starts id m = 0) : d.Resumes m slot := by
  unfold live kept at one
  obtain had | ⟨other, resumes, had⟩ := continuation_of_called called again
  · have := countP_filter_of_lookup parked
    omega
  · obtain rfl := eq_of_kept_le_one (by omega) parked had
    exact resumes

/-- A continuation stays in its slot until it is called or dropped. -/
theorem parked_deed {m : Machine} {d : Deed} {id : ChainId} {slot : String}
    (one : m.live id ≤ 1) (parked : m.session.parked.lookup slot = some id)
    (unused : ¬ d.Resumes m slot) :
    (m.deed d).session.parked.lookup slot = some id ∨ (m.deed d).live id = 0 := by
  have bound := live_deed id m d
  have there := countP_filter_of_lookup parked
  unfold live kept at one
  cases m.deals_deed d with
  | ends _ same | starts _ _ _ _ same | calls _ _ _ _ _ same => exact .inl (same ▸ parked)
  | resumes i other act resumes had held same =>
    have apart : slot ≠ other := by
      rintro rfl
      exact unused resumes
    rw [same, lookup_filter_of_ne apart]
    exact .inl parked
  | parks i other held same =>
    have := held id
    by_cases here : slot = other
    · subst here
      refine .inr ?_
      rw [live, kept_parked same]
      omega
    · have apart : (slot == other) = false := by simpa using here
      rw [same, List.lookup_cons, apart]
      exact .inl ((lookup_filter_of_ne here).trans parked)
  | forgets other held same =>
    have := held id
    by_cases here : slot = other
    · subst here
      refine .inr ?_
      rw [live, kept, same]
      omega
    · rw [same, lookup_filter_of_ne here]
      exact .inl parked

/-! ## Queues -/

/-- How many handlers wait in the queue of a chain. -/
def pending (id : ChainId) (m : Machine) : Nat :=
  ((m.session.chain? id).map Chain.pending).getD 0

theorem pending_eq (id : ChainId) (m : Machine) :
    m.pending id = (m.session.queues.queue id).length := by
  rw [pending, Queues.queue, Session.getElem?_queues]
  cases m.session.chain? id <;> rfl

/-- Unless one of its handlers is called, no fewer wait. -/
theorem pending_deed {m : Machine} {d : Deed} {id : ChainId} (idle : ∀ h, d.called? m ≠ some (id, h)) :
    m.pending id ≤ (m.deed d).pending id := by
  rw [pending_eq, pending_eq, queues_deed]
  cases happens : (d.act? m).bind m.session.queues.happening? with
  | none => exact Nat.le_refl _
  | some e =>
    obtain ⟨a, act, happened⟩ := Option.bind_eq_some_iff.1 happens
    have fits := Queues.fits_of_happening? happened
    rw [Option.elim_some, Happening.queue_onQueues fits]
    cases e with
    | created i context globals | appended i batch =>
      rw [Happening.onQueue]
      split <;> simp
    | inserted i index batch =>
      rw [Happening.onQueue]
      split
      · simp only [List.length_append, List.length_take, List.length_drop]
        omega
      · exact Nat.le_refl _
    | called i h =>
      have other : i ≠ id := by
        rintro rfl
        have up : m.session.upNext i = some (i, h) := by
          rw [Session.upNext, ← Session.head?_queues, show _ = some h from fits]
          rfl
        obtain ⟨guarded, rfl | rfl⟩ := Queues.exists_call_of_happening? happened <;>
          exact idle h (by rw [Deed.called?, act]; exact up)
      refine Nat.le_of_eq ?_
      rw [Happening.onQueue, if_neg other]

/-! ## Deed upon deed -/

/-- The handlers that are called. -/
def called (m : Machine) : List Deed → List (ChainId × Handler)
  | [] => []
  | d :: ds => (d.called? m).toList ++ (m.deed d).called ds

/-- Someone calls the continuation in a slot. -/
def Uses (slot : String) (m : Machine) : List Deed → Prop
  | [] => False
  | d :: ds => d.Resumes m slot ∨ (m.deed d).Uses slot ds

/-- Where no continuation is left, no handler is called any more, and no fewer wait. -/
theorem idle_of_live_eq_zero {m : Machine} {id : ChainId} {ds : List Deed} (none_ : m.live id = 0)
    (again : m.starts id ds = 0) :
    (∀ h, (id, h) ∉ m.called ds) ∧ m.pending id ≤ (m.deeds ds).pending id := by
  induction ds generalizing m with
  | nil => exact ⟨nofun, Nat.le_refl _⟩
  | cons d ds ih =>
    obtain ⟨here, later⟩ := Nat.add_eq_zero_iff.1 again
    have idle (h : Handler) : d.called? m ≠ some (id, h) := fun called =>
      absurd none_ (Nat.pos_iff_ne_zero.1 (live_pos_of_called called here))
    have left := live_deed id m d
    obtain ⟨quiet, more⟩ := ih (m := m.deed d) (by omega) later
    refine ⟨fun h hh => ?_, Nat.le_trans (pending_deed idle) more⟩
    obtain now | later := List.mem_append.1 hh
    · exact idle h (Option.mem_toList.1 now)
    · exact quiet h later

/-- As long as nobody calls the only continuation, which a slot has, it stays there or is dropped, and no handler is
called. -/
theorem idle_of_parked {m : Machine} {id : ChainId} {slot : String} {ds : List Deed}
    (one : m.live id ≤ 1) (parked : m.session.parked.lookup slot = some id)
    (unused : ¬ m.Uses slot ds) (again : m.starts id ds = 0) :
    (∀ h, (id, h) ∉ m.called ds) ∧ ((m.deeds ds).session.parked.lookup slot = some id ∨
      (m.deeds ds).live id = 0) := by
  induction ds generalizing m with
  | nil => exact ⟨nofun, .inl parked⟩
  | cons d ds ih =>
    obtain ⟨here, later⟩ := Nat.add_eq_zero_iff.1 again
    obtain ⟨notNow, notThen⟩ := not_or.1 unused
    have idle (h : Handler) : d.called? m ≠ some (id, h) := fun called =>
      notNow (resumes_of_called one parked called here)
    have left := live_deed id m d
    have rest : (∀ h, (id, h) ∉ (m.deed d).called ds) ∧
        (((m.deed d).deeds ds).session.parked.lookup slot = some id ∨
          ((m.deed d).deeds ds).live id = 0) := by
      obtain stays | dropped := parked_deed one parked notNow
      · exact ih (by omega) stays notThen later
      · have still := live_deeds id (m.deed d) ds
        exact ⟨(idle_of_live_eq_zero dropped later).1, .inr (by omega)⟩
    refine ⟨fun h hh => ?_, rest.2⟩
    obtain now | later := List.mem_append.1 hh
    · exact idle h (Option.mem_toList.1 now)
    · exact rest.1 h later

/-- What is to be said of the continuations of a chain at a moment of its life, whatever is done then. -/
structure OneLive (id : ChainId) (m : Machine) (rest : List Deed) : Prop where
  live : m.live id ≤ 1
  /-- While a continuation is in a slot and is not called, no handler of the chain is called; the next one is called
  because someone calls this very continuation. -/
  parked : ∀ slot, m.session.parked.lookup slot = some id → ∀ front d back, rest = front ++ d :: back →
    ¬ m.Uses slot front → (∀ h, (id, h) ∉ m.called front) ∧
      ∀ h, d.called? (m.deeds front) = some (id, h) → d.Resumes (m.deeds front) slot
  /-- Once the chain was run and no continuation is left, no handler of the chain is ever called, and no fewer
  wait. -/
  dropped : m.live id = 0 → m.starts id rest = 0 → (∀ h, (id, h) ∉ m.called rest) ∧
    ∀ front mid back, rest = front ++ mid ++ back →
      (m.deeds front).pending id ≤ (m.deeds (front ++ mid)).pending id

theorem OneLive.of_once {id : ChainId} {m : Machine} {rest : List Deed}
    (once : m.live id + m.starts id rest ≤ 1) : OneLive id m rest where
  live := by omega
  parked slot there front d back split unused := by
    subst split
    have kept : 0 < m.live id := by
      have := countP_filter_of_lookup there
      unfold Machine.live kept
      omega
    rw [starts_append, starts] at once
    obtain ⟨quiet, still⟩ := idle_of_parked (by omega) there unused (by omega)
    have left := live_deeds id m front
    refine ⟨quiet, fun h called => ?_⟩
    obtain stays | dropped := still
    · exact resumes_of_called (by omega) stays called (by omega)
    · have := live_pos_of_called called (by omega)
      omega
  dropped none_ again := by
    refine ⟨(idle_of_live_eq_zero none_ again).1, ?_⟩
    rintro front mid back rfl
    rw [starts_append, starts_append] at again
    have left := live_deeds id m front
    rw [deeds_append]
    exact (idle_of_live_eq_zero (by omega) (by omega)).2

end Routing.Machine
