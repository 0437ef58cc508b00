import Mathlib.Logic.Relation
import Routing.Proofs.Regex.Courses

/-!
# The rounds of a loop

A loop starts a round once at each place. Wherever any number of rounds leads, some walker comes.

* `Rounds.Good`: a place that is an outcome and where a round has started
* `rounds_explore`: where a round has started, nothing that a round leads to is missed
* `Course.onceOrMore`: the course of a loop
-/
namespace Routing.Regex

/-- One or more steps of a relation. -/
def Plus (R : Nat → Nat → Prop) (i j : Nat) : Prop :=
  ∃ n, Times R (n + 1) i j

/-- Any number of steps of a relation. -/
def Star (R : Nat → Nat → Prop) (i j : Nat) : Prop :=
  ∃ n, Times R n i j

section

variable {R : Nat → Nat → Prop} {i j k : Nat}

theorem Plus.of_star (first : R i k) (rest : Star R k j) : Plus R i j := by
  obtain ⟨n, times⟩ := rest
  exact ⟨n, k, first, times⟩

theorem Plus.trans (h : Plus R i k) (h' : Star R k j) : Plus R i j := by
  obtain ⟨m, l, first, before⟩ := h
  obtain ⟨n, after⟩ := h'
  exact ⟨m + n, l, first, before.add after⟩

theorem Plus.more (h : Plus R i k) (last : R k j) : Plus R i j :=
  h.trans ⟨1, times_one.2 last⟩

theorem Plus.star (h : Plus R i j) : Star R i j := by
  obtain ⟨n, times⟩ := h
  exact ⟨n + 1, times⟩

theorem Star.trans (h : Star R i k) (h' : Star R k j) : Star R i j := by
  obtain ⟨m, before⟩ := h
  obtain ⟨n, after⟩ := h'
  exact ⟨m + n, before.add after⟩

end

namespace Rounds

/-- Some outcome is at the place. -/
def Noted (r : Rounds) (j : Nat) : Prop :=
  ∃ u ∈ r.outcomes, u.index = j

/-- The place is an outcome, and a round has started there. -/
def Good (r : Rounds) (j : Nat) : Prop :=
  r.Noted j ∧ r.started.contains j = true

/-- Nothing is taken back. -/
structure Grows (r r' : Rounds) : Prop where
  started : ∀ i, r.started.contains i = true → r'.started.contains i = true
  outcomes : ∀ u ∈ r.outcomes, u ∈ r'.outcomes

theorem Grows.refl (r : Rounds) : Grows r r :=
  ⟨fun _ => id, fun _ => id⟩

theorem Grows.trans {r r' r'' : Rounds} (h : Grows r r') (h' : Grows r' r'') : Grows r r'' :=
  ⟨fun i hi => h'.started i (h.started i hi), fun u hu => h'.outcomes u (h.outcomes u hu)⟩

theorem Grows.good {r r' : Rounds} (h : Grows r r') {j : Nat} (good : r.Good j) : r'.Good j := by
  obtain ⟨⟨u, hu, at_j⟩, started⟩ := good
  exact ⟨⟨u, h.outcomes u hu, at_j⟩, h.started j started⟩

theorem grows_note (r : Rounds) (u : Walker) : Grows r (r.note u) :=
  ⟨fun _ => id, fun _ => List.mem_cons_of_mem u⟩

theorem grows_start (r : Rounds) (i : Nat) : Grows r { r with started := r.started.insert i } :=
  ⟨fun j hj => by simp [hj], fun _ => id⟩

/-- Rounds that are not done afterwards were not done before. -/
theorem of_unlessDone {wanted : Places} {more : Rounds → Rounds} {r : Rounds}
    (undone : (unlessDone wanted more r).done wanted = false) :
    r.done wanted = false ∧ unlessDone wanted more r = more r := by
  unfold unlessDone at undone ⊢
  split at undone
  · next finished => exact absurd finished (by simp [undone])
  · next open_ => exact ⟨by simpa using open_, if_neg open_⟩

end Rounds

section

variable {text : List Char} {wanted : Places} {enter body leave : Walker → List Walker} {greedy : Bool}
  {R : Nat → Nat → Prop} {T : Spot → Nat → Nat → Prop} {own : Spot → Prop}

/-- One round: in, through the body, and out. -/
def oneRound (enter body leave : Walker → List Walker) (w : Walker) : List Walker :=
  ((enter w).flatMap body).flatMap leave

/-- What the rounds do with one outcome of a round: they go on from it and note it. -/
def goOn (wanted : Places) (enter body leave : Walker → List Walker) (greedy : Bool) (fuel : Nat)
    (r : Rounds) (u : Walker) : Rounds :=
  let again := Rounds.unlessDone wanted (rounds wanted enter body leave greedy fuel u)
  let stop := Rounds.unlessDone wanted (·.note u)
  if greedy then stop (again r) else again (stop r)

theorem goOn_true {fuel : Nat} {r : Rounds} {u : Walker} :
    goOn wanted enter body leave true fuel r u =
      Rounds.unlessDone wanted (·.note u)
        (Rounds.unlessDone wanted (rounds wanted enter body leave true fuel u) r) :=
  rfl

theorem goOn_false {fuel : Nat} {r : Rounds} {u : Walker} :
    goOn wanted enter body leave false fuel r u =
      Rounds.unlessDone wanted (rounds wanted enter body leave false fuel u)
        (Rounds.unlessDone wanted (·.note u) r) :=
  rfl

theorem rounds_succ (fuel : Nat) (w : Walker) (r : Rounds) :
    rounds wanted enter body leave greedy (fuel + 1) w r =
      if r.started.contains w.index then r
      else (oneRound enter body leave w).foldl (goOn wanted enter body leave greedy fuel)
        { r with started := r.started.insert w.index } :=
  rfl

/-! ## Exploring -/

/-- A round leads there from an earlier place, at which one has started since `r`. -/
def LedEarlier (R : Nat → Nat → Prop) (r r' : Rounds) (i j : Nat) : Prop :=
  ∃ p < i, R p j ∧ r'.started.contains p = true ∧ r.started.contains p = false

/-- What was started between two states was followed: to a good place, unless it was stopped, or unless
an earlier start leads there. -/
structure Explores (R stopped : Nat → Nat → Prop) (r r' : Rounds) : Prop where
  grows : r.Grows r'
  leads : ∀ i, r'.started.contains i = true → r.started.contains i = false → ∀ j, R i j →
    r'.Good j ∨ stopped i j ∨ LedEarlier R r r' i j

/-- The start that is under way. -/
def Underway (p : Nat) (i _ : Nat) : Prop :=
  i = p

theorem Explores.refl (stopped : Nat → Nat → Prop) (r : Rounds) : Explores R stopped r r where
  grows := .refl r
  leads i started fresh := absurd started (by simp [fresh])

theorem Explores.note {stopped : Nat → Nat → Prop} {r r' : Rounds} (h : Explores R stopped r r')
    (u : Walker) : Explores R stopped r (r'.note u) where
  grows := h.grows.trans (r'.grows_note u)
  leads i started fresh j leads :=
    (h.leads i started fresh j leads).imp_left (r'.grows_note u).good

/-- What a later start was stopped from, the start under way leads to. -/
theorem Explores.andThen {stopped : Nat → Nat → Prop} {r r' r'' : Rounds} {p : Nat}
    (h : Explores R (Underway p) r r') (h' : Explores R stopped r' r'')
    (begun : r'.started.contains p = true) (new : r.started.contains p = false)
    (turned : ∀ i j, stopped i j → r'.started.contains i = false → p < i ∧ R p j) :
    Explores R (Underway p) r r'' where
  grows := h.grows.trans h'.grows
  leads i started fresh j leads := by
    cases before : r'.started.contains i with
    | true =>
      rcases h.leads i before fresh j leads with good | underway | ⟨q, earlier, leads, known, newer⟩
      · exact .inl (h'.grows.good good)
      · exact .inr (.inl underway)
      · exact .inr (.inr ⟨q, earlier, leads, h'.grows.started q known, newer⟩)
    | false =>
      rcases h'.leads i started before j leads with good | halted | ⟨q, earlier, leads, known, newer⟩
      · exact .inl good
      · obtain ⟨earlier, leads⟩ := turned i j halted before
        exact .inr (.inr ⟨p, earlier, leads, h'.grows.started p begun, new⟩)
      · refine .inr (.inr ⟨q, earlier, leads, known, ?_⟩)
        rw [← Bool.not_eq_true]
        intro older
        exact absurd (h.grows.started q older) (by simp [newer])

/-- What a walker is stopped from by the joints it came with. -/
def StoppedBy (T : Spot → Nat → Nat → Prop) (w : Walker) (i j : Nat) : Prop :=
  i = w.index ∧ ∃ joint ∈ w.passed, T joint i j

/-- All that `rounds` does from a walker. -/
def RoundsExplore (text : List Char) (wanted : Places) (enter body leave : Walker → List Walker)
    (greedy : Bool) (R : Nat → Nat → Prop) (T : Spot → Nat → Nat → Prop) (fuel : Nat) : Prop :=
  ∀ (u : Walker) (r : Rounds), u.thread.In text →
    (u.thread.rest.length < fuel ∨ r.started.contains u.index = true) →
    (rounds wanted enter body leave greedy fuel u r).done wanted = false →
    Explores R (StoppedBy T u) r (rounds wanted enter body leave greedy fuel u r) ∧
      (rounds wanted enter body leave greedy fuel u r).started.contains u.index = true

theorem goOn_explore (course : Course text (oneRound enter body leave) R T own) {fuel : Nat}
    (explore : RoundsExplore text wanted enter body leave greedy R T fuel) {w u : Walker} {r s : Rounds}
    (inText : w.thread.In text) (hu : u ∈ oneRound enter body leave w)
    (enough : w.thread.rest.length < fuel + 1) (new : r.started.contains w.index = false)
    (sofar : Explores R (Underway w.index) r s) (begun : s.started.contains w.index = true)
    (undone : (goOn wanted enter body leave greedy fuel s u).done wanted = false) :
    Explores R (Underway w.index) r (goOn wanted enter body leave greedy fuel s u) ∧
      s.Grows (goOn wanted enter body leave greedy fuel s u) ∧
      (goOn wanted enter body leave greedy fuel s u).Good u.index := by
  obtain ⟨inText', leads⟩ := course.sound inText hu
  have ahead := course.forward leads
  -- going on from `u`, whatever has been noted
  have onward (b : Rounds) (sofar : Explores R (Underway w.index) r b)
      (begun : b.started.contains w.index = true)
      (undone : (rounds wanted enter body leave greedy fuel u b).done wanted = false) :
      Explores R (Underway w.index) r (rounds wanted enter body leave greedy fuel u b) ∧
        b.Grows (rounds wanted enter body leave greedy fuel u b) ∧
        (rounds wanted enter body leave greedy fuel u b).started.contains u.index = true := by
    have fuelled : u.thread.rest.length < fuel ∨ b.started.contains u.index = true := by
      by_cases still : w.index = u.index
      · exact .inr (still ▸ begun)
      · have size := inText.index_add
        have size' := inText'.index_add
        simp only [Walker.index] at still ahead
        exact .inl (by omega)
    obtain ⟨explored, started⟩ := explore u b inText' fuelled undone
    refine ⟨sofar.andThen explored begun new ?_, explored.grows, started⟩
    rintro i j ⟨rfl, joint, passed, tail⟩ fresh
    have moved : w.index ≠ u.index := by
      intro still
      rw [← still, begun] at fresh
      cases fresh
    rcases course.traced inText hu joint passed with ⟨-, still⟩ | ⟨-, further⟩
    · exact absurd still.symm moved
    · exact ⟨Nat.lt_of_le_of_ne ahead moved, further j tail⟩
  cases greedy with
  | true =>
    rw [goOn_true] at undone ⊢
    obtain ⟨undone, noted⟩ := Rounds.of_unlessDone undone
    rw [noted]
    obtain ⟨-, again⟩ := Rounds.of_unlessDone undone
    rw [again] at undone ⊢
    obtain ⟨explored, grown, started⟩ := onward s sofar begun undone
    exact ⟨explored.note u, grown.trans (Rounds.grows_note _ u), ⟨u, List.mem_cons_self, rfl⟩, started⟩
  | false =>
    rw [goOn_false] at undone ⊢
    obtain ⟨undone', again⟩ := Rounds.of_unlessDone undone
    rw [again] at undone ⊢
    obtain ⟨-, noted⟩ := Rounds.of_unlessDone undone'
    rw [noted] at undone ⊢
    obtain ⟨explored, grown, started⟩ := onward (s.note u) (sofar.note u) begun undone
    exact ⟨explored, (s.grows_note u).trans grown, ⟨u, grown.outcomes u List.mem_cons_self, rfl⟩, started⟩

/-- Rounds that are done stay as they are. -/
theorem foldl_goOn_of_done {fuel : Nat} {us : List Walker} {r : Rounds} (finished : r.done wanted = true) :
    us.foldl (goOn wanted enter body leave greedy fuel) r = r := by
  induction us with
  | nil => rfl
  | cons u us ih =>
    have same (more : Rounds → Rounds) : Rounds.unlessDone wanted more r = r := if_pos finished
    have still : goOn wanted enter body leave greedy fuel r u = r := by
      cases greedy <;> simp only [goOn_true, goOn_false, same]
    rw [List.foldl_cons, still, ih]

theorem foldl_goOn_explore (course : Course text (oneRound enter body leave) R T own) {fuel : Nat}
    (explore : RoundsExplore text wanted enter body leave greedy R T fuel) {w : Walker}
    {us : List Walker} {r s : Rounds} (inText : w.thread.In text)
    (within : ∀ u ∈ us, u ∈ oneRound enter body leave w)
    (enough : w.thread.rest.length < fuel + 1) (new : r.started.contains w.index = false)
    (sofar : Explores R (Underway w.index) r s) (begun : s.started.contains w.index = true)
    (undone : (us.foldl (goOn wanted enter body leave greedy fuel) s).done wanted = false) :
    Explores R (Underway w.index) r (us.foldl (goOn wanted enter body leave greedy fuel) s) ∧
      s.Grows (us.foldl (goOn wanted enter body leave greedy fuel) s) ∧
      ∀ u ∈ us, (us.foldl (goOn wanted enter body leave greedy fuel) s).Good u.index := by
  induction us generalizing s with
  | nil => exact ⟨sofar, .refl s, fun u hu => nomatch hu⟩
  | cons u us ih =>
    rw [List.foldl_cons] at undone ⊢
    have undone' : (goOn wanted enter body leave greedy fuel s u).done wanted = false := by
      rw [← Bool.not_eq_true]
      intro finished
      rw [foldl_goOn_of_done finished, finished] at undone
      cases undone
    obtain ⟨explored, grown, good⟩ :=
      goOn_explore course explore inText (within u List.mem_cons_self) enough new sofar begun undone'
    obtain ⟨explored, grown', later⟩ := ih (fun v hv => within v (List.mem_cons_of_mem u hv)) explored
      (grown.started _ begun) undone
    refine ⟨explored, grown.trans grown', fun v hv => ?_⟩
    rcases List.mem_cons.1 hv with rfl | hv
    · exact grown'.good good
    · exact later v hv

/-- Where a round has started, nothing that it leads to is missed. -/
theorem rounds_explore (course : Course text (oneRound enter body leave) R T own) (fuel : Nat) :
    RoundsExplore text wanted enter body leave greedy R T fuel := by
  induction fuel with
  | zero =>
    intro w r inText fuelled undone
    exact ⟨.refl _ r, fuelled.resolve_left (Nat.not_lt_zero _)⟩
  | succ fuel ih =>
    intro w r inText fuelled undone
    rw [rounds_succ] at undone ⊢
    cases new : r.started.contains w.index with
    | true =>
      rw [if_pos rfl]
      exact ⟨.refl _ r, new⟩
    | false =>
      rw [if_neg (by simp [new])] at undone
      rw [if_neg (by simp)]
      have begun : (r.started.insert w.index).contains w.index = true := by simp
      have start : Explores R (Underway w.index) r { r with started := r.started.insert w.index } := by
        refine ⟨r.grows_start w.index, fun i started fresh j _ => .inr (.inl ?_)⟩
        rw [Places.contains_insert, fresh, Bool.false_or, beq_iff_eq] at started
        exact started.symm
      have enough := fuelled.resolve_right (by simp [new])
      obtain ⟨explored, grown, good⟩ :=
        foldl_goOn_explore course ih inText (fun _ => id) enough new start begun undone
      refine ⟨⟨explored.grows, fun i started fresh j leads => ?_⟩, grown.started _ begun⟩
      rcases explored.leads i started fresh j leads with found | here | earlier
      · exact .inl found
      · -- the start under way is the one of `w`, each way of which was gone on from
        obtain rfl : i = w.index := here
        rcases course.complete inText leads with ⟨u, hu, rfl⟩ | halted
        · exact .inl (good u hu)
        · exact .inr (.inl ⟨rfl, halted⟩)
      · exact .inr (.inr earlier)

/-! ## Loops -/

/-- What a walker is stopped from at the first of several rounds. -/
def StoppedFirst (R : Nat → Nat → Prop) (T : Spot → Nat → Nat → Prop) (w : Walker) (j : Nat) : Prop :=
  ∃ joint ∈ w.passed, ∃ k, R w.index k ∧ T joint w.index k ∧ Star R k j

theorem good_or_stopped {w : Walker} {r : Rounds} (explored : Explores R (StoppedBy T w) {} r) {i : Nat}
    (started : r.started.contains i = true) {j : Nat} (leads : R i j) :
    r.Good j ∨ StoppedFirst R T w j := by
  induction i using Nat.strongRecOn with
  | ind i ih =>
    rcases explored.leads i started (Places.contains_empty i) j leads with
      good | ⟨rfl, joint, passed, tail⟩ | ⟨p, earlier, leads, started, -⟩
    · exact .inl good
    · exact .inr ⟨joint, passed, j, leads, tail, 0, rfl⟩
    · exact ih p earlier started leads

theorem noted_or_stopped {w : Walker} {r : Rounds} (explored : Explores R (StoppedBy T w) {} r)
    {n i j : Nat} (started : r.started.contains i = true) (times : Times R (n + 1) i j) :
    r.Noted j ∨ StoppedFirst R T w j := by
  induction n generalizing i with
  | zero => exact (good_or_stopped explored started (times_one.1 times)).imp_left And.left
  | succ n ih =>
    obtain ⟨k, first, rest⟩ := times
    rcases good_or_stopped explored started first with good | ⟨joint, passed, l, leads, tail, star⟩
    · exact ih good.2 rest
    · exact .inr ⟨joint, passed, l, leads, tail, star.trans ⟨n + 1, rest⟩⟩

/-- A loop leads wherever one or more rounds lead, unless a joint stops it or a wanted place was found. -/
theorem exists_mem_onceOrMore (wanted : Places) (greedy : Bool)
    (course : Course text (oneRound enter body leave) R T own) {w : Walker} (inText : w.thread.In text)
    {j : Nat} (leads : Plus R w.index j) :
    (∃ u ∈ onceOrMore wanted enter body leave greedy w,
      u.index = j ∨ wanted.contains u.index = true) ∨ StoppedFirst R T w j := by
  unfold onceOrMore
  cases finished : (rounds wanted enter body leave greedy (w.thread.rest.length + 1) w {}).done wanted with
  | true =>
    obtain ⟨o, latest, found⟩ := (Option.any_eq_true _ _).1 finished
    have ho := List.mem_reverse.2 (List.mem_of_head? latest)
    obtain ⟨u, hu, same⟩ := exists_mem_walkerFirsts ho
    exact .inl ⟨u, hu, .inr (same ▸ found)⟩
  | false =>
    obtain ⟨explored, started⟩ :=
      rounds_explore course _ w {} inText (.inl (Nat.lt_succ_self _)) finished
    obtain ⟨n, times⟩ := leads
    refine (noted_or_stopped explored started times).imp_left ?_
    rintro ⟨o, ho, rfl⟩
    obtain ⟨u, hu, same⟩ := exists_mem_walkerFirsts (List.mem_reverse.2 ho)
    exact ⟨u, hu, .inl same⟩

theorem all_goOn {P Q : Walker → Prop} {fuel : Nat}
    (later : ∀ u r, P u → (∀ o ∈ r.outcomes, Q o) →
      ∀ o ∈ (rounds wanted enter body leave greedy fuel u r).outcomes, Q o)
    (back : ∀ u, Q u → P u) {u : Walker} {r : Rounds} (hu : Q u) (hr : ∀ o ∈ r.outcomes, Q o) :
    ∀ o ∈ (goOn wanted enter body leave greedy fuel r u).outcomes, Q o := by
  have undone {more : Rounds → Rounds} {r : Rounds} (before : ∀ o ∈ r.outcomes, Q o)
      (after : ∀ o ∈ (more r).outcomes, Q o) : ∀ o ∈ (Rounds.unlessDone wanted more r).outcomes, Q o := by
    unfold Rounds.unlessDone
    split
    · exact before
    · exact after
  have again {r : Rounds} (hr : ∀ o ∈ r.outcomes, Q o) := undone hr (later u r (back u hu) hr)
  have stop {r : Rounds} (hr : ∀ o ∈ r.outcomes, Q o) :=
    @undone (·.note u) r hr (List.forall_mem_cons.2 ⟨hu, hr⟩)
  cases greedy with
  | true => exact stop (again hr)
  | false => exact again (stop hr)

/-- What a round makes of a property, all outcomes have. -/
theorem all_outcomes {P Q : Walker → Prop} (round : ∀ w, P w → ∀ u ∈ oneRound enter body leave w, Q u)
    (back : ∀ u, Q u → P u) {fuel : Nat} {w : Walker} {r : Rounds} (hw : P w)
    (hr : ∀ o ∈ r.outcomes, Q o) :
    ∀ o ∈ (rounds wanted enter body leave greedy fuel w r).outcomes, Q o := by
  induction fuel generalizing w r with
  | zero => exact hr
  | succ fuel ih =>
    rw [rounds_succ]
    split
    · exact hr
    · have step (us : List Walker) (each : ∀ u ∈ us, Q u) (s : Rounds) (hs : ∀ o ∈ s.outcomes, Q o) :
          ∀ o ∈ (us.foldl (goOn wanted enter body leave greedy fuel) s).outcomes, Q o := by
        induction us generalizing s with
        | nil => exact hs
        | cons u us onward =>
          obtain ⟨hu, each⟩ := List.forall_mem_cons.1 each
          exact onward each _ (all_goOn (fun u r hu hr => ih hu hr) back hu hs)
      exact step _ (round w hw) _ hr

/-- What holds of a walker that came from `w` by one or more rounds. -/
structure Carried (text : List Char) (R : Nat → Nat → Prop) (T : Spot → Nat → Nat → Prop)
    (own : Spot → Prop) (w u : Walker) : Prop where
  inText : u.thread.In text
  leads : Plus R w.index u.index
  traced : ∀ joint ∈ u.passed, (joint ∈ w.passed ∧ u.index = w.index) ∨
    own joint ∧ ∀ k, T joint u.index k → Plus R w.index k

theorem Carried.one (course : Course text (oneRound enter body leave) R T own) {w u : Walker}
    (inText : w.thread.In text) (hu : u ∈ oneRound enter body leave w) : Carried text R T own w u where
  inText := (course.sound inText hu).1
  leads := .of_star (course.sound inText hu).2 ⟨0, rfl⟩
  traced joint passed :=
    (course.traced inText hu joint passed).imp_right fun ⟨owns, onward⟩ =>
      ⟨owns, fun k tail => .of_star (onward k tail) ⟨0, rfl⟩⟩

theorem Carried.more (course : Course text (oneRound enter body leave) R T own) {w v u : Walker}
    (h : Carried text R T own w v) (hu : u ∈ oneRound enter body leave v) : Carried text R T own w u where
  inText := (course.sound h.inText hu).1
  leads := h.leads.more (course.sound h.inText hu).2
  traced joint passed := by
    rcases course.traced h.inText hu joint passed with ⟨before, still⟩ | ⟨owns, onward⟩
    · rw [still]
      exact h.traced joint before
    · exact .inr ⟨owns, fun k tail => h.leads.more (onward k tail)⟩

theorem carried_of_mem_onceOrMore (course : Course text (oneRound enter body leave) R T own)
    {w u : Walker} (inText : w.thread.In text) (hu : u ∈ onceOrMore wanted enter body leave greedy w) :
    Carried text R T own w u := by
  have outcome := List.mem_reverse.1 (mem_of_mem_firsts hu)
  refine all_outcomes (P := fun v => v = w ∨ Carried text R T own w v) ?_ (fun _ => .inr) (.inl rfl)
    (fun _ => (absurd · List.not_mem_nil)) u outcome
  rintro v (rfl | carried) o ho
  · exact .one course inText ho
  · exact carried.more course ho

/-- A loop, from the course of one round. -/
theorem Course.onceOrMore (course : Course text (oneRound enter body leave) R T own) (greedy : Bool) :
    Course text (onceOrMore .empty enter body leave greedy) (Plus R)
      (fun joint i j => ∃ k, R i k ∧ T joint i k ∧ Star R k j) own where
  owned := fun ⟨_, _, tail, _⟩ => course.owned tail
  forward := fun ⟨_, times⟩ => times.le fun _ _ => course.forward
  sound inText hu := ⟨(carried_of_mem_onceOrMore course inText hu).inText,
    (carried_of_mem_onceOrMore course inText hu).leads⟩
  traced inText hu joint passed := by
    refine ((carried_of_mem_onceOrMore course inText hu).traced joint passed).imp_right ?_
    rintro ⟨owns, onward⟩
    refine ⟨owns, ?_⟩
    rintro j ⟨k, -, tail, star⟩
    exact (onward k tail).trans star
  complete inText j leads := by
    rcases exists_mem_onceOrMore .empty greedy course inText leads with
      ⟨u, hu, at_j | impossible⟩ | stopped
    · exact .inl ⟨u, hu, at_j⟩
    · simp at impossible
    · exact .inr stopped

end

end Routing.Regex
