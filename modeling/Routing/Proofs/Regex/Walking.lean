import Routing.Proofs.Regex.Copies

/-!
# The course of every expression

However joints stop the walkers inside a loop, they come to every place to which the expression leads.

* `Course.optional`, `Course.anyNumber`: the two kinds of loops without a limit
* `exists_course_unlimited`, `exists_course_limited`: a repetition has a course, if its copies have
* `Node.exists_course`: every node has a course
-/
namespace Routing.Regex

open Routing.Unicode

/-! ## Joints -/

/-- The joints that lie below a spot. -/
def Below (spot joint : Spot) : Prop :=
  spot <:+ joint

theorem Below.of_turn {turn : Nat} {spot joint : Spot} (h : Below (turn :: spot) joint) :
    Below spot joint :=
  (List.suffix_cons turn spot).trans h

/-- What lies below two turns of one spot took the same turn. -/
theorem Below.turn_unique {turn turn' : Nat} {spot joint : Spot} (h : Below (turn :: spot) joint)
    (h' : Below (turn' :: spot) joint) : turn = turn' := by
  have same := (List.suffix_of_suffix_length_le h h' (by simp)).eq_of_length (by simp)
  exact (List.cons.inj same).1

theorem not_below_turn {turn : Nat} {spot : Spot} : ¬ Below (turn :: spot) spot := by
  intro h
  have longer := h.length_le
  rw [List.length_cons] at longer
  omega

section

variable {text : List Char} {ways body : Walker → List Walker} {R : Nat → Nat → Prop}
  {T : Spot → Nat → Nat → Prop} {own : Spot → Prop} {spot : Spot}

namespace Course

/-- To note on the way what was taken. -/
theorem bind (h : Course text ways R T own) (group : Nat) :
    Course text (fun w => (ways w).map fun u => { u with thread := u.thread.bind group w.index }) R T
      own where
  owned := h.owned
  forward := h.forward
  sound inText hu := by
    obtain ⟨v, hv, rfl⟩ := List.mem_map.1 hu
    obtain ⟨stays, leads⟩ := h.sound inText hv
    exact ⟨stays.bind group _, leads⟩
  traced inText hu joint passed := by
    obtain ⟨v, hv, rfl⟩ := List.mem_map.1 hu
    exact h.traced inText hv joint passed
  complete inText j leads := by
    refine (h.complete inText leads).imp_left ?_
    rintro ⟨u, hu, at_j⟩
    exact ⟨_, List.mem_map_of_mem hu, at_j⟩

/-- An optional part, all ways past which come together. -/
theorem optional {joint : Spot} (h : Course text ways R T own) (apart : ¬ own joint) (greedy : Bool) :
    ∃ T', Course text (optional ways joint greedy) (fun i j => R i j ∨ i = j) T'
      (fun other => own other ∨ other = joint) := by
  have either := (h.either stay (fun _ _ => id) greedy).firsts
  have through := either.andThen (pass joint) (by
    rintro other (owns | impossible) rfl
    · exact apart owns
    · exact impossible)
  refine ⟨_, through.reword (fun i j => ?_) (fun _ _ _ => Iff.rfl) ?_⟩
  · simp
  · rintro other ((owns | impossible) | same)
    · exact .inl owns
    · exact impossible.elim
    · exact .inr same

/-- One round of a loop through a joint in front of its body. -/
theorem enteredBy {joint : Spot} (h : Course text body R T own) (apart : ¬ own joint) :
    Course text (oneRound (·.pass joint) body ([·])) R
      (fun other i j => other = joint ∧ R i j ∨ T other i j)
      (fun other => other = joint ∨ own other) := by
  have entered := (pass joint).andThen h fun other same owns => apart (same ▸ owns)
  refine (entered.andThen stay fun _ _ => id).reword (fun i j => ?_) (fun other i j => ?_) ?_
  · simp
  · simp
  · rintro other (owns | impossible)
    · exact owns
    · exact impossible.elim

/-- One round of a loop through a joint behind its body. -/
theorem leftBy {joint : Spot} (h : Course text body R T own) (apart : ¬ own joint) :
    Course text (oneRound ([·]) body (·.pass joint)) R
      (fun other i j => T other i j ∨ other = joint ∧ i = j)
      (fun other => own other ∨ other = joint) := by
  have entered := stay.andThen h fun _ => False.elim
  have left := entered.andThen (pass joint) (by
    rintro other (impossible | owns) rfl
    · exact impossible
    · exact apart owns)
  refine left.reword (fun i j => ?_) (fun other i j => ?_) ?_
  · simp
  · simp
  · rintro other ((impossible | owns) | same)
    · exact impossible.elim
    · exact .inl owns
    · exact .inr same

/-- Any number of rounds through a body that takes something. -/
theorem anyNumber {joint : Spot} (h : Course text body R T own) (apart : ¬ own joint)
    (takes : ∀ t : Thread, t.In text → ∀ j, R t.index j → t.index < j) (greedy : Bool) :
    Course text (anyNumber body joint greedy) (Star R)
      (fun other i j => (∃ k, R i k ∧ T other i k ∧ Star R k j) ∨ other = joint ∧ Star R i j)
      (fun other => own other ∨ other = joint) where
  owned leads := leads.imp (fun ⟨_, _, tail, _⟩ => h.owned tail) And.left
  forward := fun ⟨_, times⟩ => times.le fun _ _ => h.forward
  sound {w u} inText hu := by
    obtain ⟨v, hv, hu⟩ := List.mem_flatMap.1 hu
    obtain ⟨-, rfl⟩ := mem_pass.1 hv
    rcases mem_prefer.1 (mem_of_mem_firsts hu) with hu | hu
    · have loop := (h.leftBy apart).onceOrMore greedy
      exact (loop.sound (w := { w with passed := joint :: w.passed }) inText hu).imp_right Plus.star
    · obtain rfl := List.mem_singleton.1 hu
      exact ⟨inText, 0, rfl⟩
  traced {w u} inText hu other passed := by
    obtain ⟨v, hv, hu⟩ := List.mem_flatMap.1 hu
    obtain ⟨-, rfl⟩ := mem_pass.1 hv
    have known (at_front : u.index = w.index) (before : other ∈ joint :: w.passed) :
        (other ∈ w.passed ∧ u.index = w.index) ∨ (own other ∨ other = joint) ∧
          ∀ j, (∃ k, R u.index k ∧ T other u.index k ∧ Star R k j) ∨ other = joint ∧ Star R u.index j →
            Star R w.index j := by
      rcases List.mem_cons.1 before with rfl | before
      · refine .inr ⟨.inr rfl, ?_⟩
        rintro j (⟨k, -, tail, -⟩ | ⟨-, star⟩)
        · exact absurd (h.owned tail) apart
        · exact at_front ▸ star
      · exact .inl ⟨before, at_front⟩
    rcases mem_prefer.1 (mem_of_mem_firsts hu) with hu | hu
    · have loop := (h.leftBy apart).onceOrMore greedy
      have inside : (Walker.thread { w with passed := joint :: w.passed }).In text := inText
      have came := (loop.sound inside hu).2.star
      rcases loop.traced inside hu other passed with ⟨before, still⟩ | ⟨owns, further⟩
      · exact known still before
      · refine .inr ⟨owns, ?_⟩
        rintro j (⟨k, leads, tail, star⟩ | ⟨-, star⟩)
        · exact (further j ⟨k, leads, .inl tail, star⟩).star
        · exact came.trans star
    · obtain rfl := List.mem_singleton.1 hu
      exact known rfl passed
  complete {w} inText j leads := by
    by_cases before : joint ∈ w.passed
    · exact .inr ⟨joint, before, .inr ⟨rfl, leads⟩⟩
    obtain ⟨v, hv⟩ : ∃ v, v = { w with passed := joint :: w.passed } := ⟨_, rfl⟩
    have way {u : Walker}
        (hu : u ∈ prefer greedy (Regex.onceOrMore .empty ([·]) body (·.pass joint) greedy v) [v]) :
        ∃ o ∈ Regex.anyNumber body joint greedy w, o.index = u.index := by
      obtain ⟨o, ho, same⟩ := exists_mem_walkerFirsts hu
      exact ⟨o, List.mem_flatMap.2 ⟨v, mem_pass.2 ⟨before, hv⟩, ho⟩, same⟩
    have here : v.index = w.index := hv ▸ rfl
    obtain ⟨n, times⟩ := leads
    cases n with
    | zero =>
      obtain ⟨o, ho, at_o⟩ := way (mem_prefer.2 (.inr (List.mem_singleton.2 rfl)))
      exact .inl ⟨o, ho, at_o.trans (here.trans times)⟩
    | succ n =>
      have loop := (h.leftBy apart).onceOrMore greedy
      rw [← here] at times ⊢
      rcases loop.complete (hv ▸ inText) ⟨n, times⟩ with
        ⟨u, hu, rfl⟩ | ⟨other, passed, k, leads, tail | ⟨-, still⟩, star⟩
      · exact .inl (way (mem_prefer.2 (.inl hu)))
      · rw [hv] at passed
        rcases List.mem_cons.1 passed with rfl | passed
        · exact absurd (h.owned tail) apart
        · exact .inr ⟨other, passed, .inl ⟨k, leads, tail, star⟩⟩
      · have := takes v.thread (hv ▸ inText) k leads
        simp only [Walker.index] at still
        omega

end Course

end

/-! ## Repetitions -/

section

variable {text : List Char} {body : Nat → Walker → List Walker} {R : Nat → Nat → Prop}
  {T : Nat → Spot → Nat → Nat → Prop} {spot : Spot}

/-- No joint belongs to two copies. -/
theorem copy_unique {c d : Nat} {joint : Spot} (h : Below ((c + 2) :: spot) joint)
    (h' : Below ((d + 2) :: spot) joint) : c = d := by
  have same := h.turn_unique h'
  omega

/-- The joints of a repetition itself belong to no copy. -/
theorem not_below_copy {turn c : Nat} (own : turn < 2) : ¬ Below ((c + 2) :: spot) (turn :: spot) := by
  intro h
  have same := h.turn_unique (List.suffix_refl _)
  omega

theorem below_turn (turn : Nat) (spot : Spot) : Below spot (turn :: spot) :=
  List.suffix_cons turn spot

theorem copies_inTurn (course : ∀ c, Course text (body c) R (T c) (Below ((c + 2) :: spot))) (n : Nat)
    {w : Walker} (inText : w.thread.In text) :
    Copies text R T (fun c => Below ((c + 2) :: spot)) w n (n + 1) (inTurn body n 0 [w]) := by
  have copies := inTurn_copies course (fun c d joint => copy_unique) n (Copies.start inText)
  rwa [Nat.zero_add] at copies

theorem copies_atMost (course : ∀ c, Course text (body c) R (T c) (Below ((c + 2) :: spot)))
    (greedy : Bool) {least m : Nat} (more : least ≤ m) {w : Walker} (inText : w.thread.In text) :
    Copies text R T (fun c => Below ((c + 2) :: spot)) w least (m + 1)
      (atMost body greedy (m - least) least ((inTurn body least 0 [w]).map (true, ·))) := by
  have on : going ((inTurn body least 0 [w]).map (true, ·)) = inTurn body least 0 [w] := by
    simp [going, List.filter_map, Function.comp_def]
  have off : halted ((inTurn body least 0 [w]).map (true, ·)) = [] := by
    simp [halted, List.filter_map, Function.comp_def]
  have copies := atMost_copies course (fun c d joint => copy_unique) greedy (m - least)
    (Nat.le_refl least) (on.symm ▸ copies_inTurn course least inText) (off.symm ▸ Copies.none)
  rwa [Nat.add_sub_cancel' more] at copies

/-- Any number of rounds that may take nothing: one or more of them, or none. -/
theorem exists_course_optional
    (course : ∀ c, Course text (body c) R (T c) (Below ((c + 2) :: spot))) (greedy : Bool) :
    ∃ T', Course text (repeats .empty body true greedy spot 0 none)
      (fun i j => ∃ n, Times R n i j) T' (Below spot) := by
  have again := ((course 0).enteredBy (not_below_copy Nat.two_pos)).onceOrMore greedy
  have apart : ¬ (1 :: spot = 0 :: spot ∨ Below ((0 + 2) :: spot) (1 :: spot)) := by
    rintro (same | owns)
    · simp at same
    · exact not_below_copy Nat.one_lt_two owns
  obtain ⟨T', through⟩ := again.optional apart greedy
  refine ⟨T', through.reword (fun i j => ?_) (fun _ _ _ => Iff.rfl) ?_⟩
  · constructor
    · rintro (⟨n, times⟩ | same)
      · exact ⟨n + 1, times⟩
      · exact ⟨0, same⟩
    · rintro ⟨n, times⟩
      cases n with
      | zero => exact .inr times
      | succ n => exact .inl ⟨n, times⟩
  · rintro joint ((rfl | owns) | rfl)
    · exact below_turn 0 spot
    · exact owns.of_turn
    · exact below_turn 1 spot

/-- Any number of rounds that each take a character. -/
theorem exists_course_anyNumber
    (course : ∀ c, Course text (body c) R (T c) (Below ((c + 2) :: spot)))
    (takes : ∀ t : Thread, t.In text → ∀ j, R t.index j → t.index < j) (greedy : Bool) :
    ∃ T', Course text (repeats .empty body false greedy spot 0 none)
      (fun i j => ∃ n, Times R n i j) T' (Below spot) := by
  have through := (course 0).anyNumber (not_below_copy Nat.one_lt_two) takes greedy
  refine ⟨_, through.reword (fun _ _ => Iff.rfl) (fun _ _ _ => Iff.rfl) ?_⟩
  rintro joint (owns | rfl)
  · exact owns.of_turn
  · exact below_turn 1 spot

/-- The copies of the required rounds, the last of which may be gone through again and again. -/
theorem exists_course_required
    (course : ∀ c, Course text (body c) R (T c) (Below ((c + 2) :: spot)))
    (mayTakeNothing greedy : Bool) (n : Nat) :
    ∃ T', Course text (repeats .empty body mayTakeNothing greedy spot (n + 1) none)
      (fun i j => ∃ c, n + 1 ≤ c ∧ Times R c i j) T' (Below spot) := by
  have again := ((course n).enteredBy (not_below_copy Nat.two_pos)).onceOrMore greedy
  have turns := Copies.course course (fun c d joint => copy_unique) fun w => copies_inTurn course n
  have through := (turns.andThen again (by
    rintro joint ⟨d, below, owns⟩ (rfl | owns')
    · exact not_below_copy Nat.two_pos owns
    · have := copy_unique owns owns'
      omega)).firsts
  refine ⟨_, through.reword (fun i j => ?_) (fun _ _ _ => Iff.rfl) ?_⟩
  · constructor
    · rintro ⟨k, ⟨c, enough, below, required⟩, further, times⟩
      exact ⟨c + (further + 1), by omega, required.add times⟩
    · rintro ⟨c, enough, times⟩
      obtain ⟨further, rfl⟩ := Nat.exists_eq_add_of_le enough
      rw [Nat.add_assoc, Nat.add_comm 1] at times
      obtain ⟨k, required, rest⟩ := times_add.1 times
      exact ⟨k, ⟨n, Nat.le_refl n, Nat.lt_succ_self n, required⟩, further, rest⟩
  · rintro joint (⟨d, below, owns⟩ | rfl | owns)
    · exact owns.of_turn
    · exact below_turn 0 spot
    · exact owns.of_turn

theorem exists_course_unlimited
    (course : ∀ c, Course text (body c) R (T c) (Below ((c + 2) :: spot))) {mayTakeNothing : Bool}
    (takes : mayTakeNothing = false → ∀ t : Thread, t.In text → ∀ j, R t.index j → t.index < j)
    (greedy : Bool) (least : Nat) :
    ∃ T', Course text (repeats .empty body mayTakeNothing greedy spot least none)
      (fun i j => ∃ n, least ≤ n ∧ Times R n i j) T' (Below spot) := by
  cases least with
  | zero =>
    simp only [Nat.zero_le, true_and]
    cases mayTakeNothing with
    | true => exact exists_course_optional course greedy
    | false => exact exists_course_anyNumber course (takes rfl) greedy
  | succ n => exact exists_course_required course mayTakeNothing greedy n

theorem exists_course_limited
    (course : ∀ c, Course text (body c) R (T c) (Below ((c + 2) :: spot))) (mayTakeNothing greedy : Bool)
    (least m : Nat) :
    ∃ T', Course text (repeats .empty body mayTakeNothing greedy spot least (some m))
      (fun i j => ∃ n, least ≤ n ∧ n ≤ max m least ∧ Times R n i j) T' (Below spot) := by
  have same : repeats .empty body mayTakeNothing greedy spot least (some m) = fun w =>
      if m ≤ least then inTurn body least 0 [w]
      else (atMost body greedy (m - least) least ((inTurn body least 0 [w]).map (true, ·))).flatMap
        (·.pass (1 :: spot)) :=
    funext (repeats_some .empty body mayTakeNothing greedy spot least m)
  rw [same]
  by_cases fixed : m ≤ least
  · simp only [if_pos fixed]
    have turns := Copies.course course (fun c d joint => copy_unique) fun w =>
      copies_inTurn course least
    refine ⟨_, turns.reword (fun i j => ?_) (fun _ _ _ => Iff.rfl) ?_⟩
    · simp only [Nat.max_eq_right fixed, Nat.lt_succ_iff]
    · rintro joint ⟨d, below, owns⟩
      exact owns.of_turn
  · simp only [if_neg fixed]
    have more := Nat.le_of_not_le fixed
    have choice := Copies.course course (fun c d joint => copy_unique) fun w =>
      copies_atMost course greedy more
    have through := choice.andThen (.pass (1 :: spot)) (by
      rintro joint ⟨d, below, owns⟩ rfl
      exact not_below_copy Nat.one_lt_two owns)
    refine ⟨_, through.reword (fun i j => ?_) (fun _ _ _ => Iff.rfl) ?_⟩
    · simp only [Nat.max_eq_left more, Nat.lt_succ_iff, exists_eq_right]
    · rintro joint (⟨d, below, owns⟩ | rfl)
      · exact owns.of_turn
      · exact below_turn 1 spot

end

/-! ## Nodes -/

namespace Node

theorem takes_set {text : List Char} {s : CharSet} {t : Thread} (inText : t.In text) {j : Nat} :
    (set s).Takes text t.index j ↔ ∃ u, t.step s = some u ∧ u.index = j := by
  simp [takes_iff inText, ways]

theorem takes_look {text : List Char} {l : Look} {t : Thread} (inText : t.In text) {j : Nat} :
    (look l).Takes text t.index j ↔ t.satisfies l = true ∧ t.index = j := by
  rw [takes_iff inText, ways]
  by_cases holds : t.satisfies l = true <;> simp [holds]

/-- A node that cannot take nothing leads onward. -/
theorem lt_of_takes {text : List Char} {a : Node} (something : a.mayTakeNothing = false) {t : Thread}
    (inText : t.In text) {j : Nat} (leads : a.Takes text t.index j) : t.index < j := by
  obtain ⟨u, hu, rfl⟩ := (takes_iff inText).1 leads
  have less := rest_lt_of_mem_ways something hu
  have size := inText.index_add
  have size' := (ways_in hu inText).index_add
  omega

theorem course_set (text : List Char) (s : CharSet) (spot : Spot) :
    Course text ((set s).walk spot) ((set s).Takes text) (fun _ _ _ => False) (fun _ => False) where
  owned := id
  forward := Takes.le
  sound inText hu := by
    obtain ⟨t, ht, rfl⟩ := List.mem_map.1 hu
    have step := Option.mem_toList.1 ht
    exact ⟨inText.step step, (takes_set inText).2 ⟨t, step, rfl⟩⟩
  traced inText hu joint passed := by
    obtain ⟨t, ht, rfl⟩ := List.mem_map.1 hu
    cases passed
  complete inText j leads := by
    obtain ⟨t, step, at_j⟩ := (takes_set inText).1 leads
    exact .inl ⟨_, List.mem_map_of_mem (Option.mem_toList.2 step), at_j⟩

theorem course_look (text : List Char) (l : Look) (spot : Spot) :
    Course text ((look l).walk spot) ((look l).Takes text) (fun _ _ _ => False) (fun _ => False) := by
  have mem (w u : Walker) : u ∈ (look l).walk spot w ↔ w.thread.satisfies l = true ∧ u = w := by
    rw [walk]
    by_cases holds : w.thread.satisfies l = true <;> simp [holds]
  refine ⟨id, Takes.le, fun {w u} inText hu => ?_, fun {w u} inText hu joint passed => ?_,
    fun {w} inText j leads => ?_⟩
  · obtain ⟨holds, rfl⟩ := (mem w u).1 hu
    exact ⟨inText, (takes_look inText).2 ⟨holds, rfl⟩⟩
  · obtain ⟨-, rfl⟩ := (mem w u).1 hu
    exact .inl ⟨passed, rfl⟩
  · obtain ⟨holds, at_j⟩ := (takes_look inText).1 leads
    exact .inl ⟨w, (mem w w).2 ⟨holds, rfl⟩, at_j⟩

/-- Every node has a course. -/
theorem exists_course (text : List Char) (a : Node) (spot : Spot) :
    ∃ T, Course text (a.walk spot) (a.Takes text) T (Below spot) := by
  induction a generalizing spot with
  | empty =>
    exact ⟨_, Course.stay.reword (fun _ _ => Iff.rfl) (fun _ _ _ => Iff.rfl) fun _ => False.elim⟩
  | set s =>
    have course := course_set text s spot
    exact ⟨_, course.reword (fun _ _ => Iff.rfl) (fun _ _ _ => Iff.rfl) fun _ => False.elim⟩
  | look l =>
    have course := course_look text l spot
    exact ⟨_, course.reword (fun _ _ => Iff.rfl) (fun _ _ _ => Iff.rfl) fun _ => False.elim⟩
  | seq a b iha ihb =>
    obtain ⟨T, first⟩ := iha (0 :: spot)
    obtain ⟨T', second⟩ := ihb (1 :: spot)
    have through := (first.andThen second fun joint h h' => nomatch h.turn_unique h').firsts
    refine ⟨_, through.reword (fun _ _ => Iff.rfl) (fun _ _ _ => Iff.rfl) ?_⟩
    rintro joint (owns | owns)
    · exact owns.of_turn
    · exact owns.of_turn
  | alt a b iha ihb =>
    obtain ⟨T, first⟩ := iha (0 :: spot)
    obtain ⟨T', second⟩ := ihb (1 :: spot)
    have either := (first.either second (fun joint h h' => nomatch h.turn_unique h') true).firsts
    have through := either.andThen (.pass spot) (by
      rintro joint (owns | owns) rfl
      · exact not_below_turn owns
      · exact not_below_turn owns)
    refine ⟨_, through.reword (fun i j => ?_) (fun _ _ _ => Iff.rfl) ?_⟩
    · simp [Takes]
    · rintro joint ((owns | owns) | rfl)
      · exact owns.of_turn
      · exact owns.of_turn
      · exact List.suffix_refl _
  | group index name a ih =>
    obtain ⟨T, inner⟩ := ih spot
    exact ⟨T, inner.bind index⟩
  | rep least most greedy a ih =>
    choose T course using fun c => ih ((c + 2) :: spot)
    cases most with
    | none =>
      obtain ⟨T', through⟩ :=
        exists_course_unlimited course (fun something t => lt_of_takes something) greedy least
      refine ⟨T', through.reword (fun i j => ?_) (fun _ _ _ => Iff.rfl) fun _ => id⟩
      simp [Takes, Enough]
    | some m =>
      obtain ⟨T', through⟩ := exists_course_limited course a.mayTakeNothing greedy least m
      refine ⟨T', through.reword (fun i j => ?_) (fun _ _ _ => Iff.rfl) fun _ => id⟩
      simp only [Takes, Enough, Option.mem_some_iff, forall_eq', and_assoc]

end Node

end Routing.Regex
