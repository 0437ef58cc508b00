import Routing.Proofs.Regex.Taking
import Routing.Proofs.Regex.Tied

/-!
# The courses of walkers

A joint that was passed at a place is not passed there again, so that a walker may be stopped where a
thread could go on. Nothing is lost by that: whatever is reached from the joint, the walker that came by
was about to reach.

* `Course`: walkers lead where a relation says, unless a joint stops them that leads there as well
* `Course.andThen`, `Course.either`, `Course.firsts`: courses are put together
-/
namespace Routing.Regex

/-- The ways of walkers through a part of a loop. They lead from place to place by `R`, and `own` are the
joints of the part, from which it leads on by `T`.

What a walker has passed when it comes out is from before, if it is still at the place, or a joint of the
part; and to where this leads on, the part leads from where the walker came in. A walker comes to every
place that the part leads to, unless it came in with a joint that leads there too. -/
structure Course (text : List Char) (ways : Walker → List Walker) (R : Nat → Nat → Prop)
    (T : Spot → Nat → Nat → Prop) (own : Spot → Prop) : Prop where
  owned : ∀ {joint i j}, T joint i j → own joint
  forward : ∀ {i j}, R i j → i ≤ j
  sound : ∀ {w u : Walker}, w.thread.In text → u ∈ ways w → u.thread.In text ∧ R w.index u.index
  traced : ∀ {w u : Walker}, w.thread.In text → u ∈ ways w → ∀ joint ∈ u.passed,
    (joint ∈ w.passed ∧ u.index = w.index) ∨
      own joint ∧ ∀ j, T joint u.index j → R w.index j
  complete : ∀ {w : Walker}, w.thread.In text → ∀ {j}, R w.index j →
    (∃ u ∈ ways w, u.index = j) ∨ ∃ joint ∈ w.passed, T joint w.index j

theorem mem_pass {w u : Walker} {joint : Spot} :
    u ∈ w.pass joint ↔ joint ∉ w.passed ∧ u = { w with passed := joint :: w.passed } := by
  unfold Walker.pass
  by_cases passed : joint ∈ w.passed <;> simp [passed]

theorem exists_mem_walkerFirsts {ws : List Walker} {w : Walker} (hw : w ∈ ws) :
    ∃ u ∈ Walker.firsts ws, u.index = w.index :=
  Places.exists_mem_firsts Walker.index .empty ws hw (Places.contains_empty _)

namespace Course

variable {text : List Char} {first second : Walker → List Walker} {R R' : Nat → Nat → Prop}
  {T T' : Spot → Nat → Nat → Prop} {own own' : Spot → Prop}

/-- To stay. -/
theorem stay : Course text ([·]) Eq (fun _ _ _ => False) (fun _ => False) where
  owned := id
  forward := Nat.le_of_eq
  sound inText hu := by
    obtain rfl := List.mem_singleton.1 hu
    exact ⟨inText, rfl⟩
  traced _ hu joint hj := by
    obtain rfl := List.mem_singleton.1 hu
    exact .inl ⟨hj, rfl⟩
  complete {w} _ j same := .inl ⟨w, List.mem_singleton.2 rfl, same⟩

/-- To pass a joint. -/
theorem pass (joint : Spot) :
    Course text (·.pass joint) Eq (fun other i j => other = joint ∧ i = j) (· = joint) where
  owned := And.left
  forward := Nat.le_of_eq
  sound inText hu := by
    obtain ⟨-, rfl⟩ := mem_pass.1 hu
    exact ⟨inText, rfl⟩
  traced _ hu other hj := by
    obtain ⟨-, rfl⟩ := mem_pass.1 hu
    rcases List.mem_cons.1 hj with rfl | before
    · exact .inr ⟨rfl, fun j leads => leads.2⟩
    · exact .inl ⟨before, rfl⟩
  complete {w} _ j same := by
    by_cases passed : joint ∈ w.passed
    · exact .inr ⟨joint, passed, rfl, same⟩
    · exact .inl ⟨_, mem_pass.2 ⟨passed, rfl⟩, same⟩

/-- Only the first walker at each place is needed. -/
theorem firsts (h : Course text first R T own) :
    Course text (fun w => Walker.firsts (first w)) R T own where
  owned := h.owned
  forward := h.forward
  sound inText hu := h.sound inText (mem_of_mem_firsts hu)
  traced inText hu := h.traced inText (mem_of_mem_firsts hu)
  complete inText j leads := by
    rcases h.complete inText leads with ⟨u, hu, rfl⟩ | stopped
    · exact .inl (exists_mem_walkerFirsts hu)
    · exact .inr stopped

/-- One part behind the other. -/
theorem andThen (h : Course text first R T own) (h' : Course text second R' T' own')
    (apart : ∀ joint, own joint → ¬ own' joint) :
    Course text (fun w => (first w).flatMap second) (fun i j => ∃ k, R i k ∧ R' k j)
      (fun joint i j => (∃ k, T joint i k ∧ R' k j) ∨ T' joint i j)
      (fun joint => own joint ∨ own' joint) where
  owned leads := leads.imp (fun ⟨_, leads, _⟩ => h.owned leads) h'.owned
  forward := fun ⟨_, leads, further⟩ => Nat.le_trans (h.forward leads) (h'.forward further)
  sound inText hu := by
    obtain ⟨v, hv, hu⟩ := List.mem_flatMap.1 hu
    obtain ⟨stays, leads⟩ := h.sound inText hv
    obtain ⟨stays', further⟩ := h'.sound stays hu
    exact ⟨stays', v.index, leads, further⟩
  traced {w u} inText hu joint hj := by
    obtain ⟨v, hv, hu⟩ := List.mem_flatMap.1 hu
    obtain ⟨stays, leads⟩ := h.sound inText hv
    rcases h'.traced stays hu joint hj with ⟨before, still⟩ | ⟨owns, onward⟩
    · rcases h.traced inText hv joint before with ⟨before, still'⟩ | ⟨owns, onward⟩
      · exact .inl ⟨before, still.trans still'⟩
      · refine .inr ⟨.inl owns, ?_⟩
        rintro j (⟨k, leads, further⟩ | later)
        · exact ⟨k, onward k (still ▸ leads), further⟩
        · exact absurd (h'.owned later) (apart joint owns)
    · refine .inr ⟨.inr owns, ?_⟩
      rintro j (⟨k, earlier, -⟩ | later)
      · exact absurd owns (apart joint (h.owned earlier))
      · exact ⟨v.index, leads, onward j later⟩
  complete {w} inText j leads := by
    obtain ⟨k, leads, further⟩ := leads
    rcases h.complete inText leads with ⟨v, hv, rfl⟩ | ⟨joint, passed, leads⟩
    · obtain ⟨stays, -⟩ := h.sound inText hv
      rcases h'.complete stays further with ⟨u, hu, rfl⟩ | ⟨joint, passed, later⟩
      · exact .inl ⟨u, List.mem_flatMap.2 ⟨v, hv, hu⟩, rfl⟩
      · rcases h.traced inText hv joint passed with ⟨before, still⟩ | ⟨owns, -⟩
        · exact .inr ⟨joint, before, .inr (still ▸ later)⟩
        · exact absurd (h'.owned later) (apart joint owns)
    · exact .inr ⟨joint, passed, .inl ⟨k, leads, further⟩⟩

/-- One part or the other. -/
theorem either (h : Course text first R T own) (h' : Course text second R' T' own')
    (apart : ∀ joint, own joint → ¬ own' joint) (greedy : Bool) :
    Course text (fun w => prefer greedy (first w) (second w)) (fun i j => R i j ∨ R' i j)
      (fun joint i j => T joint i j ∨ T' joint i j) (fun joint => own joint ∨ own' joint) where
  owned leads := leads.imp h.owned h'.owned
  forward leads := leads.elim h.forward h'.forward
  sound inText hu := by
    rcases mem_prefer.1 hu with hu | hu
    · exact (h.sound inText hu).imp_right .inl
    · exact (h'.sound inText hu).imp_right .inr
  traced inText hu joint hj := by
    rcases mem_prefer.1 hu with hu | hu
    · refine (h.traced inText hu joint hj).imp_right fun ⟨owns, onward⟩ => ⟨.inl owns, ?_⟩
      rintro j (leads | other)
      · exact .inl (onward j leads)
      · exact absurd (h'.owned other) (apart joint owns)
    · refine (h'.traced inText hu joint hj).imp_right fun ⟨owns, onward⟩ => ⟨.inr owns, ?_⟩
      rintro j (other | leads)
      · exact absurd owns (apart joint (h.owned other))
      · exact .inr (onward j leads)
  complete inText j leads := by
    rcases leads with leads | leads
    · rcases h.complete inText leads with ⟨u, hu, at_j⟩ | ⟨joint, passed, leads⟩
      · exact .inl ⟨u, mem_prefer.2 (.inl hu), at_j⟩
      · exact .inr ⟨joint, passed, .inl leads⟩
    · rcases h'.complete inText leads with ⟨u, hu, at_j⟩ | ⟨joint, passed, leads⟩
      · exact .inl ⟨u, mem_prefer.2 (.inr hu), at_j⟩
      · exact .inr ⟨joint, passed, .inr leads⟩

/-- The same ways in other words. -/
theorem reword (h : Course text first R T own) (places : ∀ i j, R i j ↔ R' i j)
    (tails : ∀ joint i j, T joint i j ↔ T' joint i j) (within : ∀ joint, own joint → own' joint) :
    Course text first R' T' own' where
  owned leads := within _ (h.owned ((tails _ _ _).2 leads))
  forward leads := h.forward ((places _ _).2 leads)
  sound inText hu := (h.sound inText hu).imp_right (places _ _).1
  traced inText hu joint hj :=
    (h.traced inText hu joint hj).imp_right fun ⟨owns, onward⟩ =>
      ⟨within joint owns, fun j leads => (places _ _).1 (onward j ((tails _ _ _).2 leads))⟩
  complete inText j leads := by
    rcases h.complete inText ((places _ _).2 leads) with reached | ⟨joint, passed, leads⟩
    · exact .inl reached
    · exact .inr ⟨joint, passed, (tails _ _ _).1 leads⟩

end Course

end Routing.Regex
