import Routing.Proofs.Regex.Exploring

/-!
# Through the copies of a part

A repetition of copies goes through so many of them in turn. The walkers between two copies are thinned
out, so that one is left at each place, and still they come to every place to which so many copies lead.

* `Copies`: walkers that came through so many copies
* `inTurn_copies`: through a number of copies, one after the other
* `atMost_copies`: through a number of copies that is chosen on the way
* `Copies.course`: the course of a part made of copies
-/
namespace Routing.Regex

open Routing.Unicode

/-! ## Copies -/

/-- Walkers are left out only where others are at the same place. -/
structure Thinned (us vs : List Walker) : Prop where
  within : ∀ v ∈ vs, v ∈ us
  kept : ∀ u ∈ us, ∃ v ∈ vs, v.index = u.index

theorem thinned_firsts (us : List Walker) : Thinned us (Walker.firsts us) where
  within _ := mem_of_mem_firsts
  kept _ := exists_mem_walkerFirsts

theorem Thinned.of_mem {us us' vs : List Walker} (h : Thinned us vs) (same : ∀ u, u ∈ us ↔ u ∈ us') :
    Thinned us' vs where
  within v hv := (same v).1 (h.within v hv)
  kept u hu := h.kept u ((same u).2 hu)

/-- The joints that a walker came with stop it in one of the first `c` copies from getting there. -/
def StoppedIn (R : Nat → Nat → Prop) (T : Nat → Spot → Nat → Nat → Prop) (w : Walker) (c j : Nat) : Prop :=
  ∃ d n, d + 1 + n = c ∧ ∃ joint ∈ w.passed, ∃ k, T d joint w.index k ∧ Times R n k j

/-- Walkers that came from `w` through copies of a part, at least `a` and less than `b` of them. The
copies are gone through in their order, `R` leads through any of them, and `T` from the joints of each. -/
structure Copies (text : List Char) (R : Nat → Nat → Prop) (T : Nat → Spot → Nat → Nat → Prop)
    (own : Nat → Spot → Prop) (w : Walker) (a b : Nat) (us : List Walker) : Prop where
  sound : ∀ u ∈ us, u.thread.In text ∧ ∃ c, a ≤ c ∧ c < b ∧ Times R c w.index u.index
  traced : ∀ u ∈ us, ∀ joint ∈ u.passed, (joint ∈ w.passed ∧ u.index = w.index) ∨
    ∃ d, d + 1 < b ∧ own d joint ∧ ∀ k, T d joint u.index k → Times R (d + 1) w.index k
  complete : ∀ c, a ≤ c → c < b → ∀ j, Times R c w.index j →
    (∃ u ∈ us, u.index = j) ∨ StoppedIn R T w c j

section

variable {text : List Char} {body : Nat → Walker → List Walker} {R : Nat → Nat → Prop}
  {T : Nat → Spot → Nat → Nat → Prop} {own : Nat → Spot → Prop} {w : Walker} {a b c : Nat}
  {us vs : List Walker}

theorem StoppedIn.add {m j k : Nat} (h : StoppedIn R T w c k) (rest : Times R m k j) :
    StoppedIn R T w (c + m) j := by
  obtain ⟨d, n, rfl, joint, passed, l, tail, times⟩ := h
  exact ⟨d, n + m, by omega, joint, passed, l, tail, times.add rest⟩

namespace Copies

theorem start (inText : w.thread.In text) : Copies text R T own w 0 1 [w] where
  sound u hu := by
    obtain rfl := List.mem_singleton.1 hu
    exact ⟨inText, 0, Nat.le_refl 0, Nat.one_pos, rfl⟩
  traced u hu joint passed := by
    obtain rfl := List.mem_singleton.1 hu
    exact .inl ⟨passed, rfl⟩
  complete c _ below j times := by
    obtain rfl := Nat.lt_one_iff.1 below
    exact .inl ⟨w, List.mem_singleton.2 rfl, times⟩

theorem thin (h : Copies text R T own w a b us) (thinned : Thinned us vs) :
    Copies text R T own w a b vs where
  sound u hu := h.sound u (thinned.within u hu)
  traced u hu := h.traced u (thinned.within u hu)
  complete c enough below j times := by
    refine (h.complete c enough below j times).imp_left ?_
    rintro ⟨u, hu, rfl⟩
    exact thinned.kept u hu

theorem none : Copies text R T own w a a [] where
  sound _ hu := nomatch hu
  traced _ hu := nomatch hu
  complete _ enough below := absurd below (Nat.not_lt.2 enough)

theorem append (h : Copies text R T own w a b us) (h' : Copies text R T own w b c vs) (lower : a ≤ b)
    (upper : b ≤ c) : Copies text R T own w a c (us ++ vs) where
  sound u hu := by
    rcases List.mem_append.1 hu with hu | hu
    · obtain ⟨inText, n, enough, below, times⟩ := h.sound u hu
      exact ⟨inText, n, enough, Nat.lt_of_lt_of_le below upper, times⟩
    · obtain ⟨inText, n, enough, below, times⟩ := h'.sound u hu
      exact ⟨inText, n, Nat.le_trans lower enough, below, times⟩
  traced u hu joint passed := by
    rcases List.mem_append.1 hu with hu | hu
    · refine (h.traced u hu joint passed).imp_right ?_
      rintro ⟨d, below, traced⟩
      exact ⟨d, Nat.lt_of_lt_of_le below upper, traced⟩
    · exact h'.traced u hu joint passed
  complete n enough below j times := by
    rcases Nat.lt_or_ge n b with few | many
    · refine (h.complete n enough few j times).imp_left ?_
      rintro ⟨u, hu, at_j⟩
      exact ⟨u, List.mem_append_left vs hu, at_j⟩
    · refine (h'.complete n many below j times).imp_left ?_
      rintro ⟨u, hu, at_j⟩
      exact ⟨u, List.mem_append_right us hu, at_j⟩

/-- Where nobody is left, further copies make no difference. -/
theorem onward (h : Copies text R T own w c (c + 1) []) (n : Nat) :
    Copies text R T own w (c + 1) (c + 1 + n) [] where
  sound _ hu := nomatch hu
  traced _ hu := nomatch hu
  complete m enough below j times := by
    obtain ⟨more, rfl⟩ := Nat.exists_eq_add_of_le (Nat.le_of_succ_le enough)
    obtain ⟨k, before, after⟩ := times_add.1 times
    rcases h.complete c (Nat.le_refl c) (Nat.lt_succ_self c) k before with ⟨u, hu, -⟩ | stopped
    · cases hu
    · exact .inr (stopped.add after)

/-- Through one more copy. -/
theorem next (course : ∀ c, Course text (body c) R (T c) (own c))
    (apart : ∀ c d joint, own c joint → own d joint → c = d) (h : Copies text R T own w c (c + 1) us) :
    Copies text R T own w (c + 1) (c + 2) (us.flatMap (body c)) where
  sound u hu := by
    obtain ⟨v, hv, hu⟩ := List.mem_flatMap.1 hu
    obtain ⟨inText, n, enough, below, times⟩ := h.sound v hv
    obtain rfl : n = c := by omega
    obtain ⟨inText, leads⟩ := (course n).sound inText hu
    exact ⟨inText, n + 1, Nat.le_refl _, Nat.lt_succ_self _, times_succ.2 ⟨_, times, leads⟩⟩
  traced u hu joint passed := by
    obtain ⟨v, hv, hu⟩ := List.mem_flatMap.1 hu
    obtain ⟨inText, n, enough, below, times⟩ := h.sound v hv
    obtain rfl : n = c := by omega
    rcases (course n).traced inText hu joint passed with ⟨before, still⟩ | ⟨owns, further⟩
    · rw [still]
      refine (h.traced v hv joint before).imp_right ?_
      rintro ⟨d, below, traced⟩
      exact ⟨d, Nat.lt_succ_of_lt below, traced⟩
    · exact .inr ⟨n, Nat.lt_succ_self _, owns, fun k tail => times_succ.2 ⟨_, times, further k tail⟩⟩
  complete n enough below j times := by
    obtain rfl : n = c + 1 := by omega
    obtain ⟨k, before, leads⟩ := times_succ.1 times
    rcases h.complete c (Nat.le_refl c) (Nat.lt_succ_self c) k before with ⟨v, hv, rfl⟩ | stopped
    · obtain ⟨inText, -⟩ := h.sound v hv
      rcases (course c).complete inText leads with ⟨u, hu, rfl⟩ | ⟨joint, passed, tail⟩
      · exact .inl ⟨u, List.mem_flatMap.2 ⟨v, hv, hu⟩, rfl⟩
      · rcases h.traced v hv joint passed with ⟨before, still⟩ | ⟨d, below, owns, -⟩
        · exact .inr ⟨c, 0, rfl, joint, before, j, still ▸ tail, rfl⟩
        · -- the joint belongs to an earlier copy
          have := apart d c joint owns ((course c).owned tail)
          omega
    · exact .inr (stopped.add (times_one.2 leads))

/-- The course of a part that goes through copies. -/
theorem course {ways : Walker → List Walker} (single : ∀ c, Course text (body c) R (T c) (own c))
    (apart : ∀ c d joint, own c joint → own d joint → c = d)
    (copies : ∀ w : Walker, w.thread.In text → Copies text R T own w a b (ways w)) :
    Course text ways (fun i j => ∃ c, a ≤ c ∧ c < b ∧ Times R c i j)
      (fun joint i j => ∃ d n k, a ≤ d + 1 + n ∧ d + 1 + n < b ∧ T d joint i k ∧ Times R n k j)
      (fun joint => ∃ d, d + 1 < b ∧ own d joint) where
  owned := fun ⟨d, n, _, _, below, tail, _⟩ => ⟨d, by omega, (single d).owned tail⟩
  forward := fun ⟨_, _, _, times⟩ => times.le fun _ _ => (single 0).forward
  sound inText hu := (copies _ inText).sound _ hu
  traced inText hu joint passed := by
    refine ((copies _ inText).traced _ hu joint passed).imp_right ?_
    rintro ⟨d, below, owns, further⟩
    refine ⟨⟨d, below, owns⟩, ?_⟩
    rintro j ⟨d', n, k, enough, few, tail, times⟩
    obtain rfl := apart d d' joint owns ((single d').owned tail)
    exact ⟨d + 1 + n, enough, few, (further k tail).add times⟩
  complete inText j leads := by
    obtain ⟨c, enough, below, times⟩ := leads
    refine ((copies _ inText).complete c enough below j times).imp_right ?_
    rintro ⟨d, n, rfl, joint, passed, k, tail, times⟩
    exact ⟨joint, passed, d, n, k, enough, below, tail, times⟩

end Copies

theorem inTurn_succ (n c : Nat) (us : List Walker) :
    inTurn body (n + 1) c us = inTurn body n (c + 1) (Walker.firsts (us.flatMap (body c))) := by
  cases us with
  | nil => cases n <;> rfl
  | cons u us => rfl

theorem inTurn_zero (c : Nat) (us : List Walker) : inTurn body 0 c us = us := by
  cases us <;> rfl

theorem inTurn_copies (course : ∀ c, Course text (body c) R (T c) (own c))
    (apart : ∀ c d joint, own c joint → own d joint → c = d) (n : Nat)
    (h : Copies text R T own w c (c + 1) us) :
    Copies text R T own w (c + n) (c + n + 1) (inTurn body n c us) := by
  induction n generalizing c us with
  | zero =>
    rw [inTurn_zero]
    exact h
  | succ n ih =>
    rw [inTurn_succ]
    have later := ih ((h.next course apart).thin (thinned_firsts _))
    rwa [show c + 1 + n = c + (n + 1) by omega] at later

/-! ## How many copies -/

/-- The walkers that go on. -/
def going (ways : List (Bool × Walker)) : List Walker :=
  (ways.filter (·.1)).map (·.2)

/-- The walkers that have stopped. -/
def halted (ways : List (Bool × Walker)) : List Walker :=
  (ways.filter (!·.1)).map (·.2)

theorem mem_going {ways : List (Bool × Walker)} {u : Walker} : u ∈ going ways ↔ (true, u) ∈ ways := by
  simp [going]

theorem mem_halted {ways : List (Bool × Walker)} {u : Walker} : u ∈ halted ways ↔ (false, u) ∈ ways := by
  simp [halted]

theorem thinned_snd (ways : List (Bool × Walker)) :
    Thinned (halted ways ++ going ways) (Walker.firsts (ways.map (·.2))) := by
  refine (thinned_firsts _).of_mem fun u => ?_
  rw [List.mem_append, mem_going, mem_halted, List.mem_map]
  constructor
  · rintro ⟨⟨goesOn, v⟩, hv, rfl⟩
    cases goesOn with
    | true => exact .inr hv
    | false => exact .inl hv
  · rintro (hu | hu)
    · exact ⟨_, hu, rfl⟩
    · exact ⟨_, hu, rfl⟩

theorem exists_mem_firstWays {ways : List (Bool × Walker)} {goesOn : Bool} {u : Walker}
    (hu : (goesOn, u) ∈ ways) : ∃ v, (goesOn, v) ∈ firstWays ways ∧ v.index = u.index := by
  obtain ⟨⟨goesOn', v⟩, hv, same⟩ := Places.exists_mem_firsts
    (fun way => 2 * Walker.index way.2 + way.1.toNat) .empty ways hu (Places.contains_empty _)
  cases goesOn <;> cases goesOn' <;> simp only [Bool.toNat_true, Bool.toNat_false] at same
  · exact ⟨v, hv, by omega⟩
  · omega
  · omega
  · exact ⟨v, hv, by omega⟩

/-- One more copy for those who go on, each of whom may also stop. -/
def nextWays (one : Walker → List Walker) (greedy : Bool) (ways : List (Bool × Walker)) :
    List (Bool × Walker) :=
  ways.flatMap fun (goesOn, w) =>
    if goesOn then prefer greedy ((one w).map (true, ·)) [(false, w)] else [(false, w)]

section

variable {one : Walker → List Walker} {greedy : Bool} {ways : List (Bool × Walker)}

theorem mem_going_nextWays (u : Walker) :
    u ∈ going (nextWays one greedy ways) ↔ u ∈ (going ways).flatMap one := by
  rw [mem_going, nextWays, List.mem_flatMap, List.mem_flatMap]
  constructor
  · rintro ⟨⟨goesOn, v⟩, hv, hu⟩
    cases goesOn with
    | true =>
      rcases mem_prefer.1 hu with hu | hu
      · obtain ⟨u, hu, same⟩ := List.mem_map.1 hu
        cases same
        exact ⟨v, mem_going.2 hv, hu⟩
      · cases List.mem_singleton.1 hu
    | false => cases List.mem_singleton.1 hu
  · rintro ⟨v, hv, hu⟩
    exact ⟨_, mem_going.1 hv, mem_prefer.2 (.inl (List.mem_map_of_mem hu))⟩

theorem mem_halted_nextWays (u : Walker) :
    u ∈ halted (nextWays one greedy ways) ↔ u ∈ halted ways ++ going ways := by
  rw [mem_halted, nextWays, List.mem_flatMap, List.mem_append, mem_going, mem_halted]
  constructor
  · rintro ⟨⟨goesOn, v⟩, hv, hu⟩
    cases goesOn with
    | true =>
      rcases mem_prefer.1 hu with hu | hu
      · obtain ⟨u, hu, same⟩ := List.mem_map.1 hu
        cases same
      · cases List.mem_singleton.1 hu
        exact .inr hv
    | false =>
      cases List.mem_singleton.1 hu
      exact .inl hv
  · rintro (hu | hu)
    · exact ⟨_, hu, List.mem_singleton.2 rfl⟩
    · exact ⟨_, hu, mem_prefer.2 (.inr (List.mem_singleton.2 rfl))⟩

theorem thinned_going : Thinned (going ways) (going (firstWays ways)) where
  within v hv := mem_going.2 (mem_of_mem_firsts (mem_going.1 hv))
  kept u hu := by
    obtain ⟨v, hv, same⟩ := exists_mem_firstWays (mem_going.1 hu)
    exact ⟨v, mem_going.2 hv, same⟩

theorem thinned_halted : Thinned (halted ways) (halted (firstWays ways)) where
  within v hv := mem_halted.2 (mem_of_mem_firsts (mem_halted.1 hv))
  kept u hu := by
    obtain ⟨v, hv, same⟩ := exists_mem_firstWays (mem_halted.1 hu)
    exact ⟨v, mem_halted.2 hv, same⟩

end

theorem atMost_succ (greedy : Bool) (n c : Nat) (ways : List (Bool × Walker)) :
    atMost body greedy (n + 1) c ways =
      if ways.any (·.1) then atMost body greedy n (c + 1) (firstWays (nextWays (body c) greedy ways))
      else Walker.firsts (ways.map (·.2)) :=
  rfl

theorem going_eq_nil {ways : List (Bool × Walker)} (nobody : ¬ ways.any (·.1) = true) :
    going ways = [] := by
  refine List.eq_nil_iff_forall_not_mem.2 fun u hu => nobody ?_
  exact List.any_eq_true.2 ⟨_, mem_going.1 hu, rfl⟩

theorem atMost_copies (course : ∀ c, Course text (body c) R (T c) (own c))
    (apart : ∀ c d joint, own c joint → own d joint → c = d) (greedy : Bool) (n : Nat)
    {ways : List (Bool × Walker)} (enough : a ≤ c) (on : Copies text R T own w c (c + 1) (going ways))
    (off : Copies text R T own w a c (halted ways)) :
    Copies text R T own w a (c + n + 1) (atMost body greedy n c ways) := by
  induction n generalizing c ways with
  | zero => exact (off.append on enough (Nat.le_succ c)).thin (thinned_snd ways)
  | succ n ih =>
    have all := off.append on enough (Nat.le_succ c)
    have more := Nat.le_succ_of_le enough
    rw [atMost_succ]
    split
    · rw [show c + (n + 1) + 1 = c + 1 + n + 1 by omega]
      refine ih more ?_ ?_
      · exact (on.next course apart).thin (thinned_going.of_mem mem_going_nextWays)
      · exact all.thin (thinned_halted.of_mem mem_halted_nextWays)
    · next nobody =>
      rw [going_eq_nil nobody] at on
      have rest := on.onward (n + 1)
      have whole := (all.thin (thinned_snd ways)).append rest more (Nat.le_add_right _ _)
      rwa [List.append_nil, show c + 1 + (n + 1) = c + (n + 1) + 1 by omega] at whole

end

end Routing.Regex
