import Routing.Proofs.Regex.Ways

/-!
# What an expression takes

From which place of a text to which an expression leads, with no regard to preference and with no limit to
the rounds of a loop.

* `Times`: a relation so many times in a row
* `Node.Takes`: a node takes a text from one place to another
* `Node.takes_iff`: the places to which the ways through a node lead
-/
namespace Routing.Regex

open Routing.Unicode

/-- So many steps of a relation in a row. -/
def Times (R : Nat → Nat → Prop) : Nat → Nat → Nat → Prop
  | 0, i, j => i = j
  | n + 1, i, j => ∃ k, R i k ∧ Times R n k j

section

variable {R : Nat → Nat → Prop} {m n i j k : Nat}

theorem times_one : Times R 1 i j ↔ R i j := by
  constructor
  · rintro ⟨k, h, rfl⟩
    exact h
  · intro h
    exact ⟨j, h, rfl⟩

theorem Times.add (h : Times R m i k) (h' : Times R n k j) : Times R (m + n) i j := by
  induction m generalizing i with
  | zero =>
    obtain rfl : i = k := h
    rwa [Nat.zero_add]
  | succ m ih =>
    obtain ⟨l, first, rest⟩ := h
    rw [Nat.succ_add]
    exact ⟨l, first, ih rest⟩

theorem times_add : Times R (m + n) i j ↔ ∃ k, Times R m i k ∧ Times R n k j := by
  constructor
  · intro h
    induction m generalizing i with
    | zero =>
      rw [Nat.zero_add] at h
      exact ⟨i, rfl, h⟩
    | succ m ih =>
      rw [Nat.succ_add] at h
      obtain ⟨l, first, rest⟩ := h
      obtain ⟨k, before, after⟩ := ih rest
      exact ⟨k, ⟨l, first, before⟩, after⟩
  · rintro ⟨k, before, after⟩
    exact before.add after

theorem times_succ : Times R (n + 1) i j ↔ ∃ k, Times R n i k ∧ R k j := by
  rw [times_add]
  exact exists_congr fun k => and_congr_right fun _ => times_one

theorem Times.le (forward : ∀ i j, R i j → i ≤ j) (h : Times R n i j) : i ≤ j := by
  induction n generalizing i with
  | zero => exact Nat.le_of_eq h
  | succ n ih =>
    obtain ⟨k, first, rest⟩ := h
    exact Nat.le_trans (forward i k first) (ih rest)

/-- Steps that stay in place can be left out. -/
theorem Times.shorten (forward : ∀ i j, R i j → i ≤ j) (h : Times R n i j) :
    ∃ k, k ≤ n ∧ k ≤ j - i ∧ Times R k i j := by
  induction n generalizing i with
  | zero => exact ⟨0, Nat.le_refl 0, Nat.zero_le _, h⟩
  | succ n ih =>
    obtain ⟨l, first, rest⟩ := h
    obtain ⟨k, few, short, times⟩ := ih rest
    have ahead := forward i l first
    have onward := Times.le forward rest
    by_cases still : i = l
    · subst still
      exact ⟨k, Nat.le_succ_of_le few, short, times⟩
    · exact ⟨k + 1, Nat.succ_le_succ few, by omega, l, first, times⟩

end

namespace Node

/-- As many rounds as a repetition asks for. -/
def Enough (least : Nat) (most : Option Nat) (n : Nat) : Prop :=
  least ≤ n ∧ ∀ m ∈ most, n ≤ max m least

/-- The node leads from one place of the text to another. -/
def Takes (text : List Char) : Node → Nat → Nat → Prop
  | empty, i, j => i = j
  | set s, i, j => j = i + 1 ∧ ∃ c, text[i]? = some c ∧ s.contains c = true
  | look l, i, j => i = j ∧ l.holdsBetween (text.take i).getLast? text[i]? = true
  | seq a b, i, j => ∃ k, a.Takes text i k ∧ b.Takes text k j
  | alt a b, i, j => a.Takes text i j ∨ b.Takes text i j
  | group _ _ a, i, j => a.Takes text i j
  | rep least most _ a, i, j => ∃ n, Enough least most n ∧ Times (a.Takes text) n i j

section

variable {text : List Char} {a b : Node} {i j : Nat}

theorem Takes.le (h : a.Takes text i j) : i ≤ j := by
  induction a generalizing i j with
  | empty => exact Nat.le_of_eq h
  | set s => exact h.1 ▸ Nat.le_succ i
  | look l => exact Nat.le_of_eq h.1
  | seq a b iha ihb =>
    obtain ⟨k, first, second⟩ := h
    exact Nat.le_trans (iha first) (ihb second)
  | alt a b iha ihb => exact h.elim iha ihb
  | group index name a ih => exact ih h
  | rep least most greedy a ih =>
    obtain ⟨n, -, rounds⟩ := h
    exact rounds.le fun i j => ih

theorem Takes.le_length (h : a.Takes text i j) (inside : i ≤ text.length) : j ≤ text.length := by
  induction a generalizing i j with
  | empty => exact h ▸ inside
  | set s =>
    obtain ⟨rfl, c, found, -⟩ := h
    exact (List.getElem?_eq_some_iff.1 found).1
  | look l => exact h.1 ▸ inside
  | seq a b iha ihb =>
    obtain ⟨k, first, second⟩ := h
    exact ihb second (iha first inside)
  | alt a b iha ihb => exact h.elim (iha · inside) (ihb · inside)
  | group index name a ih => exact ih h inside
  | rep least most greedy a ih =>
    obtain ⟨n, -, rounds⟩ := h
    clear * - rounds inside ih
    induction n generalizing i with
    | zero => exact rounds ▸ inside
    | succ n later =>
      obtain ⟨k, first, rest⟩ := rounds
      exact later (ih first inside) rest

theorem takes_append : (a.append b).Takes text i j ↔ ∃ k, a.Takes text i k ∧ b.Takes text k j := by
  fun_induction append a b generalizing i j with
  | case1 a => simp [Takes]
  | case2 a b c ih =>
    simp only [Takes, ih]
    constructor
    · rintro ⟨k, ⟨l, first, second⟩, third⟩
      exact ⟨l, first, k, second, third⟩
    · rintro ⟨l, first, k, second, third⟩
      exact ⟨k, ⟨l, first, second⟩, third⟩
  | case3 b => simp [Takes]
  | case4 => rfl

end

end Node

/-! ## The ways of a node -/

theorem Thread.In.getLast?_take {text : List Char} {t : Thread} (ht : t.In text) :
    (text.take t.index).getLast? = t.before := by
  obtain ⟨passed, whole, index, before⟩ := ht
  rw [before, whole, index, List.take_left']
  rfl

section

variable {text : List Char} {round : Thread → List Thread} {R : Nat → Nat → Prop}

/-- The ways of a round lead where the relation says. -/
def LeadsBy (text : List Char) (round : Thread → List Thread) (R : Nat → Nat → Prop) : Prop :=
  ∀ t, t.In text → (∀ u ∈ round t, u.In text) ∧ ∀ j, R t.index j ↔ ∃ u ∈ round t, u.index = j

theorem LeadsBy.exactly (h : LeadsBy text round R) (n : Nat) :
    LeadsBy text (roundsExactly round n) (Times R n) := by
  induction n with
  | zero =>
    intro t ht
    refine ⟨fun u hu => List.mem_singleton.1 hu ▸ ht, fun j => ?_⟩
    simp [Times, roundsExactly]
  | succ n ih =>
    intro t ht
    obtain ⟨stay, lead⟩ := h t ht
    constructor
    · intro u hu
      obtain ⟨v, hv, hu⟩ := List.mem_flatMap.1 hu
      exact (ih v (stay v hv)).1 u hu
    · intro j
      constructor
      · rintro ⟨k, first, rest⟩
        obtain ⟨v, hv, rfl⟩ := (lead k).1 first
        obtain ⟨u, hu, rfl⟩ := ((ih v (stay v hv)).2 j).1 rest
        exact ⟨u, List.mem_flatMap.2 ⟨v, hv, hu⟩, rfl⟩
      · rintro ⟨u, hu, rfl⟩
        obtain ⟨v, hv, hu⟩ := List.mem_flatMap.1 hu
        exact ⟨v.index, (lead _).2 ⟨v, hv, rfl⟩, ((ih v (stay v hv)).2 _).2 ⟨u, hu, rfl⟩⟩

theorem LeadsBy.upTo (h : LeadsBy text round R) (greedy : Bool) (n : Nat) :
    LeadsBy text (roundsUpTo round greedy n) fun i j => ∃ k ≤ n, Times R k i j := by
  induction n with
  | zero =>
    intro t ht
    refine ⟨fun u hu => List.mem_singleton.1 hu ▸ ht, fun j => ?_⟩
    simp [Times, roundsUpTo]
  | succ n ih =>
    intro t ht
    obtain ⟨stay, lead⟩ := h t ht
    constructor
    · intro u hu
      rcases mem_prefer.1 hu with hu | hu
      · obtain ⟨v, hv, hu⟩ := List.mem_flatMap.1 hu
        exact (ih v (stay v hv)).1 u hu
      · exact List.mem_singleton.1 hu ▸ ht
    · intro j
      constructor
      · rintro ⟨k, few, times⟩
        cases k with
        | zero => exact ⟨t, mem_prefer.2 (.inr (List.mem_singleton.2 rfl)), times⟩
        | succ k =>
          obtain ⟨l, first, rest⟩ := times
          obtain ⟨v, hv, rfl⟩ := (lead l).1 first
          obtain ⟨u, hu, rfl⟩ := ((ih v (stay v hv)).2 j).1 ⟨k, Nat.le_of_succ_le_succ few, rest⟩
          exact ⟨u, mem_prefer.2 (.inl (List.mem_flatMap.2 ⟨v, hv, hu⟩)), rfl⟩
      · rintro ⟨u, hu, rfl⟩
        rcases mem_prefer.1 hu with hu | hu
        · obtain ⟨v, hv, hu⟩ := List.mem_flatMap.1 hu
          obtain ⟨k, few, rest⟩ := ((ih v (stay v hv)).2 _).2 ⟨u, hu, rfl⟩
          exact ⟨k + 1, Nat.succ_le_succ few, v.index, (lead _).2 ⟨v, hv, rfl⟩, rest⟩
        · obtain rfl := List.mem_singleton.1 hu
          exact ⟨0, Nat.zero_le _, rfl⟩

end

namespace Node

/-- The ways through a repetition lead where rounds in a row do. The limit that the ways set to the
rounds of a loop leaves nothing out, as no loop has to stay in place. -/
theorem leadsBy_rep {text : List Char} {a : Node} (once : LeadsBy text a.ways (a.Takes text))
    (least : Nat) (most : Option Nat) (greedy : Bool) :
    LeadsBy text (rep least most greedy a).ways ((rep least most greedy a).Takes text) := by
  intro t ht
  refine ⟨fun u hu => ways_in hu ht, fun j => ?_⟩
  obtain ⟨stay, lead⟩ := once.exactly least t ht
  constructor
  · rintro ⟨n, ⟨enough, limit⟩, rounds⟩
    obtain ⟨further, rfl⟩ := Nat.exists_eq_add_of_le enough
    obtain ⟨k, required, rest⟩ := times_add.1 rounds
    obtain ⟨v, hv, rfl⟩ := (lead k).1 required
    have inside := (stay v hv).index_add
    obtain ⟨count, few, short, times⟩ := rest.shorten fun i j => Takes.le
    have within : j ≤ text.length := by
      refine Takes.le_length (a := rep least most greedy a) ⟨_, ⟨enough, limit⟩, rounds⟩ ?_
      have := ht.index_add
      omega
    have bounded : count ≤ most.elim (v.size + 1) (· - least) := by
      cases most with
      | none =>
        rw [Option.elim_none, Thread.size]
        omega
      | some m =>
        have := limit m rfl
        rw [Option.elim_some]
        omega
    obtain ⟨u, hu, rfl⟩ := ((once.upTo greedy _ v (stay v hv)).2 j).1 ⟨count, bounded, times⟩
    exact ⟨u, List.mem_flatMap.2 ⟨v, hv, hu⟩, rfl⟩
  · rintro ⟨u, hu, rfl⟩
    obtain ⟨v, hv, hu⟩ := List.mem_flatMap.1 hu
    obtain ⟨count, few, times⟩ := ((once.upTo greedy _ v (stay v hv)).2 _).2 ⟨u, hu, rfl⟩
    refine ⟨least + count, ⟨Nat.le_add_right _ _, fun m hm => ?_⟩,
      ((lead _).2 ⟨v, hv, rfl⟩).add times⟩
    obtain rfl := Option.mem_def.1 hm
    rw [Option.elim_some] at few
    omega

/-- The ways through a node lead where it takes the text. -/
theorem leadsBy_ways (text : List Char) (a : Node) : LeadsBy text a.ways (a.Takes text) := by
  induction a with
  | empty =>
    intro t ht
    refine ⟨fun u hu => ways_in hu ht, fun j => ?_⟩
    simp [ways, Takes]
  | set s =>
    intro t ht
    refine ⟨fun u hu => ways_in hu ht, fun j => ?_⟩
    have open_iff : (t.step s).isSome ↔ ∃ c, text[t.index]? = some c ∧ s.contains c = true := by
      rw [Thread.step_isSome, ht.getElem?]
    rw [Takes, ← open_iff, ways]
    constructor
    · rintro ⟨rfl, taken⟩
      obtain ⟨u, hu⟩ := Option.isSome_iff_exists.1 taken
      exact ⟨u, Option.mem_toList.2 hu, Thread.step_index hu⟩
    · rintro ⟨u, hu, rfl⟩
      have taken := Option.mem_toList.1 hu
      exact ⟨Thread.step_index taken, Option.isSome_of_mem taken⟩
  | look l =>
    intro t ht
    refine ⟨fun u hu => ways_in hu ht, fun j => ?_⟩
    rw [Takes, ht.getLast?_take, ht.getElem?, ways]
    change _ ∧ t.satisfies l = true ↔ _
    by_cases holds : t.satisfies l = true <;> simp [holds]
  | seq a b iha ihb =>
    intro t ht
    refine ⟨fun u hu => ways_in hu ht, fun j => ?_⟩
    obtain ⟨stay, lead⟩ := iha t ht
    constructor
    · rintro ⟨k, first, second⟩
      obtain ⟨v, hv, rfl⟩ := (lead k).1 first
      obtain ⟨u, hu, rfl⟩ := ((ihb v (stay v hv)).2 j).1 second
      exact ⟨u, List.mem_flatMap.2 ⟨v, hv, hu⟩, rfl⟩
    · rintro ⟨u, hu, rfl⟩
      obtain ⟨v, hv, hu⟩ := List.mem_flatMap.1 hu
      exact ⟨v.index, (lead _).2 ⟨v, hv, rfl⟩, ((ihb v (stay v hv)).2 _).2 ⟨u, hu, rfl⟩⟩
  | alt a b iha ihb =>
    intro t ht
    refine ⟨fun u hu => ways_in hu ht, fun j => ?_⟩
    rw [Takes, (iha t ht).2 j, (ihb t ht).2 j, ways]
    simp only [List.mem_append, or_and_right, exists_or]
  | group index name a ih =>
    intro t ht
    refine ⟨fun u hu => ways_in hu ht, fun j => ?_⟩
    rw [Takes, (ih t ht).2 j, ways]
    simp [Thread.bind]
  | rep least most greedy a ih => exact leadsBy_rep ih least most greedy

/-- The places to which the ways through a node lead. -/
theorem takes_iff {text : List Char} {a : Node} {t : Thread} (ht : t.In text) {j : Nat} :
    a.Takes text t.index j ↔ ∃ u ∈ a.ways t, u.index = j :=
  (leadsBy_ways text a t ht).2 j

end Node

end Routing.Regex
