import Routing.Regex.Concordance
import Routing.Regex.Thread

/-!
# Places in a text

A thread lies in a text if its index, the character before it and the rest after it fit the text. The
concordance of the text then answers for the thread.

* `Thread.In`: a thread at a place of a text
* `Concordance.contains_placesOf`: a place is listed for a set exactly if a step into the set is open there
* `Concordance.contains_placesWhere`: a place is listed for an assertion exactly if it holds there
-/
namespace Routing.Regex

open Routing.Unicode

/-! ## Threads -/

namespace Thread

/-- The thread stands in `text`: what it has passed and its rest make up the text. -/
def In (text : List Char) (t : Thread) : Prop :=
  ∃ passed, text = passed ++ t.rest ∧ t.index = passed.length ∧ t.before = passed.getLast?

/-- The thread before a text, from which matching starts. -/
def start (text : List Char) : Thread := ⟨0, none, text, []⟩

theorem start_in (text : List Char) : (start text).In text :=
  ⟨[], rfl, rfl, rfl⟩

theorem In.index_add {text : List Char} {t : Thread} (h : t.In text) :
    t.index + t.rest.length = text.length := by
  obtain ⟨passed, rfl, hi, -⟩ := h
  simp [hi]

theorem In.step {text : List Char} {t u : Thread} {s : CharSet} (h : t.In text)
    (hu : t.step s = some u) : u.In text := by
  obtain ⟨passed, ht, hi, -⟩ := h
  unfold Thread.step at hu
  split at hu
  · cases hu
  · rename_i c rest hr
    split at hu
    · cases hu
      exact ⟨passed ++ [c], by simp [ht, hr], by simp [hi], by simp⟩
    · cases hu

theorem In.bind {text : List Char} {t : Thread} (h : t.In text) (group start : Nat) :
    (t.bind group start).In text :=
  h

theorem In.getElem? {text : List Char} {t : Thread} (h : t.In text) :
    text[t.index]? = t.rest.head? := by
  obtain ⟨passed, ht, hi, -⟩ := h
  rw [ht, hi, List.getElem?_append_right (Nat.le_refl _), Nat.sub_self, List.head?_eq_getElem?]

/-- A thread in a text stands at the end exactly if it has nothing left. -/
theorem In.index_eq_length {text : List Char} {t : Thread} (h : t.In text) :
    t.index = text.length ↔ t.rest = [] := by
  have := h.index_add
  rw [← List.length_eq_zero_iff]
  omega

theorem In.before_eq_none {text : List Char} {t : Thread} (h : t.In text) :
    t.before = none ↔ t.index = 0 := by
  obtain ⟨passed, -, hi, hb⟩ := h
  simp [hi, hb]

theorem step_index {t u : Thread} {s : CharSet} (hu : t.step s = some u) :
    u.index = t.index + 1 := by
  unfold Thread.step at hu
  split at hu
  · cases hu
  · split at hu
    · cases hu
      rfl
    · cases hu

/-- A step takes the next character, which belongs to the set, and binds nothing. -/
theorem step_eq_some {t u : Thread} {s : CharSet} (hu : t.step s = some u) :
    ∃ c, t.rest = c :: u.rest ∧ s.contains c = true ∧ u.bindings = t.bindings := by
  unfold Thread.step at hu
  split at hu
  · cases hu
  · rename_i c rest hr
    split at hu
    · cases hu
      exact ⟨c, hr, ‹_›, rfl⟩
    · cases hu

/-- A step is open exactly if the next character belongs to the set. -/
theorem step_isSome {t : Thread} {s : CharSet} :
    (t.step s).isSome ↔ ∃ c, t.rest.head? = some c ∧ s.contains c = true := by
  unfold Thread.step
  split
  · rename_i hr
    simp [hr]
  · rename_i c rest hr
    by_cases hc : s.contains c <;> simp [hr, hc]

theorem not_contains_of_step_eq_none {t : Thread} {s : CharSet} (h : t.step s = none) {c : Char}
    {rest : List Char} (hr : t.rest = c :: rest) : s.contains c = false := by
  rw [← Bool.not_eq_true]
  intro hc
  have := step_isSome.2 ⟨c, by rw [hr]; rfl, hc⟩
  rw [h] at this
  cases this

end Thread

/-! ## Concordances -/

namespace Concordance

/-- The entries list the place `i` for the character `c`. -/
def Lists (entries : List (Char × Places)) (c : Char) (i : Nat) : Prop :=
  ∃ s, (c, s) ∈ entries ∧ s.contains i = true

theorem lists_cons (e d : Char) (s : Places) (rest : List (Char × Places)) (j : Nat) :
    Lists ((e, s) :: rest) d j ↔ (d = e ∧ s.contains j = true) ∨ Lists rest d j := by
  simp only [Lists, List.mem_cons, Prod.mk.injEq]
  constructor
  · rintro ⟨s', ⟨rfl, rfl⟩ | h, hj⟩
    · exact .inl ⟨rfl, hj⟩
    · exact .inr ⟨s', h, hj⟩
  · rintro (⟨rfl, hj⟩ | ⟨s', h, hj⟩)
    · exact ⟨s, .inl ⟨rfl, rfl⟩, hj⟩
    · exact ⟨s', .inr h, hj⟩

theorem lists_nil (d : Char) (j : Nat) : ¬ Lists [] d j := by
  simp [Lists]

theorem lists_enter (entries : List (Char × Places)) (c d : Char) (i j : Nat) :
    Lists (enter c i entries) d j ↔ Lists entries d j ∨ d = c ∧ j = i := by
  induction entries with
  | nil => simp [enter, lists_cons, lists_nil, eq_comm (a := i)]
  | cons entry rest ih =>
    obtain ⟨e, s⟩ := entry
    simp only [enter]
    by_cases he : e = c
    · subst he
      simp only [if_true, lists_cons, Places.contains_insert, Bool.or_eq_true, beq_iff_eq,
        eq_comm (a := i)]
      grind
    · simp only [he, if_false, lists_cons, ih]
      grind

/-- Reading on from a place enters each later character at its own place. -/
theorem lists_foldl (text : List Char) (n : Nat) (entries : List (Char × Places)) (d : Char)
    (j : Nat) :
    let (size, after) := text.foldl (fun (i, es) c => (i + 1, enter c i es)) (n, entries)
    size = n + text.length ∧
      (Lists after d j ↔ Lists entries d j ∨ n ≤ j ∧ text[j - n]? = some d) := by
  induction text generalizing n entries with
  | nil => simp
  | cons c rest ih =>
    have next := ih (n + 1) (enter c n entries)
    simp only [List.foldl_cons] at next ⊢
    obtain ⟨hs, hl⟩ := next
    refine ⟨by rw [hs, List.length_cons]; omega, ?_⟩
    rw [hl, lists_enter]
    constructor
    · rintro ((h | ⟨rfl, rfl⟩) | ⟨hj, h⟩)
      · exact .inl h
      · exact .inr ⟨Nat.le_refl _, by simp⟩
      · refine .inr ⟨by omega, ?_⟩
        rw [show j - n = (j - (n + 1)) + 1 by omega]
        simpa using h
    · rintro (h | ⟨hj, h⟩)
      · exact .inl (.inl h)
      · by_cases here : j = n
        · subst here
          simp only [Nat.sub_self, List.getElem?_cons_zero, Option.some.injEq] at h
          exact .inl (.inr ⟨h.symm, rfl⟩)
        · refine .inr ⟨by omega, ?_⟩
          rw [show j - n = (j - (n + 1)) + 1 by omega] at h
          simpa using h

@[simp]
theorem size_ofText (text : List Char) : (ofText text).size = text.length := by
  have := (lists_foldl text 0 [] 'a' 0).1
  simpa [ofText] using this

@[simp]
theorem text_ofText (text : List Char) : (ofText text).text = text :=
  rfl

theorem lists_ofText (text : List Char) (c : Char) (i : Nat) :
    Lists (ofText text).entries c i ↔ text[i]? = some c := by
  have := (lists_foldl text 0 [] c i).2
  simpa [ofText, Lists] using this

theorem contains_foldl_union (s : CharSet) (entries : List (Char × Places)) (found : Places)
    (i : Nat) :
    (entries.foldl (fun found (c, here) => if s.contains c then found.union here else found)
        found).contains i = true ↔
      found.contains i = true ∨ ∃ c, s.contains c = true ∧ Lists entries c i := by
  induction entries generalizing found with
  | nil => simp [lists_nil]
  | cons entry rest ih =>
    obtain ⟨e, here⟩ := entry
    rw [List.foldl_cons, ih]
    simp only [lists_cons, and_or_left, exists_or, ← and_assoc, ← or_assoc]
    apply or_congr_left
    by_cases he : s.contains e
    · simp only [he, if_true, Places.contains_union, Bool.or_eq_true]
      apply or_congr_right
      constructor
      · intro h
        exact ⟨e, ⟨he, rfl⟩, h⟩
      · rintro ⟨c, ⟨-, rfl⟩, h⟩
        exact h
    · simp only [he, Bool.false_eq_true, if_false]
      constructor
      · exact .inl
      · rintro (h | ⟨c, ⟨hc, rfl⟩, -⟩)
        · exact h
        · exact absurd hc he

/-- The places of a set are those from which a step into it is open. -/
theorem contains_placesOf {text : List Char} {t : Thread} (ht : t.In text) (s : CharSet) :
    ((ofText text).placesOf s).contains t.index = true ↔ (t.step s).isSome := by
  unfold placesOf
  rw [contains_foldl_union, Thread.step_isSome]
  simp only [Places.contains_empty, Bool.false_eq_true, false_or, lists_ofText, ht.getElem?]
  exact exists_congr fun c => and_comm

/-- From the place behind `passed` on, the listing looks at each cut of the rest. -/
theorem contains_placesWhereFrom (l : Look) (passed text : List Char) (found : Places) (j : Nat) :
    (placesWhereFrom l passed.length passed.getLast? text found).contains j = true ↔
      found.contains j = true ∨ ∃ more rest, text = more ++ rest ∧ j = (passed ++ more).length ∧
        l.holdsBetween (passed ++ more).getLast? rest.head? = true := by
  induction text generalizing passed found with
  | nil =>
    have only : (∃ more rest, ([] : List Char) = more ++ rest ∧ j = (passed ++ more).length ∧
          l.holdsBetween (passed ++ more).getLast? rest.head? = true) ↔
        j = passed.length ∧ l.holdsBetween passed.getLast? none = true := by
      constructor
      · rintro ⟨more, rest, h, hj, hl⟩
        obtain ⟨rfl, rfl⟩ := List.append_eq_nil_iff.1 h.symm
        rw [List.append_nil] at hj hl
        exact ⟨hj, hl⟩
      · rintro ⟨rfl, hl⟩
        exact ⟨[], [], rfl, by rw [List.append_nil], by rwa [List.append_nil]⟩
    rw [only, placesWhereFrom]
    by_cases h : l.holdsBetween passed.getLast? none
    · simp [h, eq_comm (a := passed.length)]
    · simp [h]
  | cons c rest ih =>
    have first : (∃ more later, c :: rest = more ++ later ∧ j = (passed ++ more).length ∧
          l.holdsBetween (passed ++ more).getLast? later.head? = true) ↔
        (j = passed.length ∧ l.holdsBetween passed.getLast? (some c) = true) ∨
        ∃ more later, rest = more ++ later ∧ j = (passed ++ [c] ++ more).length ∧
          l.holdsBetween (passed ++ [c] ++ more).getLast? later.head? = true := by
      constructor
      · rintro ⟨more, later, h, hj, hl⟩
        cases more with
        | nil =>
          cases h
          rw [List.append_nil] at hj hl
          exact .inl ⟨hj, hl⟩
        | cons d more =>
          obtain ⟨rfl, rfl⟩ := List.cons.inj h
          exact .inr ⟨more, later, rfl, by simpa using hj, by simpa using hl⟩
      · rintro (⟨rfl, hl⟩ | ⟨more, later, rfl, hj, hl⟩)
        · exact ⟨[], c :: rest, rfl, by rw [List.append_nil], by rwa [List.append_nil]⟩
        · exact ⟨c :: more, later, rfl, by simpa using hj, by simpa using hl⟩
    have next := ih (passed ++ [c])
    simp only [List.length_append, List.length_singleton, List.getLast?_append,
      List.getLast?_singleton, Option.some_or] at next
    rw [first, placesWhereFrom, next, ← or_assoc]
    simp only [List.length_append, List.length_singleton, List.getLast?_append,
      List.getLast?_singleton, Option.some_or]
    apply or_congr_left
    by_cases h : l.holdsBetween passed.getLast? (some c)
    · simp [h, eq_comm (a := passed.length)]
    · simp [h]

/-- The places of an assertion are those where it holds. -/
theorem contains_placesWhere {text : List Char} {t : Thread} (ht : t.In text) (l : Look) :
    ((ofText text).placesWhere l).contains t.index = t.satisfies l := by
  rw [Bool.eq_iff_iff]
  have listed := contains_placesWhereFrom l [] text .empty t.index
  simp only [List.length_nil, List.getLast?_nil, Places.contains_empty, Bool.false_eq_true,
    false_or, List.nil_append] at listed
  obtain ⟨passed, text_eq, hi, hb⟩ := ht
  unfold placesWhere
  rw [text_ofText, listed]
  constructor
  · rintro ⟨passed', rest, h, hj, hl⟩
    obtain ⟨rfl, rfl⟩ := List.append_inj (text_eq.symm.trans h) (by omega)
    rwa [Thread.satisfies, hb]
  · intro h
    refine ⟨passed, t.rest, text_eq, hi, ?_⟩
    rwa [Thread.satisfies, hb] at h

end Concordance

end Routing.Regex
