import Routing.Proofs.Regex.Settled
import Routing.Proofs.Regex.Taking

/-!
# A slash behind a text

A node is asked for the places of a text with and without a slash behind it. Only an assertion that the
text or a line ends can tell the two apart, since a slash belongs to no word and ends no line.

* `Node.Takes.without_slash`: what is taken of the text with the slash is taken of the text without it
* `Node.Takes.with_slash`: and the other way round, if no end is asked for
-/
namespace Routing.Regex

open Routing.Unicode

theorem isWordAt_slash (unicode : Bool) : isWordAt unicode (some '/') = false := by
  cases unicode <;> decide +kernel

namespace Look

/-- In front of a slash an assertion holds if it holds at the end, unless it asks for one. -/
theorem holdsBetween_slash (before : Option Char) (l : Look) :
    l.holdsBetween before (some '/') = (!l.isEnd && l.holdsBetween before none) := by
  have word : isWordAt true none = false ∧ isWordAt false none = false := ⟨rfl, rfl⟩
  cases l with
  | boundary u | notBoundary u | wordStart u | wordEnd u | wordStartHalf u | wordEndHalf u =>
    cases u <;> simp [holdsBetween, isEnd, isWordAt_slash, word]
  | lineStartCrlf => rfl
  | _ => simp [holdsBetween, isEnd]

/-- The assertion holds at a place of a text. -/
def HoldsAt (text : List Char) (i : Nat) (l : Look) : Prop :=
  l.holdsBetween (text.take i).getLast? text[i]? = true

theorem holdsAt_append {text : List Char} {i : Nat} (inside : i ≤ text.length) (l : Look) :
    l.HoldsAt (text ++ ['/']) i ↔ (i = text.length → l.isEnd = false) ∧ l.HoldsAt text i := by
  unfold HoldsAt
  rw [List.take_append_of_le_length inside]
  rcases Nat.lt_or_eq_of_le inside with within | rfl
  · rw [List.getElem?_append_left within]
    simp [Nat.ne_of_lt within]
  · simp [holdsBetween_slash]

end Look

/-- Steps in a row are steps of another relation, if each of them is that leads no further. -/
theorem Times.imp {R S : Nat → Nat → Prop} {n i j : Nat} (forward : ∀ i j, R i j → i ≤ j)
    (h : Times R n i j) (imp : ∀ k l, l ≤ j → R k l → S k l) : Times S n i j := by
  induction n generalizing i with
  | zero => exact h
  | succ n ih =>
    obtain ⟨k, first, rest⟩ := h
    exact ⟨k, imp i k (rest.le forward) first, ih rest⟩

namespace Node

/-- What a node takes of one text it takes of another one, as far as the characters are the same and the
assertions hold there. With `ends` these may ask for an end. -/
theorem Takes.carry {text text' : List Char} {last : Nat} {ends : Bool}
    (chars : ∀ i < last, text[i]? = text'[i]?)
    (looks : ∀ l : Look, (l.isEnd = true → ends = true) → ∀ i ≤ last, l.HoldsAt text i →
      l.HoldsAt text' i)
    {a : Node} (asked : a.seesEnd = true → ends = true) {i j : Nat} (h : a.Takes text i j)
    (inside : j ≤ last) :
    a.Takes text' i j := by
  induction a generalizing i j with
  | empty => exact h
  | set s =>
    obtain ⟨rfl, found⟩ := h
    exact ⟨rfl, chars i inside ▸ found⟩
  | look l =>
    obtain ⟨rfl, holds⟩ := h
    exact ⟨rfl, looks l asked i inside holds⟩
  | seq a b iha ihb =>
    have first (h : a.seesEnd = true) := asked (Bool.or_eq_true_iff.2 (.inl h))
    have second (h : b.seesEnd = true) := asked (Bool.or_eq_true_iff.2 (.inr h))
    obtain ⟨k, ha, hb⟩ := h
    exact ⟨k, iha first ha (Nat.le_trans hb.le inside), ihb second hb inside⟩
  | alt a b iha ihb =>
    have first (h : a.seesEnd = true) := asked (Bool.or_eq_true_iff.2 (.inl h))
    have second (h : b.seesEnd = true) := asked (Bool.or_eq_true_iff.2 (.inr h))
    exact h.imp (iha first · inside) (ihb second · inside)
  | group index name a ih => exact ih asked h inside
  | rep least most greedy a ih =>
    obtain ⟨n, enough, times⟩ := h
    refine ⟨n, enough, times.imp (fun i j => Takes.le) fun k l near leads => ?_⟩
    exact ih asked leads (Nat.le_trans near inside)

variable {text : List Char} {a : Node} {i j : Nat}

theorem Takes.without_slash (h : a.Takes (text ++ ['/']) i j) (inside : j ≤ text.length) :
    a.Takes text i j := by
  refine h.carry (fun i within => List.getElem?_append_left within) ?_ (fun _ => rfl) inside
  intro l _ i within holds
  exact ((l.holdsAt_append within).1 holds).2

theorem Takes.with_slash (none_ : a.seesEnd = false) (h : a.Takes text i j) (inside : j ≤ text.length) :
    a.Takes (text ++ ['/']) i j := by
  have asked : a.seesEnd = true → false = true := by simp [none_]
  refine h.carry (fun i within => (List.getElem?_append_left within).symm) ?_ asked inside
  intro l asked i within holds
  have noEnd : l.isEnd = false := Bool.eq_false_iff.2 fun end_ => nomatch asked end_
  exact (l.holdsAt_append within).2 ⟨fun _ => noEnd, holds⟩

end Node

end Routing.Regex
