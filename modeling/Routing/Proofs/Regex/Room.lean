import Routing.Regex.Size
import Routing.Proofs.Regex.Settled

/-!
# The room that a text takes

A node that spells out a text takes at least one state for each character.

* `Node.fits_append_eq_false`: a text too long for a limit does not fit, whatever stands behind it
* `Node.fits_chosen_eq_false`: nor does it as an alternative to a group
-/
namespace Routing.Regex

open Routing.Unicode

namespace Node

/-- A sequence of single characters, and of assertions among them. -/
def isText : Node → Bool
  | empty | look _ => true
  | set s => s.single?.isSome
  | seq a b => a.isText && b.isText
  | _ => false

/-- How many characters a text has. -/
def letters : Node → Nat
  | set _ => 1
  | seq a b => a.letters + b.letters
  | _ => 0

theorem isText_append (a b : Node) : (a.append b).isText = (a.isText && b.isText) := by
  fun_induction append a b with
  | case1 a => simp [isText]
  | case2 a b c ih => simp only [isText, ih, Bool.and_assoc]
  | case3 b => simp [isText]
  | case4 => rfl

theorem letters_append (a b : Node) : (a.append b).letters = a.letters + b.letters := by
  fun_induction append a b with
  | case1 a => simp [letters]
  | case2 a b c ih => simp only [letters, ih, Nat.add_assoc]
  | case3 b => simp [letters]
  | case4 => rfl

theorem length_encodeChar_pos (c : Char) : 0 < (Utf8.encodeChar c).length := by
  unfold Utf8.encodeChar Utf8.encodePoint
  split <;> [simp; split <;> [simp; split <;> simp]]

/-- A text takes at least a state for each character, whatever has been built before. -/
theorem letters_le_tally {a : Node} (h : a.isText = true) (limit : Nat) (d : Direction) (t : Tally) :
    t.bytes + 32 * a.letters ≤ ((a.shape false).tally limit d t).bytes := by
  induction a generalizing t with
  | empty | look =>
    simp only [letters, shape, Shape.tally, Tally.bytes, Tally.add]
    omega
  | set s =>
    obtain ⟨c, hc⟩ := Option.isSome_iff_exists.1 h
    have size := length_encodeChar_pos c
    simp only [letters, shape, setShape, hc, Shape.tally, Tally.bytes, Tally.add]
    omega
  | seq a b iha ihb =>
    rw [isText, Bool.and_eq_true] at h
    simp only [letters, shape, Shape.tally]
    cases d with
    | forward =>
      have first := iha h.1 t
      have second := ihb h.2 (((a.shape false).tally limit .forward t).add 0
        ((a.shape false).linkRoom .forward))
      simp only [Tally.bytes, Tally.add] at first second ⊢
      omega
    | backward =>
      have first := ihb h.2 t
      have second := iha h.1 (((b.shape false).tally limit .backward t).add 0
        ((b.shape false).linkRoom .backward))
      simp only [Tally.bytes, Tally.add] at first second ⊢
      omega
  | alt | group | rep => cases h

theorem letters_le_roomBound {a : Node} (h : a.isText = true) : 32 * a.letters ≤ a.roomBound := by
  induction a with
  | empty | look => exact Nat.zero_le _
  | set s =>
    simp only [letters, roomBound]
    omega
  | seq a b iha ihb =>
    rw [isText, Bool.and_eq_true] at h
    have first := iha h.1
    have second := ihb h.2
    simp only [letters, roomBound]
    omega
  | alt | group | rep => cases h

theorem roomBound_append (a b : Node) :
    (a.append b).roomBound ≤ a.roomBound + b.roomBound := by
  fun_induction append a b with
  | case1 a => exact Nat.le_add_right _ _
  | case2 a b c ih =>
    simp only [roomBound]
    omega
  | case3 b => exact Nat.le_add_left _ _
  | case4 => exact Nat.le_refl _

/-! ### Texts with something behind them -/

theorem append_empty (a : Node) : a.append empty = a := by
  cases a <;> rfl

theorem empty_append (a : Node) : empty.append a = a := by
  induction a with
  | seq b c ih _ => rw [append, ih]
  | _ => rfl

theorem append_eq_seq {a b : Node} (ha : a ≠ empty) (hb : b ≠ empty) (single : ∀ c d, b ≠ seq c d) :
    a.append b = seq a b := by
  fun_cases append a b with
  | case1 a => exact absurd rfl hb
  | case2 a b c => exact absurd rfl (single b c)
  | case3 b => exact absurd rfl ha
  | case4 => rfl

theorem append_assoc (a b c : Node) : a.append (b.append c) = (a.append b).append c := by
  fun_induction append b c with
  | case1 b => rw [append_empty]
  | case2 b c d ih => simp only [append, ih]
  | case3 c => rw [append_empty]
  | case4 b c hc single hb =>
    rw [append_eq_seq (append_ne_empty (.inr hb)) hc single, append]

/-- Read backward, a text comes last, so that it takes its states whatever stands behind it. -/
theorem letters_le_tally_append {a : Node} (h : a.isText = true) (b : Node) (limit : Nat) (t : Tally) :
    32 * a.letters ≤ (((a.append b).shape false).tally limit .backward t).bytes := by
  fun_induction append a b generalizing t with
  | case1 a => exact Nat.le_trans (Nat.le_add_left ..) (letters_le_tally h limit .backward t)
  | case2 a b c ih => exact ih h _
  | case3 b => exact Nat.zero_le _
  | case4 a b => exact Nat.le_trans (Nat.le_add_left ..) (letters_le_tally h limit .backward _)

theorem letters_le_roomBound_append {a : Node} (h : a.isText = true) (b : Node) :
    32 * a.letters ≤ (a.append b).roomBound := by
  fun_induction append a b with
  | case1 a => exact letters_le_roomBound h
  | case2 a b c ih => exact Nat.le_trans (ih h) (Nat.le_add_right ..)
  | case3 b => exact Nat.zero_le _
  | case4 a b => exact Nat.le_trans (letters_le_roomBound h) (Nat.le_add_right ..)

/-- A text that is too long for a limit does not fit, whatever stands behind it. -/
theorem fits_append_eq_false {a : Node} (h : a.isText = true) (b : Node) {limit : Nat}
    (long : limit < 32 * a.letters) : (a.append b).fits limit = false := by
  have bound := letters_le_roomBound_append h b
  have size : limit < (a.append b).size limit .backward := by
    have states := letters_le_tally_append h b limit
      (if (a.append b).stopsAtStop then ⟨1, 0⟩ else ⟨3, Tally.transition + 2 * Tally.way⟩)
    simp only [Node.size, Tally.bytes, Tally.add] at states ⊢
    omega
  rw [fits, sizeBound, Bool.or_eq_false_iff, Bool.and_eq_false_iff]
  simp only [decide_eq_false_iff_not]
  exact ⟨by omega, .inl (by omega)⟩

/-! ### Texts behind a choice -/

section

variable (i j : Nat) (name name' : Option String) {a b : Node}

/-- A choice that begins with a group stays as it is. -/
theorem settled_alt_group (plain : b.isAlt = false) :
    (alt (group i name a) b).settled = alt (group i name a) b := by
  have branches : (alt (group i name a) b).branches = [group i name a, b] := by
    rw [Node.branches, branches_of_not_alt plain]
    rfl
  have merged : merged? [group i name a, b] = none := rfl
  have shared : shared? [group i name a, b] = none := by
    have atoms : (group i name a).atoms = [[group i name a]] := rfl
    simp [shared?, atoms]
  rw [settled_of_alt rfl, branches, merged, shared]
  rfl

/-- A group with two branches between the anchors, the first branch a group itself. -/
def chosen (a b : Node) : Node :=
  seq (seq (look .start) (group i name (alt (group j name' a) b))) (look .stop)

/-- Read forward, the last branch comes last, so that a text there takes its states whatever the other one is. -/
theorem fits_chosen_eq_false (text : b.isText = true) {limit : Nat} (long : limit < 32 * b.letters) :
    (chosen i j name name' a b).fits limit = false := by
  have bound : 32 * b.letters ≤ (chosen i j name name' a b).roomBound := by
    have branch := letters_le_roomBound text
    simp only [chosen, roomBound]
    omega
  let inner := (alt (group j name' a) b).shape false
  have branch (t : Tally) : 32 * b.letters ≤ (inner.tally limit .forward t).bytes := by
    have states := letters_le_tally text limit .forward ((Shape.group (a.shape false)).tally limit .forward t)
    have shape : inner = .alt (.group (a.shape false)) (b.shape false) := rfl
    rw [shape, Shape.tally]
    · simp only [Tally.bytes, Tally.add] at states ⊢
      omega
    · exact fun _ _ => Shape.noConfusion
  have size : limit < (chosen i j name name' a b).size limit .forward := by
    have along (t : Tally) : ∃ t', ((chosen i j name name' a b).shape false).tally limit .forward t =
        (((inner.tally limit .forward t').add 1 (inner.linkRoom .forward)).add 0
          ((Shape.seq (.plain 1 0) (.group inner)).linkRoom .forward)).add 1 0 := ⟨_, rfl⟩
    obtain ⟨t, whole⟩ := along ((if (chosen i j name name' a b).startsAtStart then ⟨1, 0⟩
      else ⟨3, Tally.transition + 2 * Tally.way⟩ : Tally).add 1 0)
    have states := branch t
    rw [Node.size]
    simp only [whole]
    simp only [Tally.bytes, Tally.add] at states ⊢
    omega
  rw [fits, sizeBound, Bool.or_eq_false_iff, Bool.and_eq_false_iff]
  simp only [decide_eq_false_iff_not]
  exact ⟨by omega, .inr (by omega)⟩

end

end Node

end Routing.Regex
