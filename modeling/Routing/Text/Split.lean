/-!
# The first occurrence of a mark

* `splitFirst`: a text before and after the first place where a mark stands
* `removeFirst`: a text without the first occurrence of a mark
* `secondPiece`: what stands between the first mark and the next
* `splitFirst_append`: putting the mark back between the parts gives the text again
* `removeFirst_append`, `secondPiece_append`: a text that starts with the mark
-/
namespace Routing.Text

/-- The text before and after the first place where `mark` stands. -/
def splitFirst (mark : List Char) : List Char → Option (List Char × List Char)
  | [] => if mark.isEmpty then some ([], []) else none
  | c :: rest =>
    if mark.isPrefixOf (c :: rest) then some ([], (c :: rest).drop mark.length)
    else (splitFirst mark rest).map fun (before, after) => (c :: before, after)

theorem splitFirst_append {mark text before after : List Char}
    (h : splitFirst mark text = some (before, after)) : text = before ++ mark ++ after := by
  induction text generalizing before after with
  | nil =>
    simp only [splitFirst, List.isEmpty_iff, Option.ite_none_right_eq_some] at h
    obtain ⟨rfl, h⟩ := h
    simp_all
  | cons c rest ih =>
    rw [splitFirst] at h
    split at h
    next here =>
      obtain ⟨tail, ht⟩ := List.isPrefixOf_iff_prefix.1 here
      rw [← ht, List.drop_left] at h
      simp only [Option.some.injEq, Prod.mk.injEq] at h
      obtain ⟨rfl, rfl⟩ := h
      exact ht.symm
    next =>
      obtain ⟨⟨b, a⟩, hr, he⟩ := Option.map_eq_some_iff.1 h
      simp only [Prod.mk.injEq] at he
      obtain ⟨rfl, rfl⟩ := he
      rw [ih hr]
      rfl

/-- A text that starts with the mark has nothing before the first one. -/
theorem splitFirst_of_front (mark rest : List Char) :
    splitFirst mark (mark ++ rest) = some ([], rest) := by
  cases front : mark ++ rest with
  | nil =>
    obtain ⟨rfl, rfl⟩ := List.append_eq_nil_iff.1 front
    rfl
  | cons c tail =>
    have here : mark.isPrefixOf (c :: tail) = true :=
      List.isPrefixOf_iff_prefix.2 ⟨rest, front⟩
    rw [splitFirst, if_pos here, ← front, List.drop_left]

theorem splitFirst_eq_none {mark text : List Char} (h : ¬ mark <:+: text) :
    splitFirst mark text = none := by
  cases found : splitFirst mark text with
  | none => rfl
  | some parts => exact absurd ⟨parts.1, parts.2, (splitFirst_append found).symm⟩ h

/-- The text without the first occurrence of `mark`, wherever it stands. -/
def removeFirst (mark text : List Char) : List Char :=
  match splitFirst mark text with
  | some (before, after) => before ++ after
  | none => text

/-- What stands after the first mark and before the next one; nothing if there is no mark. -/
def secondPiece (mark text : List Char) : List Char :=
  match splitFirst mark text with
  | none => []
  | some (_, rest) =>
    match splitFirst mark rest with
    | some (piece, _) => piece
    | none => rest

theorem removeFirst_append (mark rest : List Char) : removeFirst mark (mark ++ rest) = rest := by
  rw [removeFirst, splitFirst_of_front]
  rfl

/-- If no further mark follows, all that stands behind the first one is the piece. -/
theorem secondPiece_append {mark rest : List Char} (single : ¬ mark <:+: rest) :
    secondPiece mark (mark ++ rest) = rest := by
  simp only [secondPiece, splitFirst_of_front, splitFirst_eq_none single]

end Routing.Text
