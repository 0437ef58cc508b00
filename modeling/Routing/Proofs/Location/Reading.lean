import Mathlib.Data.List.Infix
import Routing.Location.Path

/-!
# What a host shows

A path is read behind the first mark that stands anywhere in the pathname or in the fragment, not only behind
one at the front.

* `Text.FirstMark`: a mark that stands in a text, and nowhere earlier
* `Text.splitFirst_eq_some_iff`, `Text.splitFirst_eq_none_iff`: a text is cut at its first mark
* `Location.path_drops_first`: the path is what is left without the first mark
* `Location.mark_within`: a mark inside is taken for one at the front
-/
namespace Routing

namespace Text

variable {mark text before after : List Char}

/-- The mark stands in the text behind `before`, and nowhere earlier. -/
structure FirstMark (mark before after text : List Char) : Prop where
  here : text = before ++ mark ++ after
  first : ¬ mark <:+: before ++ mark.dropLast

/-- A mark does not fit into a text that is shorter. -/
theorem not_infix_dropLast (nonempty : mark ≠ []) : ¬ mark <:+: mark.dropLast := by
  intro inside
  have length := inside.length_le
  have positive := List.length_pos_of_ne_nil nonempty
  rw [List.length_dropLast] at length
  omega

/-- What a mark at the front would need stands in front of the last character of a later one. -/
theorem not_prefix_of_firstMark {c : Char} (first : ¬ mark <:+: c :: before ++ mark.dropLast) :
    ¬ mark <+: c :: before ++ mark ++ after := by
  intro front
  have short : c :: before ++ mark.dropLast <+: c :: before ++ mark ++ after := by
    rw [List.append_assoc]
    exact (List.prefix_append_right_inj _).2 ((List.dropLast_prefix mark).trans (List.prefix_append ..))
  have room : mark.length ≤ (c :: before ++ mark.dropLast).length := by
    simp only [List.length_append, List.length_cons, List.length_dropLast]
    omega
  exact first (List.prefix_of_prefix_length_le front short room).isInfix

theorem splitFirst_of_firstMark (h : FirstMark mark before after text) :
    splitFirst mark text = some (before, after) := by
  obtain ⟨rfl, first⟩ := h
  induction before with
  | nil => exact splitFirst_of_front mark after
  | cons c before ih =>
    have later : ¬ mark.isPrefixOf (c :: (before ++ mark ++ after)) = true := by
      intro front
      exact not_prefix_of_firstMark first (List.isPrefixOf_iff_prefix.1 front)
    have rest := ih fun inside => first (inside.trans (List.suffix_cons c _).isInfix)
    change splitFirst mark (c :: (before ++ mark ++ after)) = _
    rw [splitFirst, if_neg later, rest]
    rfl

theorem firstMark_of_splitFirst (nonempty : mark ≠ []) (h : splitFirst mark text = some (before, after)) :
    FirstMark mark before after text := by
  refine ⟨splitFirst_append h, ?_⟩
  induction text generalizing before after with
  | nil =>
    rw [splitFirst, if_neg (by simpa using nonempty)] at h
    cases h
  | cons c rest ih =>
    rw [splitFirst] at h
    split at h
    · obtain ⟨rfl, -⟩ := Prod.mk.inj (Option.some.inj h)
      exact not_infix_dropLast nonempty
    · next later =>
      obtain ⟨⟨b, a⟩, cut, same⟩ := Option.map_eq_some_iff.1 h
      obtain ⟨rfl, rfl⟩ := Prod.mk.inj same
      intro inside
      rw [List.cons_append, List.infix_cons_iff] at inside
      obtain front | inside := inside
      · -- the characters up to the last one of the mark found are in the text
        have within : c :: (b ++ mark.dropLast) <+: c :: rest := by
          rw [splitFirst_append cut, List.append_assoc, List.prefix_cons_inj]
          exact (List.prefix_append_right_inj _).2
            ((List.dropLast_prefix mark).trans (List.prefix_append ..))
        exact later (List.isPrefixOf_iff_prefix.2 (front.trans within))
      · exact ih cut inside

/-- A text is cut at the first mark in it. -/
theorem splitFirst_eq_some_iff (nonempty : mark ≠ []) :
    splitFirst mark text = some (before, after) ↔ FirstMark mark before after text :=
  ⟨firstMark_of_splitFirst nonempty, splitFirst_of_firstMark⟩

theorem splitFirst_eq_none_iff : splitFirst mark text = none ↔ ¬ mark <:+: text := by
  refine ⟨fun none => ?_, splitFirst_eq_none⟩
  rintro ⟨before, after, rfl⟩
  induction before with
  | nil =>
    rw [List.nil_append, splitFirst_of_front] at none
    cases none
  | cons c before ih =>
    change splitFirst mark (c :: (before ++ mark ++ after)) = _ at none
    rw [splitFirst] at none
    split at none
    · cases none
    · exact ih (Option.map_eq_none_iff.1 none)

theorem removeFirst_of_firstMark (h : FirstMark mark before after text) :
    removeFirst mark text = before ++ after := by
  rw [removeFirst, splitFirst_of_firstMark h]

/-- Only a text without the mark stays as it is. -/
theorem removeFirst_eq_self_iff (nonempty : mark ≠ []) :
    removeFirst mark text = text ↔ ¬ mark <:+: text := by
  constructor
  · rintro same ⟨before, after, split⟩
    have here : mark <:+: text := ⟨before, after, split⟩
    cases cut : splitFirst mark text with
    | none => exact splitFirst_eq_none_iff.1 cut here
    | some parts =>
      have shorter := congrArg List.length same
      rw [removeFirst_of_firstMark ((splitFirst_eq_some_iff nonempty).1 cut),
        ((splitFirst_eq_some_iff nonempty).1 cut).here] at shorter
      have positive := List.length_pos_of_ne_nil nonempty
      simp only [List.length_append] at shorter
      omega
  · intro absent
    rw [removeFirst, splitFirst_eq_none absent]

/-- What stands between the first mark and the next. -/
theorem secondPiece_of_firstMark {rest piece more : List Char} (h : FirstMark mark before rest text)
    (next : FirstMark mark piece more rest) : secondPiece mark text = piece := by
  simp only [secondPiece, splitFirst_of_firstMark h, splitFirst_of_firstMark next]

/-- What stands behind the only mark. -/
theorem secondPiece_of_lastMark {rest : List Char} (h : FirstMark mark before rest text)
    (last : ¬ mark <:+: rest) : secondPiece mark text = rest := by
  simp only [secondPiece, splitFirst_of_firstMark h, splitFirst_eq_none last]

theorem secondPiece_of_not_infix (absent : ¬ mark <:+: text) : secondPiece mark text = [] := by
  simp only [secondPiece, splitFirst_eq_none absent]

end Text

namespace Location

variable {L : Type} [Host L]

open Text (FirstMark)

/-- A pathname is read without the first root in it. -/
structure ReadsPathname (root pathname path : String) : Prop where
  front : ∀ rest, pathname = root ++ rest → path = rest
  first : ∀ before after, FirstMark root.toList before after pathname.toList →
    path = String.ofList (before ++ after)
  unchanged : path = pathname ↔ ¬ root.toList <:+: pathname.toList

/-- A fragment is read from its first marker to the next one, or to its end. -/
structure ReadsFragment (marker : List Char) (fragment path : String) : Prop where
  front : ∀ rest : String, fragment.toList = marker ++ rest.toList → ¬ marker <:+: rest.toList →
    path = rest
  first : ∀ before rest, FirstMark marker before rest fragment.toList →
    (∀ piece more, FirstMark marker piece more rest → path = String.ofList piece) ∧
      (¬ marker <:+: rest → path = String.ofList rest)
  absent : ¬ marker <:+: fragment.toList → path = ""

theorem readsPathname {root pathname : String} (nonempty : root ≠ "") :
    ReadsPathname root pathname (String.ofList (Text.removeFirst root.toList pathname.toList)) where
  front rest split := by
    rw [split, String.toList_append, Text.removeFirst_append, String.ofList_toList]
  first before after h := by rw [Text.removeFirst_of_firstMark h]
  unchanged := by
    have mark : root.toList ≠ [] := by simpa using nonempty
    rw [← Text.removeFirst_eq_self_iff mark, ← String.toList_inj, String.toList_ofList]

theorem readsFragment {marker : List Char} {fragment : String} :
    ReadsFragment marker fragment (String.ofList (Text.secondPiece marker fragment.toList)) where
  front rest split single := by
    rw [split, Text.secondPiece_append single, String.ofList_toList]
  first before rest h :=
    ⟨fun piece more next => by rw [Text.secondPiece_of_firstMark h next],
      fun last => by rw [Text.secondPiece_of_lastMark h last]⟩
  absent none := by rw [Text.secondPiece_of_not_infix none, String.ofList_nil]

/-- Whatever host it is and whatever it shows, the path is the pathname without the first root in it, wherever
that stands, or what the fragment holds behind its first marker, wherever that stands, and before the next. -/
theorem path_drops_first (o : RouterOptions) (l : L) :
    (o.pushState = true → o.root = "" → Host.path o l = Host.pathname l) ∧
    (o.pushState = true → o.root ≠ "" → ReadsPathname o.root (Host.pathname l) (Host.path o l)) ∧
    (o.pushState = false → ReadsFragment o.hashMarker (Host.hash l) (Host.path o l)) := by
  refine ⟨fun history none => ?_, fun history nonempty => ?_, fun fragment => ?_⟩
  · have whole : Text.removeFirst [] (Host.pathname l).toList = (Host.pathname l).toList :=
      Text.removeFirst_append [] _
    rw [Host.path, if_pos history, none, String.toList_empty, whole, String.ofList_toList]
  · rw [Host.path, if_pos history]
    exact readsPathname nonempty
  · rw [Host.path, if_neg (by simp [fragment])]
    exact readsFragment

/-- A root at the front is no part of the path, and neither is a marker. -/
theorem path_drops_first_front :
    Host.path { pushState := true, root := "/app" } (memory (.opened "/app/users")) = "/users" ∧
      Host.path { hashBang := true } (plain "/" "#!/inbox") = "/inbox" := by
  constructor
  · have read := (path_drops_first { pushState := true, root := "/app" } (memory (.opened "/app/users"))).2.1
    exact (read rfl (by decide)).front "/users" (by decide)
  · have read := (path_drops_first { hashBang := true } (plain "/" "#!/inbox")).2.2
    exact (read rfl).front "/inbox" (by decide) (by decide)

/-- A root or a marker that does not stand at the front is taken out all the same. -/
theorem mark_within :
    (¬ "/app".toList <+: "/x/app/y".toList ∧
      Host.path { pushState := true, root := "/app" } (memory (.opened "/x/app/y")) = "/x/y") ∧
    (¬ "#!".toList <+: "#a#!b".toList ∧ Host.path { hashBang := true } (plain "/" "#a#!b") = "b") := by
  decide

end Location

end Routing
