import Routing.Proofs.Router.Parts

/-!
# Paths below a stem

A scope joins its stem and a value to the pattern of a route, with one slash at the joint.

* `Scope.join`: a stem and a value as one path
* `Scope.join_of_proper`: what a value comes to that is more than a slash
* `Scope.join_assoc`: stems may be joined first
* `Scope.joins_paths`: the laws of joining, and what they mean for the routes of a scope within a scope
-/
namespace Routing.Scope

variable {L : Type} [Host L]

/-- The pattern for a value below a stem. -/
def join (stem value : String) : String :=
  patternFor { stem } value

/-- A scope that is opened at a value below the stem, with the same middleware. -/
def within (scope : Scope) (value : String) : Scope :=
  { scope with stem := scope.patternFor value }

/-- The text without a slash in front. -/
def bare : List Char → List Char
  | '/' :: rest => rest
  | text => text

/-- The text comes to something below a stem: it is neither empty nor a mere slash. -/
def IsProper (value : List Char) : Prop :=
  value ≠ [] ∧ value ≠ ['/']

/-! ## The joint -/

/-- What stands between a stem and a value. -/
def joint (stem : List Char) : List Char :=
  if stem.getLast? = some '/' then [] else ['/']

theorem patternFor_eq_join (scope : Scope) (value : String) :
    scope.patternFor value = join scope.stem value :=
  rfl

theorem join_empty (stem : String) : join stem "" = stem := by
  simp [join, patternFor]

theorem join_slash (stem : String) : join stem "/" = stem := by
  simp [join, patternFor]

theorem isProper_iff {value : String} : IsProper value.toList ↔ value ≠ "" ∧ value ≠ "/" := by
  rw [IsProper, Ne, Ne, Ne, Ne, ← String.toList_inj, ← String.toList_inj]
  rfl

theorem not_isProper_iff {value : String} : ¬ IsProper value.toList ↔ value = "" ∨ value = "/" := by
  rw [isProper_iff, Decidable.not_and_iff_not_or_not, Decidable.not_not, Decidable.not_not]

theorem toList_join {value : String} (proper : IsProper value.toList) (stem : String) :
    (join stem value).toList = stem.toList ++ (joint stem.toList ++ bare value.toList) := by
  have joined : join stem value = String.ofList (stem.toList ++
      (if stem.toList.getLast? != some '/' && value != "/" && !value.isEmpty then ['/'] else []) ++
        bare value.toList) := rfl
  obtain ⟨some_, more⟩ := isProper_iff.1 proper
  rw [joined, String.toList_ofList, joint]
  by_cases ends : stem.toList.getLast? = some '/' <;> simp [ends, some_, more]

theorem bare_append {value : List Char} (some_ : value ≠ []) (rest : List Char) :
    bare (value ++ rest) = bare value ++ rest := by
  obtain ⟨c, behind, rfl⟩ := List.exists_cons_of_ne_nil some_
  by_cases slash : c = '/'
  · subst slash
    rfl
  · simp [bare, slash]

/-- A proper value loses at most a slash in front, and ends as it did. -/
theorem getLast?_bare {value : List Char} (proper : IsProper value) (front : List Char) :
    (front ++ bare value).getLast? = value.getLast? := by
  obtain ⟨c, behind, rfl⟩ := List.exists_cons_of_ne_nil proper.1
  by_cases slash : c = '/'
  · subst slash
    have some_ : behind ≠ [] := fun same => proper.2 (by rw [same])
    obtain ⟨d, rest, rfl⟩ := List.exists_cons_of_ne_nil some_
    simp [bare, List.getLast?_append, List.getLast?_cons]
  · simp [bare, slash, List.getLast?_append, List.getLast?_cons]

theorem IsProper.append {value : List Char} (proper : IsProper value) (rest : List Char) :
    IsProper (value ++ rest) := by
  obtain ⟨some_, more⟩ := proper
  obtain ⟨c, behind, rfl⟩ := List.exists_cons_of_ne_nil some_
  refine ⟨by simp, fun same => more ?_⟩
  obtain ⟨rfl, empty⟩ := List.cons.inj same
  rw [(List.append_eq_nil_iff.1 empty).1]

/-- A proper value has a text behind the slash. -/
theorem IsProper.bare_ne_nil {value : List Char} (proper : IsProper value) : bare value ≠ [] := by
  intro empty
  have last := getLast?_bare proper []
  rw [empty, List.append_nil, List.getLast?_nil] at last
  exact proper.1 (List.getLast?_eq_none_iff.1 last.symm)

/-- Only what stands behind a slash in front counts. -/
theorem join_congr {value other : String} (proper : IsProper value.toList)
    (slashed : other.toList = '/' :: bare value.toList) (stem : String) : join stem other = join stem value := by
  have proper' : IsProper other.toList := by
    rw [slashed]
    exact ⟨by simp, fun same => proper.bare_ne_nil (List.cons.inj same).2⟩
  rw [← String.toList_inj, toList_join proper', toList_join proper, slashed]
  rfl

/-! ## Joining in turn -/

/-- A stem is joined to the first of two values and then to the second, or to the two as one. -/
theorem join_assoc (stem first second : String) :
    join (join stem first) second = join stem (join first second) := by
  by_cases last : IsProper second.toList
  · by_cases proper : IsProper first.toList
    · have longer : IsProper (join first second).toList := by
        rw [toList_join last]
        exact proper.append _
      have ends : joint (join stem first).toList = joint first.toList := by
        rw [joint, joint, toList_join proper, ← List.append_assoc, getLast?_bare proper]
      rw [← String.toList_inj, toList_join last, ends, toList_join proper, toList_join longer, toList_join last,
        bare_append proper.1]
      simp only [List.append_assoc]
    · -- the first value comes to nothing below the stem, and to a slash in front of the second
      have slashed : (join first second).toList = '/' :: bare second.toList := by
        rw [toList_join last]
        rcases not_isProper_iff.1 proper with rfl | rfl <;> rfl
      rw [join_congr last slashed]
      rcases not_isProper_iff.1 proper with rfl | rfl
      · rw [join_empty]
      · rw [join_slash]
  · rcases not_isProper_iff.1 last with rfl | rfl <;> simp only [join_empty, join_slash]

theorem ends_iff {text : String} : text.toList.getLast? = some '/' ↔ ∃ before, text = before ++ "/" := by
  rw [List.getLast?_eq_some_iff]
  constructor
  · rintro ⟨before, same⟩
    exact ⟨String.ofList before, by rw [← String.toList_inj]; simp [same]⟩
  · rintro ⟨before, rfl⟩
    exact ⟨before.toList, by simp⟩

theorem bare_of_front {value rest : String}
    (front : value = "/" ++ rest ∨ value = rest ∧ ¬ ∃ more, rest = "/" ++ more) :
    bare value.toList = rest.toList := by
  rcases front with rfl | ⟨rfl, plain⟩
  · simp [bare]
  · unfold bare
    split
    · next more same => exact absurd ⟨String.ofList more, by rw [← String.toList_inj]; simp [same]⟩ plain
    · rfl

/-- What a value comes to that is more than a slash: it is put behind the slash that ends the stem, or behind a
new one. -/
theorem join_of_proper {value rest : String} (proper : value ≠ "" ∧ value ≠ "/")
    (front : value = "/" ++ rest ∨ value = rest ∧ ¬ ∃ more, rest = "/" ++ more) (stem : String) :
    ((∃ before, stem = before ++ "/") → join stem value = stem ++ rest) ∧
      ((¬ ∃ before, stem = before ++ "/") → join stem value = stem ++ "/" ++ rest) := by
  have joined := toList_join (isProper_iff.2 proper) stem
  rw [bare_of_front front, joint] at joined
  refine ⟨fun ends => ?_, fun ends => ?_⟩
  · rw [if_pos (ends_iff.2 ends)] at joined
    rw [← String.toList_inj, joined]
    simp
  · rw [if_neg (mt ends_iff.1 ends)] at joined
    rw [← String.toList_inj, joined]
    simp

/-- Joining is a join of paths: an empty value or a mere slash adds nothing, a slash in front of a value makes no
difference, a stem and two values can be joined in any order, and only one slash is put at a joint. So a scope that is
opened on a joined stem registers what the outer one would register at the joined value. -/
theorem joins_paths (p : String) :
    (∀ (shared : List Handler) (v : String), (Scope.mk p shared).patternFor v = join p v) ∧
    join p "" = p ∧ join p "/" = p ∧
    (∀ v, (¬ ∃ u, v = "/" ++ u) → join p v = join p ("/" ++ v)) ∧
    (∀ a b, join (join p a) b = join p (join a b)) ∧
    (∀ (shared : List Handler) (a b : String) (own : List Handler) (h : Handler),
      (Command.registerIn ((Scope.mk p shared).within a) b own h : Command L).enlists? =
        (Command.registerIn ⟨p, shared⟩ (join a b) own h : Command L).enlists?) ∧
    ∀ v u, v ≠ "" ∧ v ≠ "/" → v = "/" ++ u ∨ v = u ∧ (¬ ∃ w, u = "/" ++ w) →
      ((∃ q, p = q ++ "/") → join p v = p ++ u) ∧ ((¬ ∃ q, p = q ++ "/") → join p v = p ++ "/" ++ u) := by
  refine ⟨fun _ _ => rfl, join_empty p, join_slash p, fun v plain => ?_, join_assoc p, fun shared a b own h => ?_,
    fun v u proper front => join_of_proper proper front p⟩
  · by_cases some_ : v = ""
    · rw [some_, join_empty]
      exact (join_slash p).symm
    · have proper : v ≠ "" ∧ v ≠ "/" := ⟨some_, fun same => plain ⟨"", same⟩⟩
      refine (join_congr (isProper_iff.2 proper) ?_ p).symm
      rw [bare_of_front (.inr ⟨rfl, plain⟩)]
      simp
  · rw [Command.enlists?, Command.enlists?, patternFor_eq_join, patternFor_eq_join]
    exact congrArg (fun path => some (Pattern.path path, shared ++ own, h)) (join_assoc p a b)

/-- Slashes that were doubled already stay so. -/
theorem joins_paths_admin :
    join "/admin/" "/settings" = "/admin/settings" ∧ join "/admin" "settings" = join "/admin" "/settings" ∧
      join "/admin" "//x" = "/admin//x" := by
  obtain ⟨-, -, -, slashed, -, -, proper⟩ := joins_paths (L := Location) "/admin"
  obtain ⟨-, -, -, -, -, -, ended⟩ := joins_paths (L := Location) "/admin/"
  have plain : ¬ ∃ before, "/admin" = before ++ "/" := fun ends => by
    cases ends_iff.2 ends
  have front : ¬ ∃ u, "settings" = "/" ++ u := by
    rintro ⟨u, same⟩
    simpa using congrArg (·.toList.head?) same
  exact ⟨(ended "/settings" "settings" (by decide) (.inl rfl)).1 ⟨"/admin", rfl⟩, slashed "settings" front,
    (proper "//x" "/x" (by decide) (.inl rfl)).2 plain⟩

end Routing.Scope
