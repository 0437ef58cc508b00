import Routing.Proofs.Pattern.Plain
import Routing.Proofs.Regex.Openings

/-!
# A slash behind a pattern

A slash that may be left out is put behind the text of a pattern before the text is expanded. No token
goes on with it but one that is copied as it stands, so that it comes out at the end of the expansion.

* `Token.next?_append`: the first token of the longer text
* `Expansion.ofText_append`: the expansion of the longer text
-/
namespace Routing.Pattern

open Regex

/-- A slash with the mark of what may be left out. -/
def optionalSlash : List Char := ['/', '?']

namespace Token

/-! ## Parameters -/

theorem balanced_cons {c : Char} (plain : c ≠ '\\') (d : Nat) (k : Bool) (rest : List Char) :
    balanced d k (c :: rest) =
      let go (d : Nat) (k : Bool) := (balanced d k rest).map fun (b, r) => (c :: b, r)
      if c = '[' then go d true
      else if c = ']' then go d false
      else if c = '(' ∧ k = false then go (d + 1) k
      else if c = ')' ∧ k = false then
        match d with
        | 0 => some ([], rest)
        | d + 1 => go d k
      else go d k := by
  cases d <;> simp [balanced, plain]

/-- Nothing is closed by a slash. -/
theorem balanced_append (d : Nat) (k : Bool) (cs : List Char) :
    balanced d k (cs ++ optionalSlash) =
      (balanced d k cs).map fun (body, rest) => (body, rest ++ optionalSlash) := by
  induction length : cs.length using Nat.strongRecOn generalizing d k cs with
  | ind n ih =>
    cases cs with
    | nil => cases d <;> simp [optionalSlash, balanced]
    | cons c rest =>
      rw [List.length_cons] at length
      by_cases escape : c = '\\'
      · subst escape
        cases rest with
        | nil => cases d <;> simp [optionalSlash, balanced]
        | cons c rest =>
          rw [List.length_cons] at length
          have later := ih rest.length (by omega) d k rest rfl
          simp [balanced, later, Option.map_map, Function.comp_def]
      · have later (d : Nat) (k : Bool) := ih rest.length (by omega) d k rest rfl
        rw [List.cons_append, balanced_cons escape, balanced_cons escape]
        simp only [later]
        cases d <;> split_ifs <;> simp [Option.map_map, Function.comp_def]

theorem capture?_append (cs : List Char) :
    capture? (cs ++ optionalSlash) = ((capture? cs).1, (capture? cs).2 ++ optionalSlash) := by
  by_cases front : cs.head? = some '('
  · obtain ⟨rest, rfl⟩ := List.head?_eq_some_iff.1 front
    rw [List.cons_append, capture?, capture?]
    rw [balanced_append]
    cases balanced 0 false rest <;> rfl
  · have front' : (cs ++ optionalSlash).head? ≠ some '(' := by
      cases cs with
      | nil => decide
      | cons c rest => exact front
    rw [capture?_of_head_ne front, capture?_of_head_ne front']

theorem flag_append (c : Char) (cs : List Char) (h : cs ≠ [] ∨ c ≠ '/') :
    flag c (cs ++ optionalSlash) = ((flag c cs).1, (flag c cs).2 ++ optionalSlash) := by
  cases cs with
  | nil =>
    have other := h.resolve_left (· rfl)
    exact flag_of_head_ne (by simpa [optionalSlash] using other.symm)
  | cons d rest =>
    rw [List.cons_append, flag, flag]
    split <;> rfl

theorem name_append (cs : List Char) :
    (cs ++ optionalSlash).takeWhile isNameChar = cs.takeWhile isNameChar ∧
      (cs ++ optionalSlash).dropWhile isNameChar = cs.dropWhile isNameChar ++ optionalSlash := by
  have slash : isNameChar '/' = false := by decide
  induction cs with
  | nil => simp [optionalSlash, slash]
  | cons c rest ih => by_cases named : isNameChar c = true <;> simp [named, ih]

theorem param?_append {cs : List Char} (some_ : cs ≠ []) :
    param? (cs ++ optionalSlash) = (param? cs).map fun (p, rest) => (p, rest ++ optionalSlash) := by
  unfold param?
  rw [flag_append '/' cs (.inl some_)]
  dsimp only
  rw [flag_append '.' _ (.inr (by decide))]
  dsimp only
  cases (flag '.' (flag '/' cs).2).2 with
  | nil => rfl
  | cons c rest =>
    by_cases colon : c = ':'
    · subst colon
      obtain ⟨name, behind⟩ := name_append rest
      have mark (cs : List Char) := flag_append '?' cs (.inr (by decide))
      simp only [List.cons_append, name, behind, capture?_append, mark]
      split <;> rfl
    · simp [colon]

/-! ## Tokens -/

/-- A class is closed in front of the slash, or it takes the slash along. -/
theorem classBody_append (cs : List Char) :
    classBody (cs ++ optionalSlash) = ((classBody cs).1, (classBody cs).2 ++ optionalSlash) ∨
      (classBody cs).2 = [] ∧ classBody (cs ++ optionalSlash) = ((classBody cs).1 ++ optionalSlash, []) := by
  fun_induction classBody cs with
  | case1 => exact .inr ⟨rfl, rfl⟩
  | case2 => exact .inr ⟨rfl, rfl⟩
  | case3 c rest b r found ih =>
    rw [found] at ih
    rcases ih with ih | ⟨rfl, ih⟩ <;> simp [classBody, ih]
  | case4 rest => exact .inl rfl
  | case5 c rest single paired open_ b r found ih =>
    have plain : c ≠ '\\' := ne_escape single paired
    rw [found] at ih
    rcases ih with ih | ⟨rfl, ih⟩ <;> simp [classBody, plain, open_, ih]

/-- What a token that takes all of the text becomes in front of a slash, and what it leaves of the slash. -/
structure Copied (t u : Token) (left : List Char) : Prop where
  expansion : ∀ slot, u.expansion slot ++ left = t.expansion slot ++ optionalSlash
  spec : ∀ unnamed, t.spec? unnamed = none ∧ u.spec? unnamed = none
  left : left = [] ∨ left = ['?']

theorem not_front_append {rest : List Char} {d : Char} (other : d ≠ '/')
    (h : ∀ more, rest = d :: more → False) (more : List Char) :
    rest ++ optionalSlash = d :: more → False := by
  intro same
  cases rest with
  | nil => exact other (List.cons.inj same).1.symm
  | cons c rest => exact h rest ((List.cons.inj same).1 ▸ rfl)

theorem nextPlain?_append {cs rest : List Char} {t : Token} (h : nextPlain? cs = some (t, rest)) :
    nextPlain? (cs ++ optionalSlash) = some (t, rest ++ optionalSlash) ∨
      rest = [] ∧ ∃ u left, nextPlain? (cs ++ optionalSlash) = some (u, left) ∧ Copied t u left := by
  unfold nextPlain? at h
  split at h
  case h_1 => cases h
  case h_3 rest other =>
    cases h
    exact .inl (nextPlain?.eq_3 _ (not_front_append (by decide) other))
  case h_4 rest group single =>
    cases h
    have single' := not_front_append (by decide) single
    exact .inl (nextPlain?.eq_4 _ (fun more => single' _) single')
  case h_8 =>
    cases h
    exact .inr ⟨rfl, escape (some '/'), ['?'], rfl, fun slot => rfl, fun unnamed => ⟨rfl, rfl⟩, .inr rfl⟩
  case h_11 rest colon =>
    cases h
    exact .inl (nextPlain?.eq_11 _ (not_front_append (by decide) colon))
  case h_12 rest special plain =>
    cases h
    have plain' := not_front_append (by decide) plain
    exact .inl (nextPlain?.eq_12 _ (fun more => plain' _) plain')
  case h_13 rest =>
    cases h
    rcases classBody_append rest with closed | ⟨open_, taken⟩
    · exact .inl (by simp [nextPlain?, closed])
    · refine .inr ⟨open_, charClass ((classBody rest).1 ++ optionalSlash), [], ?_, fun slot => ?_,
        fun unnamed => ⟨rfl, rfl⟩, .inl rfl⟩
      · simp [nextPlain?, taken]
      · simp [expansion, text]
  case h_14 c rest _ _ slash dot plus star single paired _ _ paren bracket =>
    cases h
    have escape : c ≠ '\\' := ne_escape single paired
    exact .inl (nextPlain?.eq_14 c _ (fun _ same => absurd same slash) (fun _ same => absurd same slash)
      slash dot plus star (absurd · escape) (fun _ _ => (absurd · escape)) (fun _ => (absurd · paren))
      (fun _ => (absurd · paren)) paren bracket)
  all_goals
    cases h
    exact .inl rfl

theorem next?_append {cs rest : List Char} {t : Token} (h : next? cs = some (t, rest)) :
    next? (cs ++ optionalSlash) = some (t, rest ++ optionalSlash) ∨
      rest = [] ∧ ∃ u left, next? (cs ++ optionalSlash) = some (u, left) ∧ Copied t u left := by
  have some_ : cs ≠ [] := by
    rintro rfl
    cases h
  unfold next? at h ⊢
  rw [param?_append some_]
  cases found : param? cs with
  | some parameter =>
    rw [found] at h
    cases h
    exact .inl rfl
  | none =>
    rw [found] at h
    exact nextPlain?_append h

theorem length_balanced {d : Nat} {k : Bool} {cs body rest : List Char}
    (h : balanced d k cs = some (body, rest)) : rest.length ≤ cs.length := by
  fun_induction balanced d k cs generalizing body <;> grind [Option.map_eq_some_iff]

theorem length_capture? (cs : List Char) : (capture? cs).2.length ≤ cs.length := by
  unfold capture?
  split
  · split
    · next closed => exact Nat.le_succ_of_le (length_balanced closed)
    · exact Nat.le_refl _
  · exact Nat.le_refl _

theorem length_flag (c : Char) (cs : List Char) : (flag c cs).2.length ≤ cs.length := by
  cases cs with
  | nil => exact Nat.le_refl _
  | cons d rest =>
    rw [flag]
    split
    · exact Nat.le_succ _
    · exact Nat.le_refl _

theorem length_param? {cs rest : List Char} {p : ParamToken} (h : param? cs = some (p, rest)) :
    rest.length < cs.length := by
  unfold param? at h
  dsimp only at h
  split at h
  · next after colon =>
    split at h
    · cases h
    · cases h
      have slash := length_flag '/' cs
      have dot := length_flag '.' (flag '/' cs).2
      have mark := length_flag '?' (capture? (after.dropWhile isNameChar)).2
      have capture := length_capture? (after.dropWhile isNameChar)
      have name := (List.dropWhile_suffix isNameChar (l := after)).length_le
      rw [colon, List.length_cons] at dot
      omega
  · cases h

theorem length_classBody (cs : List Char) : (classBody cs).2.length ≤ cs.length := by
  fun_induction classBody cs <;> grind

theorem length_of_next? {cs rest : List Char} {t : Token} (h : next? cs = some (t, rest)) :
    rest.length < cs.length := by
  unfold next? at h
  split at h
  · next found =>
    cases h
    exact length_param? found
  · unfold nextPlain? at h
    split at h
    case h_1 => cases h
    case h_13 =>
      cases h
      exact Nat.lt_succ_of_le (length_classBody _)
    all_goals
      cases h
      simp only [List.length_cons, List.length_nil]
      omega

theorem exists_next? {cs : List Char} (some_ : cs ≠ []) : ∃ t rest, next? cs = some (t, rest) := by
  unfold next?
  split
  · exact ⟨_, _, rfl⟩
  · unfold nextPlain?
    split
    case h_1 => exact absurd rfl some_
    all_goals exact ⟨_, _, rfl⟩

theorem lexFrom_nil (fuel : Nat) : lexFrom fuel [] = [] := by
  cases fuel <;> rfl

theorem lexFrom_succ {fuel : Nat} {cs rest : List Char} {t : Token} (h : next? cs = some (t, rest)) :
    lexFrom (fuel + 1) cs = t :: lexFrom fuel rest := by
  rw [lexFrom, h]

theorem lexFrom_optionalSlash (fuel : Nat) : lexFrom (fuel + 2) optionalSlash = [slash, char '?'] := by
  have front : next? optionalSlash = some (slash, ['?']) := rfl
  have mark : next? ['?'] = some (char '?', []) := rfl
  rw [lexFrom_succ front, lexFrom_succ mark, lexFrom_nil]

end Token

namespace Expansion

open Token

/-- What the tokens of a text that is followed by the slash come to. -/
theorem ofTokens_append (slots unnamed : Nat) {fuel fuel' : Nat} {cs : List Char}
    (enough : cs.length ≤ fuel) (enough' : cs.length + 2 ≤ fuel') :
    ofTokens slots unnamed (lexFrom fuel' (cs ++ optionalSlash)) =
      { body := (ofTokens slots unnamed (lexFrom fuel cs)).body ++ optionalSlash
        keys := (ofTokens slots unnamed (lexFrom fuel cs)).keys } := by
  obtain ⟨more, rfl⟩ := Nat.exists_eq_add_of_le' (Nat.le_trans (Nat.le_add_left 2 _) enough')
  induction fuel generalizing slots unnamed more cs with
  | zero =>
    obtain rfl := List.length_eq_zero_iff.1 (Nat.le_zero.1 enough)
    rw [List.nil_append, lexFrom_optionalSlash, lexFrom_nil]
    rfl
  | succ fuel ih =>
    by_cases empty : cs = []
    · subst empty
      rw [List.nil_append, lexFrom_optionalSlash, lexFrom_nil]
      rfl
    · obtain ⟨t, rest, first⟩ := exists_next? empty
      have shorter := length_of_next? first
      obtain ⟨more, rfl⟩ : ∃ n, more = n + 1 := ⟨more - 1, by omega⟩
      rw [lexFrom_succ first]
      have later (slots unnamed : Nat) :=
        ih slots unnamed (show rest.length ≤ fuel by omega) more (by omega)
      rcases next?_append first with same | ⟨rfl, u, left, taken, copied⟩
      · rw [lexFrom_succ same, ofTokens, ofTokens]
        simp only [later, List.append_assoc]
      · obtain ⟨none_, none'⟩ := copied.spec unnamed
        have body := copied.expansion slots
        rw [lexFrom_succ taken, lexFrom_nil, ofTokens, ofTokens]
        simp only [none_, none', ofTokens]
        rcases copied.left with rfl | rfl
        · simpa [lexFrom_nil, ofTokens] using body
        · have mark : next? ['?'] = some (char '?', []) := rfl
          have copied : (char '?').expansion slots = ['?'] := rfl
          rw [lexFrom_succ mark, lexFrom_nil]
          simpa [ofTokens, copied, spec?] using body

/-- The slash comes out as it went in. -/
theorem ofText_append (text : List Char) :
    ofText (text ++ optionalSlash) =
      { body := (ofText text).body ++ optionalSlash, keys := (ofText text).keys } :=
  ofTokens_append 0 0 (Nat.le_refl _) (by simp [optionalSlash])

end Expansion

end Routing.Pattern
