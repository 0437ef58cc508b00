import Routing.Proofs.Regex.Reading

/-!
# Reading in front of a closing

The same text is read alone and with the end of a group behind it.

* `readPart_before`: a part that is read of a text is read of it in front of a closing
* `Reads.inside`: a whole reading stays one inside a group
-/
namespace Routing.Regex.Reader

/-- The end of a group, and an assertion behind it. In front of it a slash may stand that may be left
out. -/
def closing (slash : Bool) : List Char :=
  if slash then ['/', '?', ')', '$'] else [')', '$']

/-- What is left of a text, and what is left of it when it stands before a closing. A comment at the end
of the text swallows the closing. -/
inductive Before (slash : Bool) : List Char → List Char → Prop where
  | closing (cs : List Char) : Before slash cs (cs ++ Reader.closing slash)
  | nothing : Before slash [] []

section

variable {slash : Bool}

@[grind →]
theorem Before.cons {c : Char} {rest long : List Char} (h : Before slash (c :: rest) long) :
    ∃ left, long = c :: left ∧ Before slash rest left := by
  cases h
  exact ⟨rest ++ Reader.closing slash, rfl, .closing rest⟩

theorem Before.nil {long : List Char} (h : Before slash [] long) :
    long = [] ∨ long = Reader.closing slash := by
  cases h
  · exact .inr rfl
  · exact .inl rfl

/-- A closing begins with a character that neither goes on with anything nor is skipped. -/
@[grind →]
theorem Before.nil_cons {c : Char} {left : List Char} (h : Before slash [] (c :: left)) :
    c = ')' ∨ c = '/' := by
  rcases h.nil with empty | closed
  · cases empty
  · cases slash with
    | true => exact .inr (List.cons.inj closed).1
    | false => exact .inl (List.cons.inj closed).1

@[grind →]
theorem Before.eq_nil {cs : List Char} (h : Before slash cs []) : cs = [] := by
  cases cs with
  | nil => rfl
  | cons c rest =>
    obtain ⟨left, empty, -⟩ := h.cons
    cases empty

@[grind →]
theorem Before.of_cons {cs left : List Char} {c : Char} (h : Before slash cs (c :: left)) (hc : c ≠ ')')
    (hs : c ≠ '/') : ∃ rest, cs = c :: rest ∧ Before slash rest left := by
  cases cs with
  | nil => exact absurd h.nil_cons (by simp [hc, hs])
  | cons d rest =>
    obtain ⟨left', same, behind⟩ := h.cons
    obtain ⟨rfl, rfl⟩ := List.cons.inj same
    exact ⟨rest, rfl, behind⟩

theorem Before.length_le {cs long : List Char} (h : Before slash cs long) : cs.length ≤ long.length := by
  cases h <;> simp

theorem isBlank_closing : isBlank ')' = false := by
  decide +kernel

theorem isBlank_slash : isBlank '/' = false := by
  decide +kernel

theorem isBlank_hash : isBlank '#' = false := by
  decide +kernel

theorem skipExtended_closing (slash : Bool) : skipExtended false (closing slash) = closing slash := by
  cases slash with
  | true => simp [closing, skipExtended, isBlank_slash]
  | false => simp [closing, skipExtended, isBlank_closing]

/-! ## Blanks and counts -/

theorem skipExtended_before {inComment : Bool} {cs long : List Char} (h : Before slash cs long) :
    Before slash (skipExtended inComment cs) (skipExtended inComment long) := by
  cases h with
  | nothing => exact .nothing
  | closing =>
    fun_induction skipExtended inComment cs with
    | case1 inComment =>
      cases inComment with
      | true =>
        cases slash <;> exact .nothing
      | false =>
        rw [List.nil_append, skipExtended_closing]
        exact .closing []
    | _ => grind [skipExtended, Before]

@[grind! =>]
theorem skipBlanks_before {extended : Bool} {cs long : List Char} (hb : Before slash cs long) :
    Before slash (skipBlanks extended cs) (skipBlanks extended long) := by
  unfold skipBlanks
  split
  · exact skipExtended_before hb
  · exact hb

theorem dropWhile_before {p : Char → Bool} {cs long : List Char} (hb : Before slash cs long)
    (remains : cs.dropWhile p ≠ []) : Before slash (cs.dropWhile p) (long.dropWhile p) := by
  cases hb with
  | nothing => exact .nothing
  | closing =>
    rw [List.dropWhile_append, if_neg (by simpa using remains)]
    exact .closing _

theorem digits_before {extended inComment : Bool} {cs after ds long : List Char}
    (hb : Before slash cs long) (h : digits extended inComment cs = (ds, after)) (remains : after ≠ []) :
    ∃ left, digits extended inComment long = (ds, left) ∧ Before slash after left := by
  fun_induction digits extended inComment cs generalizing long ds <;> grind [digits]

@[grind →]
theorem decimal_before {extended : Bool} {cs after long : List Char}
    {value : Except RegexError Nat} (hb : Before slash cs long)
    (h : decimal extended cs = (value, after)) (remains : after ≠ []) :
    ∃ left, decimal extended long = (value, left) ∧ Before slash after left := by
  cases hds : digits extended false (cs.dropWhile isBlank) with
  | mk ds behind =>
    simp only [decimal, hds, Prod.mk.injEq] at h
    obtain ⟨rfl, rfl⟩ := h
    have more : behind ≠ [] := by
      rintro rfl
      exact remains rfl
    have front : cs.dropWhile isBlank ≠ [] := by
      intro empty
      rw [empty, digits] at hds
      exact more (Prod.mk.inj hds).2.symm
    obtain ⟨left, hleft, hb⟩ := digits_before (dropWhile_before hb front) hds more
    refine ⟨left.dropWhile isBlank, ?_, dropWhile_before hb remains⟩
    simp only [decimal, hleft]

/-! ## Escapes -/

@[grind →]
theorem hexFixed_before {extended : Bool} {n : Nat} {before values : List Nat}
    {cs after long : List Char} (hb : Before slash cs long)
    (h : hexFixed extended n before cs = .ok (values, after)) :
    ∃ left, hexFixed extended n before long = .ok (values, left) ∧ Before slash after left := by
  fun_induction hexFixed extended n before cs generalizing long <;> grind [hexFixed]

theorem hexBraced_of_le {extended : Bool} {fuel fuel' : Nat} {before values : List Nat}
    {cs after long : List Char} (hb : Before slash cs long) (more : fuel ≤ fuel')
    (h : hexBraced extended fuel before cs = .ok (values, after)) :
    ∃ left, hexBraced extended fuel' before long = .ok (values, left) ∧ Before slash after left := by
  fun_induction hexBraced extended fuel before cs generalizing long fuel' <;> cases fuel' <;>
    grind [hexBraced]

@[grind →]
theorem hexBraced_before {extended : Bool} {values : List Nat} {cs after long : List Char}
    (hb : Before slash cs long) (h : hexBraced extended (cs.length + 1) [] cs = .ok (values, after)) :
    ∃ left, hexBraced extended (long.length + 1) [] long = .ok (values, left) ∧ Before slash after left :=
  hexBraced_of_le hb (Nat.succ_le_succ hb.length_le) h

@[grind →]
theorem hexLiteral_before {extended : Bool} {width : Nat} {cs after long : List Char} {p : Primitive}
    (hb : Before slash cs long) (h : hexLiteral extended width cs = .ok (p, after)) :
    ∃ left, hexLiteral extended width long = .ok (p, left) ∧ Before slash after left := by
  unfold hexLiteral at h ⊢
  cases hs : skipBlanks extended cs with
  | nil =>
    rw [hs] at h
    cases h
  | cons c rest =>
    obtain ⟨left, hl, further⟩ := (hs ▸ skipBlanks_before hb).cons
    rw [hs] at h
    rw [hl]
    grind

theorem propertyText_of_le {extended : Bool} {fuel fuel' : Nat} {cs name after long : List Char}
    (hb : Before slash cs long) (more : fuel ≤ fuel')
    (h : propertyText extended fuel cs = .ok (name, after)) :
    ∃ left, propertyText extended fuel' long = .ok (name, left) ∧ Before slash after left := by
  fun_induction propertyText extended fuel cs generalizing long fuel' name <;> cases fuel' <;>
    grind [propertyText]

@[grind →]
theorem propertyText_before {extended : Bool} {cs name after long : List Char} (hb : Before slash cs long)
    (h : propertyText extended (cs.length + 1) cs = .ok (name, after)) :
    ∃ left, propertyText extended (long.length + 1) long = .ok (name, left) ∧ Before slash after left :=
  propertyText_of_le hb (Nat.succ_le_succ hb.length_le) h

@[grind →]
theorem propertyEscape_before {extended negated : Bool} {cs after long : List Char} {p : Primitive}
    (hb : Before slash cs long) (h : propertyEscape extended negated cs = .ok (p, after)) :
    ∃ left, propertyEscape extended negated long = .ok (p, left) ∧ Before slash after left := by
  unfold propertyEscape at h ⊢
  grind

/-- A name ends before its fuel does. -/
theorem boundaryName_of_le {extended : Bool} {fuel fuel' : Nat} {cs name after long : List Char}
    (hb : Before slash cs long) (enough : cs.length < fuel) (more : fuel ≤ fuel')
    (h : boundaryName extended fuel cs = (name, after)) (remains : after ≠ []) :
    ∃ left, boundaryName extended fuel' long = (name, left) ∧ Before slash after left := by
  fun_induction boundaryName extended fuel cs generalizing long fuel' name <;> cases fuel' <;>
    grind [boundaryName]

@[grind →]
theorem boundary_before {extended : Bool} {cs after long : List Char} {p : Primitive}
    (hb : Before slash cs long) (h : boundary extended cs = .ok (p, after)) :
    ∃ left, boundary extended long = .ok (p, left) ∧ Before slash after left := by
  unfold boundary at h
  split at h
  · rename_i rest
    obtain ⟨more, rfl, behind⟩ := hb.cons
    cases hs : skipBlanks extended rest with
    | nil =>
      rw [hs] at h
      cases h
    | cons c inner =>
      have inside : Before slash (c :: inner) (skipBlanks extended more) :=
        hs ▸ skipBlanks_before behind
      obtain ⟨left, hl, further⟩ := inside.cons
      rw [hl] at inside
      rw [hs] at h
      dsimp only at h
      cases hn : boundaryName extended (inner.length + 2) (c :: inner) with
      | mk name behind =>
        have longer := further.length_le
        have named : behind ≠ [] → ∃ left', boundaryName extended (left.length + 2) (c :: left) =
            (name, left') ∧ Before slash behind left' :=
          boundaryName_of_le inside (Nat.lt_succ_self _) (Nat.add_le_add_right longer 2) hn
        rw [hn] at h
        unfold boundary
        simp only [hl]
        split at h
        · rename_i special
          rw [if_pos special]
          cases behind with
          | nil => cases h
          | cons d behind =>
            obtain ⟨left', hl', hb'⟩ := named (List.cons_ne_nil _ _)
            rw [hl']
            grind
        · rename_i plain
          cases h
          exact ⟨_, if_neg plain, hb⟩
  · rename_i plain
    cases h
    refine ⟨long, ?_, hb⟩
    unfold boundary
    split
    · rename_i left
      obtain ⟨rest, rfl, -⟩ := hb.of_cons (by decide) (by decide)
      exact absurd rfl (plain rest)
    · rfl

@[grind →]
theorem escape_before {extended : Bool} {cs after long : List Char} {p : Primitive}
    (hb : Before slash cs long) (h : escape extended cs = .ok (p, after)) :
    ∃ left, escape extended long = .ok (p, left) ∧ Before slash after left := by
  cases cs with
  | nil => cases h
  | cons c rest =>
    obtain ⟨left, rfl, behind⟩ := hb.cons
    unfold escape at h ⊢
    dsimp only at h ⊢
    by_cases digit : c.isDigit = true
    · rw [if_pos digit] at h
      cases h
    · rw [if_neg digit] at h ⊢
      by_cases plain : isEscapable c = true
      · rw [if_pos plain] at h ⊢
        cases h
        exact ⟨left, rfl, behind⟩
      · rw [if_neg plain] at h ⊢
        split at h <;> first
          | exact hexLiteral_before behind h
          | exact propertyEscape_before behind h
          | exact boundary_before behind h
          | (cases h; exact ⟨left, rfl, behind⟩)
          | cases h

/-! ## Classes -/

/-- The name ends in front of the closing, or it is none. -/
theorem asciiNamed?_append (negated : Bool) (body : List Char) :
    asciiNamed? negated (body ++ closing slash) =
      (asciiNamed? negated body).map fun (item, after) => (item, after ++ closing slash) := by
  unfold asciiNamed?
  rw [List.dropWhile_append, List.takeWhile_append]
  cases hd : body.dropWhile (· != ':') with
  | nil => cases slash <;> rfl
  | cons c rest =>
    have shorter : (body.takeWhile (· != ':')).length ≠ body.length := by
      have := congrArg List.length (List.takeWhile_append_dropWhile :
        body.takeWhile (· != ':') ++ body.dropWhile (· != ':') = body)
      rw [hd, List.length_append, List.length_cons] at this
      omega
    have colon : c = ':' := by
      have := List.head?_dropWhile_not (· != ':') body
      rw [hd] at this
      simpa using this
    subst colon
    rw [if_neg (by simp), if_neg shorter]
    cases rest with
    | nil => cases slash <;> rfl
    | cons d rest =>
      by_cases hd : d = ']'
      · subst hd
        simp [Option.map_map, Function.comp_def]
      · simp [hd]

theorem asciiClass?_append (cs : List Char) :
    asciiClass? (cs ++ closing slash) =
      (asciiClass? cs).map fun (item, after) => (item, after ++ closing slash) := by
  cases cs with
  | nil => cases slash <;> rfl
  | cons c rest =>
    by_cases hc : c = ':'
    · subst hc
      rw [List.cons_append]
      by_cases negated : rest.head? = some '^'
      · obtain ⟨body, rfl⟩ := List.head?_eq_some_iff.1 negated
        exact asciiNamed?_append true body
      · have later : (rest ++ closing slash).head? ≠ some '^' := by
          cases rest with
          | nil => cases slash <;> decide
          | cons d rest => exact negated
        rw [asciiClass?_plain negated, asciiClass?_plain later]
        exact asciiNamed?_append false rest
    · unfold asciiClass?
      simp [hc]

theorem openingHyphens_of_le {extended : Bool} {fuel fuel' : Nat} {before items : List ClassExpr}
    {cs after long : List Char} (hb : Before slash cs long) (more : fuel ≤ fuel')
    (h : openingHyphens extended fuel before cs = .ok (items, after)) :
    ∃ left, openingHyphens extended fuel' before long = .ok (items, left) ∧ Before slash after left := by
  fun_induction openingHyphens extended fuel before cs generalizing long fuel' with
  | case4 fuel before cs other =>
    cases h
    cases fuel' with
    | zero => omega
    | succ fuel' =>
      refine ⟨long, ?_, hb⟩
      unfold openingHyphens
      split
      · obtain ⟨rest, rfl, -⟩ := hb.of_cons (by decide) (by decide)
        exact absurd rfl (other rest)
      · rfl
  | _ => cases fuel' <;> grind [openingHyphens]

@[grind →]
theorem openingHyphens_before {extended : Bool} {items : List ClassExpr} {cs after long : List Char}
    (hb : Before slash cs long)
    (h : openingHyphens extended (cs.length + 1) [] cs = .ok (items, after)) :
    ∃ left, openingHyphens extended (long.length + 1) [] long = .ok (items, left) ∧
      Before slash after left :=
  openingHyphens_of_le hb (Nat.succ_le_succ hb.length_le) h

@[grind →]
theorem openClass_before {extended : Bool} {cs after long : List Char}
    {front : Bool × List ClassExpr} (hb : Before slash cs long)
    (h : openClass extended cs = .ok (front, after)) :
    ∃ left, openClass extended long = .ok (front, left) ∧ Before slash after left := by
  unfold openClass at h ⊢
  cases hs : skipBlanks extended cs with
  | nil =>
    rw [hs] at h
    cases h
  | cons c rest =>
    have inside : Before slash (c :: rest) (skipBlanks extended long) := hs ▸ skipBlanks_before hb
    obtain ⟨left, hl, behind⟩ := inside.cons
    rw [hl] at inside
    rw [hs] at h
    grind

@[grind →]
theorem classPrimitive_before {extended : Bool} {cs after long : List Char} {p : Primitive}
    (hb : Before slash cs long) (h : classPrimitive extended cs = .ok (p, after)) :
    ∃ left, classPrimitive extended long = .ok (p, left) ∧ Before slash after left := by
  unfold classPrimitive at h ⊢
  grind

theorem peekExtended_before {passed : Bool} {cs long : List Char} {c : Char} (hb : Before slash cs long)
    (h : peekExtended passed cs = some c) : peekExtended passed long = some c := by
  fun_induction peekExtended passed cs generalizing long <;> grind [peekExtended]

theorem skipExtended_of_peekExtended {passed inComment : Bool} {cs : List Char}
    (h : peekExtended passed cs = none) (hc : inComment = true → passed = true) :
    skipExtended inComment cs = [] := by
  fun_induction peekExtended passed cs generalizing inComment with
  | case1 => cases inComment <;> rfl
  | case2 passed c rest blank ih =>
    cases inComment with
    | true => exact ih h fun _ => hc rfl
    | false =>
      have other : c ≠ '#' := by
        rintro rfl
        simp [isBlank_hash] at blank
      rw [skipExtended, if_neg other, if_pos blank]
      exact ih h (by simp)
  | case3 passed c rest blank comment ih =>
    obtain ⟨rfl, rfl⟩ := comment
    cases inComment with
    | true => cases hc rfl
    | false =>
      rw [skipExtended, if_pos rfl]
      exact ih h fun _ => rfl
  | case4 => cases h

theorem peek_before {extended : Bool} {cs long : List Char} (hb : Before slash cs long)
    (remains : skipBlanks extended cs ≠ []) : peek extended long = peek extended cs := by
  cases extended with
  | false =>
    cases cs with
    | nil => cases remains rfl
    | cons c rest =>
      obtain ⟨left, rfl, -⟩ := hb.cons
      rfl
  | true =>
    cases hp : peekExtended false cs with
    | none => exact absurd (skipExtended_of_peekExtended hp (by simp)) remains
    | some c => simp [peek, hp, peekExtended_before hb hp]

theorem peek_eq_some {extended : Bool} {cs long : List Char} {c : Char} (hb : Before slash cs long)
    (h : peek extended cs = some c) (visible : isBlank c = false) (other : c ≠ '#') :
    peek extended long = some c := by
  cases cs with
  | nil => cases extended <;> cases h
  | cons d rest =>
    obtain ⟨left, rfl, -⟩ := hb.cons
    cases extended with
    | false => exact h
    | true =>
      cases hp : peekExtended false (d :: rest) with
      | some e =>
        simp only [peek, hp, if_true] at h
        simp only [peek, peekExtended_before hb hp, if_true]
        exact h
      | none =>
        obtain rfl : d = c := by simpa [peek, hp] using h
        simp [peekExtended, visible, other] at hp

@[grind →]
theorem setOp?_before {cs after long : List Char} {kind : SetOp} (hb : Before slash cs long)
    (h : setOp? cs = some (kind, after)) :
    ∃ left, setOp? long = some (kind, left) ∧ Before slash after left := by
  unfold setOp? at h
  grind [setOp?]

/-- An item is never the last of its class. -/
@[grind →]
theorem two_le_of_classItem {extended : Bool} {cs after : List Char} {item : ClassExpr}
    (h : classItem extended cs = .ok (item, after)) : 2 ≤ cs.length := by
  unfold classItem at h
  split at h
  · cases h
  · rename_i first behind read
    have shorter := length_classPrimitive read
    have within := length_skipBlanks extended behind
    cases hs : skipBlanks extended behind with
    | nil =>
      rw [hs] at h
      cases h
    | cons c rest =>
      rw [hs, List.length_cons] at within
      omega

@[grind →]
theorem setOp?_eq_none {cs long : List Char} (hb : Before slash cs long) (h : setOp? cs = none)
    (two : 2 ≤ cs.length) : setOp? long = none := by
  match cs, two with
  | c :: d :: rest, _ =>
    obtain ⟨left, rfl, hb⟩ : ∃ left, long = c :: d :: left ∧ Before slash rest left := by grind
    unfold setOp? at h ⊢
    grind

@[grind →]
theorem classItem_before {extended : Bool} {cs after long : List Char} {item : ClassExpr}
    (hb : Before slash cs long) (h : classItem extended cs = .ok (item, after)) :
    ∃ left, classItem extended long = .ok (item, left) ∧ Before slash after left := by
  unfold classItem at h ⊢
  split at h
  · cases h
  · rename_i first behind read
    obtain ⟨left, hl, hb⟩ := classPrimitive_before hb read
    rw [hl]
    dsimp only
    cases hs : skipBlanks extended behind with
    | nil =>
      rw [hs] at h
      cases h
    | cons c rest =>
      have inside : Before slash (c :: rest) (skipBlanks extended left) := hs ▸ skipBlanks_before hb
      obtain ⟨left, hl, further⟩ := inside.cons
      rw [hl] at inside
      rw [hs] at h
      rw [hl]
      dsimp only at h ⊢
      by_cases ends : c ≠ '-' ∨ peek extended rest = some ']' ∨ peek extended rest = some '-'
      · have ends' : c ≠ '-' ∨ peek extended left = some ']' ∨ peek extended left = some '-' :=
          ends.imp_right (Or.imp (peek_eq_some further · (by decide +kernel) (by decide))
            (peek_eq_some further · (by decide +kernel) (by decide)))
        rw [if_pos ends] at h
        rw [if_pos ends']
        grind
      · rw [if_neg ends] at h
        cases hs : skipBlanks extended rest with
        | nil =>
          rw [hs] at h
          cases h
        | cons d more =>
          rw [peek_before further (by simp [hs]), if_neg ends]
          grind

@[grind →]
theorem asciiClass?_before {cs long after : List Char} {item : ClassExpr} (hb : Before slash cs long)
    (h : asciiClass? cs = some (item, after)) :
    ∃ left, asciiClass? long = some (item, left) ∧ Before slash after left := by
  cases hb with
  | nothing => cases h
  | closing =>
    rw [asciiClass?_append, h]
    exact ⟨_, rfl, .closing after⟩

@[grind →]
theorem asciiClass?_eq_none {cs long : List Char} (hb : Before slash cs long)
    (h : asciiClass? cs = none) : asciiClass? long = none := by
  cases hb with
  | nothing => rfl
  | closing =>
    rw [asciiClass?_append, h]
    rfl

theorem classRest_of_le {extended : Bool} {fuel fuel' : Nat} {frames : List ClassFrame}
    {items : List ClassExpr} {cs after long : List Char} {result : Bool × ClassExpr}
    (hb : Before slash cs long) (more : fuel ≤ fuel')
    (h : classRest extended fuel frames items cs = .ok (result, after)) :
    ∃ left, classRest extended fuel' frames items long = .ok (result, left) ∧ Before slash after left := by
  fun_induction classRest extended fuel frames items cs generalizing long fuel' <;> cases fuel' <;>
    grind [classRest]

@[grind →]
theorem classBody_before {extended : Bool} {cs after long : List Char} {result : Bool × ClassExpr}
    (hb : Before slash cs long) (h : classBody extended cs = .ok (result, after)) :
    ∃ left, classBody extended long = .ok (result, left) ∧ Before slash after left := by
  unfold classBody at h ⊢
  split at h
  · cases h
  · rename_i negated items behind opened
    obtain ⟨left, hl, hb⟩ := openClass_before hb opened
    rw [hl]
    exact classRest_of_le hb (Nat.succ_le_succ hb.length_le) h

/-! ## Groups -/

@[grind →]
theorem flagItems_before {before items : List FlagItem} {cs after long : List Char}
    (hb : Before slash cs long) (h : flagItems before cs = .ok (items, after)) :
    ∃ left, flagItems before long = .ok (items, left) ∧ Before slash after left := by
  fun_induction flagItems before cs generalizing long <;> grind [flagItems]

@[grind →]
theorem nameRest_before {cs name after long : List Char} (hb : Before slash cs long)
    (h : nameRest cs = .ok (name, after)) :
    ∃ left, nameRest long = .ok (name, left) ∧ Before slash after left := by
  fun_induction nameRest cs generalizing long name <;> grind [nameRest]

@[grind →]
theorem groupName_before {cs after long : List Char} {name : String} (hb : Before slash cs long)
    (h : groupName cs = .ok (name, after)) :
    ∃ left, groupName long = .ok (name, left) ∧ Before slash after left := by
  unfold groupName at h ⊢
  grind

theorem exists_cons_of_flagItems {before items : List FlagItem} {cs after : List Char}
    (h : flagItems before cs = .ok (items, after)) : ∃ c rest, after = c :: rest := by
  fun_induction flagItems before cs <;> grind

theorem groupOpening_of_name {c : Char} {rest : List Char} (hc : c ∉ ['=', '!']) :
    groupOpening ('?' :: '<' :: c :: rest) =
      match groupName (c :: rest) with
      | .error e => .error e
      | .ok (name, after) => .ok (.named name, after) := by
  unfold groupOpening
  split <;> grind

@[grind →]
theorem groupOpening_before {cs after long : List Char} {o : Opening} (hb : Before slash cs long)
    (h : groupOpening cs = .ok (o, after)) :
    ∃ left, groupOpening long = .ok (o, left) ∧ Before slash after left := by
  unfold groupOpening at h
  split at h
  case h_5 rest =>
    obtain ⟨left, rfl, behind⟩ : ∃ left, long = '?' :: 'P' :: '<' :: left ∧ Before slash rest left := by grind
    unfold groupOpening
    grind
  case h_6 rest notEqual notBang =>
    obtain ⟨left, rfl, behind⟩ : ∃ left, long = '?' :: '<' :: left ∧ Before slash rest left := by grind
    cases rest with
    | nil => cases h
    | cons c rest =>
      obtain ⟨left, rfl, further⟩ := behind.cons
      have other : c ∉ ['=', '!'] := by
        simp only [List.mem_cons, List.not_mem_nil, or_false]
        rintro (rfl | rfl)
        · exact notEqual rest rfl
        · exact notBang rest rfl
      rw [groupOpening_of_name other]
      grind
  case h_8 rest _ _ _ _ _ _ _ =>
    obtain ⟨left, rfl, behind⟩ := hb.cons
    cases rest with
    | nil => cases h
    | cons c rest =>
      obtain ⟨left, rfl, further⟩ := behind.cons
      have flag : c ∉ ['P', '<', '=', '!'] := by
        simp only [List.mem_cons, List.not_mem_nil, or_false]
        rintro (rfl | rfl | rfl | rfl) <;> cases h
      rw [groupOpening_of_flag flag]
      cases read : flagItems [] (c :: rest) with
      | error e =>
        rw [read] at h
        cases h
      | ok result =>
        obtain ⟨items, behind⟩ := result
        obtain ⟨left', hl, hb⟩ := flagItems_before ‹Before slash (c :: rest) (c :: left)› read
        obtain ⟨d, behind, rfl⟩ := exists_cons_of_flagItems read
        rw [read] at h
        rw [hl]
        grind
  case h_9 other =>
    cases h
    refine ⟨long, ?_, hb⟩
    unfold groupOpening
    split <;> grind
  all_goals cases h

/-! ## Parts

The reader stands inside one more group, which was opened before all others. -/

/-- The same state inside a group. -/
def State.inside (s : State) (g : OpenGroup) : State :=
  { s with groups := s.groups ++ [g] }

theorem readBounds_before {extended : Bool} {cs after long : List Char} {bounds : Nat × Option Nat}
    (hb : Before slash cs long) (h : readBounds extended cs = .ok (bounds, after)) (remains : after ≠ []) :
    ∃ left, readBounds extended long = .ok (bounds, left) ∧ Before slash after left := by
  unfold readBounds at h ⊢
  grind

section

variable {s t : State} {cs after long : List Char} (g : OpenGroup)

theorem readOpening_before (hb : Before slash cs long) (h : readOpening s cs = .ok (t, after)) :
    ∃ left, readOpening (s.inside g) long = .ok (t.inside g, left) ∧ Before slash after left := by
  unfold readOpening at h
  cases opening : groupOpening (skipBlanks s.extended cs) with
  | error e =>
    rw [opening] at h
    cases h
  | ok result =>
    obtain ⟨o, behind⟩ := result
    obtain ⟨left, hl, hb⟩ := groupOpening_before (skipBlanks_before hb) opening
    have hl : groupOpening (skipBlanks (s.inside g).extended long) = .ok (o, left) := hl
    rw [opening] at h
    unfold readOpening
    rw [hl]
    cases o with
    | settings items | plain items | numbered =>
      cases h
      exact ⟨left, rfl, hb⟩
    | named name =>
      dsimp only at h ⊢
      split at h
      · cases h
      · rename_i fresh
        cases h
        exact ⟨left, if_neg fresh, hb⟩

theorem readClosing_before (hb : Before slash cs long) (h : readClosing s cs = .ok (t, after)) :
    ∃ left, readClosing (s.inside g) long = .ok (t.inside g, left) ∧ Before slash after left := by
  obtain ⟨level, groups, extended, count, names⟩ := s
  cases groups with
  | nil => cases h
  | cons inner groups =>
    cases h
    exact ⟨long, rfl, hb⟩

/-- A question mark behind a repetition makes it lazy, and the closing begins with none. -/
theorem lazy_before (hb : Before slash cs long) :
    (∃ rest left, cs = '?' :: rest ∧ long = '?' :: left ∧ Before slash rest left) ∨
      (∀ rest, cs ≠ '?' :: rest) ∧ ∀ left, long ≠ '?' :: left := by
  by_cases lazy : ∃ rest, cs = '?' :: rest
  · obtain ⟨rest, rfl⟩ := lazy
    obtain ⟨left, rfl, behind⟩ := hb.cons
    exact .inl ⟨rest, left, rfl, rfl, behind⟩
  · refine .inr ⟨fun rest same => lazy ⟨rest, same⟩, ?_⟩
    rintro left rfl
    obtain ⟨rest, rfl, -⟩ := hb.of_cons (by decide) (by decide)
    exact lazy ⟨rest, rfl⟩

theorem readRepetition_before {least : Nat} {most : Option Nat} (hb : Before slash cs long)
    (h : readRepetition s least most cs = .ok (t, after)) :
    ∃ left, readRepetition (s.inside g) least most long = .ok (t.inside g, left) ∧
      Before slash after left := by
  unfold readRepetition at h
  cases hp : s.level.popOperand with
  | error e =>
    rw [hp] at h
    cases h
  | ok result =>
    have hp' : (s.inside g).level.popOperand = .ok result := hp
    rw [hp] at h
    unfold readRepetition
    rw [hp']
    rcases lazy_before hb with ⟨rest, left, rfl, rfl, behind⟩ | ⟨greedy, greedy'⟩
    · cases h
      exact ⟨left, rfl, behind⟩
    · dsimp only at h ⊢
      split at h
      · cases greedy _ rfl
      · cases h
        exact ⟨_, rfl, hb⟩

theorem readCounted_of_bounds {operand : Expr} {level : Level} {c : Char} {rest behind : List Char}
    {least : Nat} {most : Option Nat} (hp : s.level.popOperand = .ok (operand, level))
    (hs : skipBlanks s.extended cs = c :: rest)
    (hr : readBounds s.extended (c :: rest) = .ok ((least, most), '\x7d' :: behind)) :
    readCounted s cs =
      let (greedy, after) :=
        match skipBlanks s.extended behind with
        | '?' :: after => (false, after)
        | after => (true, after)
      if most.all (least ≤ ·) then
        .ok ({ s with level := level.push (.repetition least most greedy operand) }, after)
      else .error .repetitionCountInvalid := by
  unfold readCounted
  rw [hp]
  dsimp only
  rw [hs]
  dsimp only
  rw [hr]
  rfl

theorem readCounted_before (hb : Before slash cs long) (h : readCounted s cs = .ok (t, after)) :
    ∃ left, readCounted (s.inside g) long = .ok (t.inside g, left) ∧ Before slash after left := by
  cases hp : s.level.popOperand with
  | error e =>
    unfold readCounted at h
    rw [hp] at h
    cases h
  | ok result =>
    obtain ⟨operand, level⟩ := result
    cases hs : skipBlanks s.extended cs with
    | nil =>
      unfold readCounted at h
      rw [hp] at h
      dsimp only at h
      rw [hs] at h
      cases h
    | cons c rest =>
      have body : Before slash (c :: rest) (skipBlanks s.extended long) := hs ▸ skipBlanks_before hb
      obtain ⟨left, hl, -⟩ := body.cons
      rw [hl] at body
      obtain ⟨least, most, behind, hr⟩ : ∃ least most behind,
          readBounds s.extended (c :: rest) = .ok ((least, most), '\x7d' :: behind) := by
        unfold readCounted at h
        rw [hp] at h
        dsimp only at h
        rw [hs] at h
        dsimp only at h
        split at h
        · cases h
        · exact ⟨_, _, _, ‹_›⟩
        · cases h
      obtain ⟨left', hl', closed⟩ := readBounds_before body hr (List.cons_ne_nil _ _)
      obtain ⟨left', rfl, further⟩ := closed.cons
      rw [readCounted_of_bounds hp hs hr] at h
      rw [readCounted_of_bounds (s := s.inside g) hp hl hl']
      have mark : Before slash (skipBlanks s.extended behind) (skipBlanks (s.inside g).extended left') :=
        skipBlanks_before further
      revert h
      generalize skipBlanks s.extended behind = rest at mark
      generalize skipBlanks (s.inside g).extended left' = left at mark
      intro h
      rcases lazy_before mark with ⟨rest, left, rfl, rfl, further⟩ | ⟨greedy, greedy'⟩
      · dsimp only at h ⊢
        split at h
        · cases h
          exact ⟨left, if_pos ‹_›, further⟩
        · cases h
      · dsimp only at h ⊢
        split at h
        · rename_i bounded
          rw [if_pos bounded]
          split at h
          · cases greedy _ rfl
          · cases h
            exact ⟨_, rfl, mark⟩
        · cases h

theorem readPart_before {c : Char} (hb : Before slash cs long) (h : readPart s c cs = .ok (t, after)) :
    ∃ left, readPart (s.inside g) c long = .ok (t.inside g, left) ∧ Before slash after left := by
  unfold readPart at h
  split at h
  case h_1 => exact readOpening_before g hb h
  case h_2 => exact readClosing_before g hb h
  case h_4 =>
    split at h
    · cases h
    · rename_i negated inner behind read
      obtain ⟨left, hl, hb⟩ := classBody_before hb read
      have hl : classBody (s.inside g).extended long = .ok ((negated, inner), left) := hl
      cases h
      unfold readPart
      rw [hl]
      exact ⟨left, rfl, hb⟩
  case h_5 => exact readRepetition_before g hb h
  case h_6 => exact readRepetition_before g hb h
  case h_7 => exact readRepetition_before g hb h
  case h_8 => exact readCounted_before g hb h
  case h_9 =>
    split at h
    · cases h
    · rename_i p behind read
      obtain ⟨left, hl, hb⟩ := escape_before hb read
      have hl : escape (s.inside g).extended long = .ok (p, left) := hl
      cases h
      unfold readPart
      rw [hl]
      exact ⟨left, rfl, hb⟩
  case h_13 =>
    cases h
    refine ⟨long, ?_, hb⟩
    unfold readPart
    split <;> first | contradiction | rfl
  all_goals
    cases h
    exact ⟨long, rfl, hb⟩

end

/-! ## Runs -/

/-- A run through a text is a run through the same text inside a group. -/
theorem Reads.inside {s t : State} {cs left long : List Char} (h : Reads s cs t left) (g : OpenGroup)
    (hb : Before slash cs long) :
    ∃ behind, Reads (s.inside g) long (t.inside g) behind ∧ Before slash left behind := by
  induction h generalizing long with
  | here s cs => exact ⟨long, .here _ _, hb⟩
  | @part s t u c cs rest after left front read _ ih =>
    have inside : Before slash (c :: rest) (skipBlanks (s.inside g).extended long) :=
      front ▸ skipBlanks_before hb
    obtain ⟨rest', front', hb⟩ := inside.cons
    obtain ⟨after', read', hb⟩ := readPart_before g hb read
    obtain ⟨behind, further, hb⟩ := ih hb
    exact ⟨behind, .part front' read' further, hb⟩

end

end Routing.Regex.Reader
