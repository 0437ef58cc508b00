import Routing.Proofs.Regex.Marks

/-!
# Openings of groups that are read as such

A scan that knows escapes and brackets only counts the classes that are open, as long as none of them
starts with its closing bracket. The reader takes brackets in the same pairs in every expression it
accepts, be they of nested classes or of the `[:alpha:]` kind, so that it takes an opening outside of the
classes for one.

* `classesAfter`: the scan
* `Ahead`: an opening that is still to come, outside of every class
* `Reader.ahead_of_readPart`: the reader comes to the opening or stays before it
* `Expr.mem_groupNames_of_read`: the opening leaves its group in the expression
-/
namespace Routing.Regex

open Routing.Unicode

/-! ## The scan -/

/-- Whether a class that was opened in front of the text may close before it holds anything. -/
def mayCloseAtOnce : List Char → Bool
  | [] | ['^'] => true
  | ']' :: _ | '^' :: ']' :: _ => true
  | _ => false

/-- How many classes are open after the text, where `depth` are before it. Gives nothing for a class that
may close at once, or a text that ends in the middle of an escape. -/
def classesAfter : (depth : Nat) → List Char → Option Nat
  | d, [] => some d
  | _, ['\\'] => none
  | d, '\\' :: _ :: rest => classesAfter d rest
  | d, c :: rest =>
    if c = '[' then if mayCloseAtOnce rest then none else classesAfter (d + 1) rest
    else if c = ']' then classesAfter (d - 1) rest
    else classesAfter d rest

theorem classesAfter_cons {d : Nat} {c : Char} {rest : List Char} (hc : c ≠ '\\') :
    classesAfter d (c :: rest) =
      if c = '[' then if mayCloseAtOnce rest then none else classesAfter (d + 1) rest
      else if c = ']' then classesAfter (d - 1) rest
      else classesAfter d rest := by
  cases rest <;> simp [classesAfter, hc]

theorem classesAfter_of_not {d : Nat} {c : Char} {rest : List Char}
    (hc : c ≠ '\\' ∧ c ≠ '[' ∧ c ≠ ']') : classesAfter d (c :: rest) = classesAfter d rest := by
  rw [classesAfter_cons hc.1, if_neg hc.2.1, if_neg hc.2.2]

theorem mayCloseAtOnce_append {a : List Char} (h : mayCloseAtOnce a = false) (b : List Char) :
    mayCloseAtOnce (a ++ b) = false := by
  match a with
  | [] => cases h
  | [c] =>
    by_cases negated : c = '^'
    · subst negated
      cases h
    · unfold mayCloseAtOnce at h ⊢
      grind
  | c :: d :: rest =>
    unfold mayCloseAtOnce at h ⊢
    grind

theorem ne_escape {c : Char} {rest : List Char} (single : c = '\\' → rest = [] → False)
    (paired : ∀ d rest', c = '\\' → rest = d :: rest' → False) : c ≠ '\\' := by
  intro escape
  cases rest with
  | nil => exact single escape rfl
  | cons d rest => exact paired d rest escape rfl

/-- A text behind another is scanned as if it stood alone, with the classes that the other leaves open. -/
theorem classesAfter_append {d e : Nat} {a : List Char} (h : classesAfter d a = some e) (b : List Char) :
    classesAfter d (a ++ b) = classesAfter e b := by
  fun_induction classesAfter d a with
  | case1 d =>
    cases h
    rfl
  | case2 => cases h
  | case3 d c rest ih => exact ih h
  | case4 => cases h
  | case5 d rest lasting _ _ ih =>
    have lasting := mayCloseAtOnce_append (Bool.not_eq_true _ ▸ lasting) b
    rw [List.cons_append, classesAfter_cons (by decide), if_pos rfl, lasting]
    exact ih h
  | case6 d rest _ _ _ ih =>
    rw [List.cons_append, classesAfter_cons (by decide), if_neg (by decide), if_pos rfl, ih h]
  | case7 d c rest single paired notOpen notClose ih =>
    rw [List.cons_append, classesAfter_of_not ⟨ne_escape single paired, notOpen, notClose⟩, ih h]

/-! ## Openings ahead -/

/-- The opening of a group, which goes on with the mark, is still to come in the text, outside of every
class, where `depth` of them are open in front of the text. -/
inductive Ahead (mark : List Char) : (depth : Nat) → List Char → Prop where
  | here (post : List Char) : Ahead mark 0 ('(' :: (mark ++ post))
  | escaped {d : Nat} {rest : List Char} (c : Char) (h : Ahead mark d rest) :
      Ahead mark d ('\\' :: c :: rest)
  | opened {d : Nat} {rest : List Char} (lasting : mayCloseAtOnce rest = false)
      (h : Ahead mark (d + 1) rest) : Ahead mark d ('[' :: rest)
  | closed {d : Nat} {rest : List Char} (h : Ahead mark (d - 1) rest) : Ahead mark d (']' :: rest)
  | char {d : Nat} {rest : List Char} {c : Char} (other : c ≠ '\\' ∧ c ≠ '[' ∧ c ≠ ']')
      (h : Ahead mark d rest) : Ahead mark d (c :: rest)

theorem Ahead.append {mark a b : List Char} {d e : Nat} (ha : classesAfter d a = some e)
    (h : Ahead mark e b) : Ahead mark d (a ++ b) := by
  fun_induction classesAfter d a with
  | case1 d =>
    cases ha
    exact h
  | case2 => cases ha
  | case3 d c rest ih => exact .escaped c (ih ha)
  | case4 => cases ha
  | case5 d rest lasting _ _ ih =>
    exact .opened (mayCloseAtOnce_append (Bool.not_eq_true _ ▸ lasting) b) (ih ha)
  | case6 d rest _ _ _ ih => exact .closed (ih ha)
  | case7 d c rest single paired notOpen notClose ih =>
    exact .char ⟨ne_escape single paired, notOpen, notClose⟩ (ih ha)

namespace Ahead

variable {mark : List Char} {d : Nat} {rest : List Char} {c : Char}

theorem of_bracket (h : Ahead mark d ('[' :: rest)) :
    mayCloseAtOnce rest = false ∧ Ahead mark (d + 1) rest := by
  cases h with
  | opened lasting h => exact ⟨lasting, h⟩
  | char other => exact absurd rfl other.2.1

theorem of_closing (h : Ahead mark d (']' :: rest)) : Ahead mark (d - 1) rest := by
  cases h with
  | closed h => exact h
  | char other => exact absurd rfl other.2.2

theorem of_escape {cs : List Char} (h : Ahead mark d ('\\' :: cs)) :
    ∃ c rest, cs = c :: rest ∧ Ahead mark d rest := by
  cases h with
  | escaped c h => exact ⟨c, _, rfl, h⟩
  | char other => exact absurd rfl other.1

theorem of_paren (h : Ahead mark d ('(' :: rest)) :
    (∃ post, rest = mark ++ post) ∨ Ahead mark d rest := by
  cases h with
  | here post => exact .inl ⟨post, rfl⟩
  | char _ h => exact .inr h

theorem of_plain (h : Ahead mark d (c :: rest)) (hc : isStructural c = false) : Ahead mark d rest := by
  cases h with
  | char _ h => exact h
  | _ => cases hc

end Ahead

/-- The opening is still to come, and the scan counts `n` open classes or more. It counts more than the
reader where that takes an opening bracket for a character. -/
def AheadWithin (mark : List Char) (n : Nat) (cs : List Char) : Prop :=
  ∃ d, n ≤ d ∧ Ahead mark d cs

namespace AheadWithin

variable {mark : List Char} {n : Nat} {rest : List Char} {c : Char}

theorem ne_nil {cs : List Char} (h : AheadWithin mark n cs) : cs ≠ [] := by
  obtain ⟨d, -, ahead⟩ := h
  cases ahead <;> exact List.cons_ne_nil _ _

theorem of_bracket (h : AheadWithin mark n ('[' :: rest)) :
    mayCloseAtOnce rest = false ∧ AheadWithin mark (n + 1) rest := by
  obtain ⟨d, le, ahead⟩ := h
  obtain ⟨lasting, inside⟩ := ahead.of_bracket
  exact ⟨lasting, d + 1, by omega, inside⟩

theorem of_closing (h : AheadWithin mark (n + 1) (']' :: rest)) : AheadWithin mark n rest := by
  obtain ⟨d, le, ahead⟩ := h
  exact ⟨d - 1, by omega, ahead.of_closing⟩

theorem of_plain (h : AheadWithin mark n (c :: rest)) (hc : isStructural c = false) :
    AheadWithin mark n rest :=
  h.imp fun _ => .imp_right (·.of_plain hc)

/-- Inside a class no opening of a group counts. -/
theorem of_inside (h : AheadWithin mark (n + 1) (c :: rest)) (hc : c ≠ '\\' ∧ c ≠ ']') :
    AheadWithin mark (n + 1) rest := by
  obtain ⟨d, le, ahead⟩ := h
  cases ahead with
  | here => cases le
  | escaped => exact absurd rfl hc.1
  | opened _ ahead => exact ⟨d + 1, by omega, ahead⟩
  | closed => exact absurd rfl hc.2
  | char _ ahead => exact ⟨d, le, ahead⟩

/-- A bracket that the reader does not take for one may change what the scan counts. -/
theorem of_char (h : AheadWithin mark 0 (c :: rest)) (hc : c ≠ '(' ∧ c ≠ '\\') :
    AheadWithin mark 0 rest := by
  obtain ⟨d, -, ahead⟩ := h
  cases ahead with
  | here => exact absurd rfl hc.1
  | escaped => exact absurd rfl hc.2
  | opened _ ahead | closed ahead | char _ ahead => exact ⟨_, Nat.zero_le _, ahead⟩

end AheadWithin

/-! ## Skipping -/

/-- The first text goes on with the second after some characters, all of which have the property. -/
inductive Skips (p : Char → Bool) : List Char → List Char → Prop where
  | refl (cs : List Char) : Skips p cs cs
  | cons {c : Char} {rest after : List Char} (hc : p c = true) (h : Skips p rest after) :
      Skips p (c :: rest) after

theorem Skips.trans {p : Char → Bool} {cs mid after : List Char} (h : Skips p cs mid)
    (further : Skips p mid after) : Skips p cs after := by
  induction h with
  | refl => exact further
  | cons hc _ ih => exact .cons hc (ih further)

theorem skips_dropWhile {p q : Char → Bool} (all : ∀ c, q c = true → p c = true) (cs : List Char) :
    Skips p cs (cs.dropWhile q) := by
  induction cs with
  | nil => exact .refl []
  | cons c rest ih =>
    rw [List.dropWhile_cons]
    split
    · exact .cons (all c ‹_›) ih
    · exact .refl _

/-- Neither opens or closes anything nor escapes. -/
def isText (c : Char) : Bool :=
  !isStructural c

/-- Neither opens a group nor escapes. -/
def isPassed (c : Char) : Bool :=
  c != '(' && c != '\\'

theorem isText_of {q : Char → Bool} (excluded : ['(', '[', ']', '\\'].all (!q ·) = true) {c : Char}
    (h : q c = true) : isText c = true := by
  rw [isText, Bool.not_eq_true', Bool.eq_false_iff]
  intro structural
  rcases isStructural_iff.1 structural with rfl | rfl | rfl | rfl <;> simp [h] at excluded

theorem isPassed_of {q : Char → Bool} (excluded : ['(', '\\'].all (!q ·) = true) {c : Char}
    (h : q c = true) : isPassed c = true := by
  by_contra passed
  have either : c = '(' ∨ c = '\\' := by simpa [isPassed, or_iff_not_imp_left] using passed
  rcases either with rfl | rfl <;> simp [h] at excluded

theorem Ahead.skip {mark : List Char} {d : Nat} {cs after : List Char} (h : Ahead mark d cs)
    (hs : Skips isText cs after) : Ahead mark d after := by
  induction hs with
  | refl => exact h
  | cons hc _ ih => exact ih (h.of_plain (by simpa [isText] using hc))

namespace AheadWithin

variable {mark : List Char} {n : Nat} {cs after : List Char}

theorem skip (h : AheadWithin mark n cs) (hs : Skips isText cs after) : AheadWithin mark n after :=
  h.imp fun _ => .imp_right (·.skip hs)

theorem pass (h : AheadWithin mark 0 cs) (hs : Skips isPassed cs after) : AheadWithin mark 0 after := by
  induction hs with
  | refl => exact h
  | cons hc _ ih => exact ih (h.of_char (by simpa [isPassed] using hc))

end AheadWithin

namespace Reader

/-! ## Escapes -/

theorem isText_of_hex {c : Char} {v : Nat} (h : Hex.value? c = some v) : isText c = true :=
  isText_of (q := fun c => (Hex.value? c).isSome) (by decide) (by simp [h])

theorem skips_hexFixed {n : Nat} {before values : List Nat} {cs after : List Char}
    (h : hexFixed false n before cs = .ok (values, after)) : Skips isText cs after := by
  fun_induction hexFixed false n before cs <;> grind [Skips, isText_of_hex, skipBlanks]

theorem skips_hexBraced {fuel : Nat} {before values : List Nat} {cs after : List Char}
    (h : hexBraced false fuel before cs = .ok (values, after)) : Skips isText cs after := by
  have brace : isText '\x7d' = true := by decide
  fun_induction hexBraced false fuel before cs <;> grind [Skips, isText_of_hex, skipBlanks]

theorem skips_hexLiteral {width : Nat} {cs after : List Char} {p : Primitive}
    (h : hexLiteral false width cs = .ok (p, after)) : Skips isText cs after := by
  have brace : isText '\x7b' = true := by decide
  unfold hexLiteral at h
  grind [Skips, skips_hexFixed, skips_hexBraced, skipBlanks]

theorem skips_propertyText {fuel : Nat} {cs name after : List Char}
    (h : propertyText false fuel cs = .ok (name, after)) (plain : ∀ c ∈ name, isText c = true) :
    Skips isText cs after := by
  have brace : isText '\x7d' = true := by decide
  fun_induction propertyText false fuel cs generalizing name <;> grind [Skips, skipBlanks]

/-- The properties that the piece asks for have plain names. -/
def IsPlain (marks : List Mark) : Prop :=
  ∀ query, .property query ∈ marks → query.isPlain = true

theorem isText_of_byName {text : List Char} (h : (PropertyQuery.byName text).isPlain = true) :
    ∀ c ∈ text, isText c = true :=
  List.all_eq_true.1 h

theorem isText_of_byValue {property mark value : List Char} (hm : mark.all isText = true)
    (h : (PropertyQuery.byValue property value).isPlain = true) :
    ∀ c ∈ property ++ mark ++ value, isText c = true := by
  obtain ⟨front, behind⟩ := Bool.and_eq_true_iff.1 h
  intro c hc
  rcases List.mem_append.1 hc with hc | hc
  · exact (List.mem_append.1 hc).elim (List.all_eq_true.1 front c) (List.all_eq_true.1 hm c)
  · exact List.all_eq_true.1 behind c hc

theorem isText_of_propertyOfText {negated : Bool} {text : List Char}
    (plain : IsPlain (propertyOfText negated text).marks) : ∀ c ∈ text, isText c = true := by
  unfold propertyOfText at plain
  split at plain
  · rename_i property value found
    rw [Text.splitFirst_append found]
    exact isText_of_byValue (by decide) (plain _ List.mem_cons_self)
  · split at plain
    · rename_i property value found
      have known : (PropertyQuery.byValue property value).isPlain = true := plain _ List.mem_cons_self
      cases colon : Text.splitFirst [':'] text with
      | some _ =>
        rw [colon] at found
        cases found
        rw [Text.splitFirst_append colon]
        exact isText_of_byValue (by decide) known
      | none =>
        rw [colon] at found
        rw [Text.splitFirst_append found]
        exact isText_of_byValue (by decide) known
    · exact isText_of_byName (plain _ List.mem_cons_self)

theorem skips_propertyEscape {negated : Bool} {cs after : List Char} {p : Primitive}
    (h : propertyEscape false negated cs = .ok (p, after)) (plain : IsPlain p.marks) :
    Skips isText cs after := by
  have brace : isText '\x7b' = true := by decide
  unfold propertyEscape at h
  split at h
  · cases h
  · rename_i rest same
    split at h
    · cases h
    · rename_i text after read
      cases h
      obtain rfl : cs = '\x7b' :: rest := same
      exact .cons brace (skips_propertyText read (isText_of_propertyOfText plain))
  · rename_i c rest _ same
    split at h
    · cases h
    · cases h
      have single : [c].all (!isStructural ·) = true := plain _ List.mem_cons_self
      obtain rfl : cs = c :: rest := same
      exact .cons (by simpa [isText] using single) (.refl rest)

theorem isText_of_boundary {c : Char} (h : isBoundaryChar c = true) : isText c = true :=
  isText_of (by decide) h

theorem skips_boundaryName {fuel : Nat} {cs name after : List Char}
    (h : boundaryName false fuel cs = (name, after)) : Skips isText cs after := by
  fun_induction boundaryName false fuel cs generalizing name <;>
    grind [Skips, isText_of_boundary, skipBlanks]

theorem skips_boundary {cs after : List Char} {p : Primitive}
    (h : boundary false cs = .ok (p, after)) : Skips isText cs after := by
  have opening : isText '\x7b' = true := by decide
  have closing : isText '\x7d' = true := by decide
  unfold boundary at h
  split at h
  · rename_i rest
    split at h
    · cases h
    · rename_i c inner same
      split at h
      · dsimp only at h
        cases hn : boundaryName false (inner.length + 2) (c :: inner) with
        | mk name behind =>
          have named := skips_boundaryName hn
          rw [hn] at h
          split at h
          · rename_i left closed
            obtain rfl : behind = '\x7d' :: left := closed
            split at h
            · cases h
              obtain rfl : rest = c :: inner := same
              exact .cons opening (named.trans (.cons closing (.refl _)))
            · cases h
          · cases h
      · cases h
        exact .refl _
  · cases h
    exact .refl _

/-- An escape takes characters of no structure after the one that is escaped. -/
theorem skips_escape {c : Char} {rest after : List Char} {p : Primitive}
    (h : escape false (c :: rest) = .ok (p, after)) (plain : IsPlain p.marks) :
    Skips isText rest after := by
  unfold escape at h
  dsimp only at h
  split at h
  · cases h
  · split at h
    · cases h
      exact .refl rest
    · split at h <;> first
        | exact skips_hexLiteral h
        | exact skips_propertyEscape h plain
        | exact skips_boundary h
        | (cases h; exact .refl rest)
        | cases h

/-! ## Classes -/

variable {mark : List Char} {n : Nat}

theorem ahead_of_escape {cs after : List Char} {p : Primitive}
    (h : escape false cs = .ok (p, after)) (plain : IsPlain p.marks)
    (ahead : AheadWithin mark n ('\\' :: cs)) : AheadWithin mark n after := by
  obtain ⟨d, le, ahead⟩ := ahead
  obtain ⟨c, rest, rfl, behind⟩ := ahead.of_escape
  exact ⟨d, le, behind.skip (skips_escape h plain)⟩

theorem ahead_of_classPrimitive {cs after : List Char} {p : Primitive}
    (h : classPrimitive false cs = .ok (p, after)) (plain : IsPlain p.marks)
    (ahead : AheadWithin mark (n + 1) cs) (inside : cs.head? ≠ some ']') :
    AheadWithin mark (n + 1) after := by
  unfold classPrimitive at h
  split at h
  · cases h
  · exact ahead_of_escape h plain ahead
  · rename_i c rest notEscape
    cases h
    exact ahead.of_inside ⟨notEscape, by simpa using inside⟩

theorem ahead_of_classItem {cs after : List Char} {item : ClassExpr}
    (h : classItem false cs = .ok (item, after)) (plain : IsPlain item.marks)
    (ahead : AheadWithin mark (n + 1) cs) (inside : cs.head? ≠ some ']') :
    AheadWithin mark (n + 1) after := by
  unfold classItem at h
  split at h
  · cases h
  · rename_i first behind read
    split at h
    · cases h
    · rename_i c rest same
      obtain rfl : behind = c :: rest := same
      dsimp only at h
      split at h
      · split at h
        · cases h
        · rename_i item' found
          cases h
          rw [marks_of_toClassItem found] at plain
          exact ahead_of_classPrimitive read plain ahead inside
      · rename_i range
        obtain ⟨rfl, next⟩ : c = '-' ∧ rest.head? ≠ some ']' := by
          simp only [peek] at range
          tauto
        split at h
        · cases h
        · split at h
          · cases h
          · rename_i last left read'
            split at h
            · rename_i a b foundA foundB
              split at h
              · cases h
                have noneA : IsPlain first.marks := by simp [IsPlain, marks_of_toRangeEnd foundA]
                have noneB : IsPlain last.marks := by simp [IsPlain, marks_of_toRangeEnd foundB]
                have behind := ahead_of_classPrimitive read noneA ahead inside
                exact ahead_of_classPrimitive read' noneB (behind.of_plain (by decide)) next
              · cases h
            · cases h
            · cases h

theorem ahead_of_openingHyphens {fuel : Nat} {before items : List ClassExpr} {cs after : List Char}
    (h : openingHyphens false fuel before cs = .ok (items, after)) (ahead : AheadWithin mark n cs) :
    AheadWithin mark n after ∧ (items = [] → before = [] ∧ after = cs) := by
  fun_induction openingHyphens false fuel before cs with
  | case1 => cases h
  | case2 => cases h
  | case3 fuel before rest _ ih =>
    obtain ⟨behind, unmarked⟩ := ih h (ahead.of_plain (by decide))
    exact ⟨behind, fun empty => absurd (unmarked empty).1 (List.cons_ne_nil _ _)⟩
  | case4 =>
    cases h
    exact ⟨ahead, fun empty => ⟨empty, rfl⟩⟩

theorem head_of_mayCloseAtOnce {cs : List Char} (h : mayCloseAtOnce cs = false) :
    cs.head? ≠ some ']' ∧ ∀ rest, cs = '^' :: rest → rest.head? ≠ some ']' := by
  constructor
  · rintro closed
    cases cs with
    | nil => cases closed
    | cons c rest =>
      obtain rfl := Option.some.inj closed
      cases h
  · rintro rest rfl closed
    cases rest with
    | nil => cases closed
    | cons c rest =>
      obtain rfl := Option.some.inj closed
      cases h

/-- The front of a class ends before any bracket, unless that closes the class at once. -/
theorem ahead_of_openClass {cs after : List Char} {front : Bool × List ClassExpr}
    (h : openClass false cs = .ok (front, after)) (lasting : mayCloseAtOnce cs = false)
    (ahead : AheadWithin mark n cs) : AheadWithin mark n after := by
  obtain ⟨first, second⟩ := head_of_mayCloseAtOnce lasting
  unfold openClass at h
  split at h
  · cases h
  · rename_i c rest same
    obtain rfl : cs = c :: rest := same
    dsimp only at h
    have body : ∀ body, (if (c == '^') = true then skipBlanks false rest else c :: rest) = body →
        AheadWithin mark n body ∧ body.head? ≠ some ']' := by
      rintro body rfl
      split
      · rename_i negated
        obtain rfl := eq_of_beq negated
        exact ⟨ahead.of_plain (by decide), second rest rfl⟩
      · exact ⟨ahead, first⟩
    split at h
    · cases h
    · obtain ⟨inside, notClosed⟩ := body _ rfl
      split at h
      · cases h
      · rename_i left read
        obtain ⟨-, same⟩ := (ahead_of_openingHyphens read inside).2 rfl
        rw [← same] at notClosed
        exact absurd rfl notClosed
      · rename_i items left _ read
        cases h
        exact (ahead_of_openingHyphens read inside).1

theorem isText_of_asciiKindOfName? {name : List Char} {kind : AsciiKind}
    (h : asciiKindOfName? name = some kind) : ∀ c ∈ name, isText c = true := by
  rw [← List.all_eq_true, ← String.toList_ofList (l := name)]
  unfold asciiKindOfName? at h
  split at h <;> first
    | (rename_i same; rw [same]; decide +kernel)
    | cases h

theorem skips_takeWhile {p q : Char → Bool} {cs : List Char} (all : ∀ c ∈ cs.takeWhile q, p c = true) :
    Skips p cs (cs.dropWhile q) := by
  induction cs with
  | nil => exact .refl []
  | cons c rest ih =>
    rw [List.takeWhile_cons] at all
    rw [List.dropWhile_cons]
    split
    · rename_i taken
      rw [if_pos taken] at all
      exact .cons (all c List.mem_cons_self) (ih fun d hd => all d (List.mem_cons_of_mem c hd))
    · exact .refl _

theorem ahead_of_asciiNamed? {negated : Bool} {body after : List Char} {item : ClassExpr}
    (h : asciiNamed? negated body = some (item, after)) (ahead : AheadWithin mark (n + 1) body) :
    AheadWithin mark n after := by
  unfold asciiNamed? at h
  split at h
  · rename_i left same
    obtain ⟨kind, known, same'⟩ := Option.map_eq_some_iff.1 h
    cases same'
    have behind := ahead.skip (same ▸ skips_takeWhile (isText_of_asciiKindOfName? known))
    exact (behind.of_plain (by decide)).of_closing
  · cases h

/-- A class such as `[:alpha:]` ends at the first bracket behind its opening one. -/
theorem ahead_of_asciiClass? {cs after : List Char} {item : ClassExpr}
    (h : asciiClass? cs = some (item, after)) (ahead : AheadWithin mark (n + 1) cs) :
    AheadWithin mark n after := by
  cases cs with
  | nil => cases h
  | cons c body =>
    by_cases colon : c = ':'
    · subst colon
      have inside := ahead.of_plain (by decide)
      by_cases negated : body.head? = some '^'
      · obtain ⟨body, rfl⟩ := List.head?_eq_some_iff.1 negated
        exact ahead_of_asciiNamed? h (inside.of_plain (by decide))
      · rw [asciiClass?_plain negated] at h
        exact ahead_of_asciiNamed? h inside
    · unfold asciiClass? at h
      simp [colon] at h

/-- The frames of `n` brackets, innermost first; behind a bracket an operator may wait for its operand. -/
inductive Brackets : Nat → List ClassFrame → Prop where
  | outermost (before : List ClassExpr) (negated : Bool) : Brackets 1 [.bracket before negated]
  | bracket {n : Nat} {frames : List ClassFrame} (before : List ClassExpr) (negated : Bool)
      (outer : Brackets n frames) : Brackets (n + 1) (.bracket before negated :: frames)
  | op {n : Nat} {frames : List ClassFrame} (kind : SetOp) (left : ClassExpr)
      (outer : Brackets n frames) : Brackets n (.op kind left :: frames)

namespace Brackets

variable {frames : List ClassFrame}

theorem ne_nil (h : Brackets n frames) : frames ≠ [] := by
  cases h <;> exact List.cons_ne_nil _ _

theorem pos (h : Brackets n frames) : 0 < n := by
  induction h with
  | outermost => decide
  | bracket => omega
  | op _ _ _ ih => exact ih

theorem closeOp (h : Brackets n frames) (right : ClassExpr) :
    Brackets n (Reader.closeOp frames right).1 := by
  cases h with
  | outermost before negated => exact .outermost before negated
  | bracket before negated outer => exact .bracket before negated outer
  | op _ _ outer => exact outer

/-- Closing a bracket closes the class, or leaves the brackets around it. -/
theorem of_bracket {before : List ClassExpr} {negated : Bool} {outer : List ClassFrame}
    (h : Brackets n (.bracket before negated :: outer)) :
    (outer = [] ∧ n = 1) ∨ ∃ m, n = m + 1 ∧ Brackets m outer := by
  cases h with
  | outermost => exact .inl ⟨rfl, rfl⟩
  | bracket _ _ outer => exact .inr ⟨_, rfl, outer⟩

end Brackets

theorem ahead_of_setOp {cs after : List Char} {kind : SetOp} (h : setOp? cs = some (kind, after))
    (ahead : AheadWithin mark n cs) : AheadWithin mark n after := by
  unfold setOp? at h
  split at h <;> cases h <;> exact (ahead.of_plain (by decide)).of_plain (by decide)

/-- The scan counts every bracket that the reader has open, up to the end of the outermost. -/
theorem ahead_of_classRest {fuel : Nat} {frames : List ClassFrame} {items : List ClassExpr}
    {cs after : List Char} {result : Bool × ClassExpr} (opened : Brackets n frames)
    (h : classRest false fuel frames items cs = .ok (result, after)) (plain : IsPlain result.2.marks)
    (ahead : AheadWithin mark n cs) : AheadWithin mark 0 after := by
  induction fuel generalizing n frames items cs with
  | zero => cases h
  | succ fuel ih =>
    have closed := opened.closeOp (unionOfItems items)
    obtain ⟨m, rfl⟩ : ∃ m, n = m + 1 := ⟨n - 1, by have := opened.pos; omega⟩
    unfold classRest at h
    split at h
    · cases h
    · rename_i rest same
      obtain rfl : cs = '[' :: rest := same
      obtain ⟨lasting, inside⟩ := ahead.of_bracket
      split at h
      · rename_i item behind found
        exact ih opened h (ahead_of_asciiClass? found inside)
      · split at h
        · cases h
        · rename_i negated inner behind front
          exact ih (.bracket items negated opened) h (ahead_of_openClass front lasting inside)
    · rename_i rest same
      obtain rfl : cs = ']' :: rest := same
      have behind := ahead.of_closing
      dsimp only at h
      split at h
      · rename_i before negated outer same
        rw [same] at closed
        rcases closed.of_bracket with ⟨rfl, one⟩ | ⟨k, more, around⟩
        · obtain rfl : m = 0 := by omega
          cases h
          exact behind
        · obtain rfl : m = k := by omega
          rw [if_neg (by simpa using around.ne_nil)] at h
          exact ih around h behind
      · cases h
    · rename_i notEnd notOpen notClose
      split at h
      · rename_i kind behind found
        exact ih (.op kind _ closed) h (ahead_of_setOp found ahead)
      · split at h
        · cases h
        · rename_i item behind read
          have kept : IsPlain item.marks := fun query hq =>
            plain query (marks_of_classRest opened.ne_nil h (.inr (List.mem_append_left _ hq)))
          refine ih opened h (ahead_of_classItem read kept ahead fun closed => ?_)
          obtain ⟨rest, rfl⟩ := List.head?_eq_some_iff.1 closed
          exact notClose rest rfl

theorem ahead_of_classBody {cs after : List Char} {result : Bool × ClassExpr}
    (h : classBody false cs = .ok (result, after)) (plain : IsPlain result.2.marks)
    (ahead : AheadWithin mark 0 ('[' :: cs)) : AheadWithin mark 0 after := by
  obtain ⟨lasting, inside⟩ := ahead.of_bracket
  unfold classBody at h
  split at h
  · cases h
  · rename_i negated items behind opened
    exact ahead_of_classRest (.outermost ..) h plain (ahead_of_openClass opened lasting inside)

/-! ## Groups and counts -/

theorem isPassed_of_flag {c : Char} {f : Flag} (h : flagOfChar? c = some f) : isPassed c = true :=
  isPassed_of (q := fun c => (flagOfChar? c).isSome) (by decide) (by simp [h])

theorem isPassed_of_nameChar {c : Char} (h : isNameChar c = true) : isPassed c = true :=
  isPassed_of (by decide +kernel) h

theorem isPassed_of_nameStart {c : Char} (h : isNameStart c = true) : isPassed c = true :=
  isPassed_of (by decide +kernel) h

/-- Flags and the character that ends them. -/
theorem skips_flagItems {before items : List FlagItem} {cs after : List Char}
    (h : flagItems before cs = .ok (items, after)) : Skips isPassed cs (after.drop 1) := by
  have hyphen : isPassed '-' = true := by decide
  have colon : isPassed ':' = true := by decide
  have paren : isPassed ')' = true := by decide
  fun_induction flagItems before cs <;> grind [Skips, isPassed_of_flag]

theorem skips_nameRest {cs name after : List Char} (h : nameRest cs = .ok (name, after)) :
    Skips isPassed cs after := by
  have ending : isPassed '>' = true := by decide
  fun_induction nameRest cs generalizing name <;> grind [Skips, isPassed_of_nameChar]

theorem skips_groupName {cs after : List Char} {name : String} (h : groupName cs = .ok (name, after)) :
    Skips isPassed cs after := by
  unfold groupName at h
  grind [Skips, isPassed_of_nameStart, skips_nameRest]

theorem skips_groupOpening {cs after : List Char} {o : Opening}
    (h : groupOpening cs = .ok (o, after)) : Skips isPassed cs after := by
  have mark : isPassed '?' = true := by decide
  have letter : isPassed 'P' = true := by decide
  have angle : isPassed '<' = true := by decide
  unfold groupOpening at h
  split at h
  · cases h
  · cases h
  · cases h
  · cases h
  · split at h
    · cases h
    · rename_i name left read
      cases h
      exact .cons mark (.cons letter (.cons angle (skips_groupName read)))
  · split at h
    · cases h
    · rename_i name left read
      cases h
      exact .cons mark (.cons angle (skips_groupName read))
  · cases h
  · split at h
    · cases h
    · rename_i items left read
      split at h
      · cases h
      · cases h
        exact .cons mark (skips_flagItems read)
    · rename_i items left _ read
      cases h
      exact .cons mark (skips_flagItems read)
  · cases h
    exact .refl _

theorem isPassed_of_blank {c : Char} (h : isBlank c = true) : isPassed c = true :=
  isPassed_of (by decide +kernel) h

theorem skips_digits {cs ds after : List Char} (h : digits false false cs = (ds, after)) :
    Skips isPassed cs after := by
  induction cs generalizing ds with
  | nil =>
    cases h
    exact .refl []
  | cons c rest ih =>
    rw [digits] at h
    split at h
    · rename_i digit
      cases h
      exact .cons (isPassed_of (by decide) digit) (ih rfl)
    · simp only [Bool.false_eq_true, false_and, if_false, Prod.mk.injEq] at h
      exact h.2 ▸ .refl _

theorem skips_decimal {cs after : List Char} {value : Except RegexError Nat}
    (h : decimal false cs = (value, after)) : Skips isPassed cs after := by
  have blanks (cs : List Char) := skips_dropWhile (fun c => isPassed_of_blank (c := c)) cs
  cases hds : digits false false (cs.dropWhile isBlank) with
  | mk ds behind =>
    simp only [decimal, hds, Prod.mk.injEq] at h
    obtain ⟨-, rfl⟩ := h
    exact ((blanks cs).trans (skips_digits hds)).trans (blanks behind)

theorem skips_readBounds {cs after : List Char} {bounds : Nat × Option Nat}
    (h : readBounds false cs = .ok (bounds, after)) : Skips isPassed cs after := by
  have comma : isPassed ',' = true := by decide
  unfold readBounds at h
  split at h
  · cases h
  · rename_i least rest read
    have behind : Skips isPassed cs rest := (skips_decimal read).trans (.cons comma (.refl rest))
    split at h
    · cases h
    · rename_i left same
      obtain rfl : rest = '\x7d' :: left := same
      split at h <;> cases h
      exact behind
    · split at h
      · cases h
      · cases h
      · rename_i n m left read'
        cases h
        exact behind.trans (skips_decimal read')
  · cases h
  · rename_i n left _ read
    cases h
    exact skips_decimal read

theorem skips_readCounted {s t : State} {cs after : List Char} (compact : s.extended = false)
    (h : readCounted s cs = .ok (t, after)) : Skips isPassed cs after := by
  have brace : isPassed '\x7d' = true := by decide
  have mark : isPassed '?' = true := by decide
  unfold readCounted at h
  rw [compact] at h
  split at h
  · cases h
  · split at h
    · cases h
    · split at h
      · cases h
      · rename_i least most left read
        have behind : Skips isPassed cs left := (skips_readBounds read).trans (.cons brace (.refl left))
        dsimp only at h
        split at h
        · cases h
          split
          · rename_i after same
            obtain rfl : left = '?' :: after := same
            exact behind.trans (.cons mark (.refl after))
          · exact behind
        · cases h
      · cases h

theorem skips_readRepetition {s t : State} {least : Nat} {most : Option Nat} {cs after : List Char}
    (h : readRepetition s least most cs = .ok (t, after)) : Skips isPassed cs after := by
  have mark : isPassed '?' = true := by decide
  unfold readRepetition at h
  grind [Skips]

theorem skips_readOpening {s t : State} {cs after : List Char} (compact : s.extended = false)
    (h : readOpening s cs = .ok (t, after)) : Skips isPassed cs after := by
  unfold readOpening at h
  grind [skips_groupOpening, skipBlanks]

/-! ## Runs -/

/-- A part takes the opening for what it is, or leaves it ahead. -/
theorem ahead_of_readPart {s t : State} {c : Char} {cs after : List Char}
    (compact : s.extended = false) (h : readPart s c cs = .ok (t, after)) (plain : IsPlain t.marks)
    (ahead : AheadWithin mark 0 (c :: cs)) :
    (c = '(' ∧ ∃ post, cs = mark ++ post) ∨ AheadWithin mark 0 after := by
  have pushed {e : Expr} (whole : IsPlain (s.push e).marks) : IsPlain e.marks :=
    fun query hq => whole query ((mem_marks_push e).2 (.inl hq))
  have passed (hc : c ≠ '(' ∧ c ≠ '\\') (hs : Skips isPassed cs after) : AheadWithin mark 0 after :=
    (ahead.of_char hc).pass hs
  unfold readPart at h
  split at h
  · obtain ⟨d, -, ahead⟩ := ahead
    rcases ahead.of_paren with here | behind
    · exact .inl ⟨rfl, here⟩
    · exact .inr (AheadWithin.pass ⟨d, Nat.zero_le d, behind⟩ (skips_readOpening compact h))
  all_goals right
  · unfold readClosing at h
    split at h
    · cases h
    · cases h
      exact passed (by decide) (.refl _)
  · cases h
    exact passed (by decide) (.refl _)
  · rw [compact] at h
    split at h
    · cases h
    · rename_i negated inner behind read
      cases h
      exact ahead_of_classBody read (pushed plain) ahead
  · exact passed (by decide) (skips_readRepetition h)
  · exact passed (by decide) (skips_readRepetition h)
  · exact passed (by decide) (skips_readRepetition h)
  · exact passed (by decide) (skips_readCounted compact h)
  · rw [compact] at h
    split at h
    · cases h
    · rename_i p behind read
      cases h
      exact ahead_of_escape read (pushed plain) ahead
  · cases h
    exact passed (by decide) (.refl _)
  · cases h
    exact passed (by decide) (.refl _)
  · cases h
    exact passed (by decide) (.refl _)
  · rename_i paren _ _ _ _ _ _ _ escape _ _ _
    cases h
    exact passed ⟨paren, escape⟩ (.refl _)

/-- An opening that is ahead leaves its group behind before the text has ended. -/
theorem exists_group_of_reads {s t : State} {cs left : List Char} {name : String}
    (opens : ∀ post, groupOpening (mark ++ post) = .ok (.named name, post))
    (run : Reads s cs t left) (blank : skipBlanks t.extended left = [])
    (compact : ∀ m ∈ t.marks, m.isCompact = true) (plain : IsPlain t.marks) (mode : s.IsCompact)
    (ahead : AheadWithin mark 0 cs) : ∃ i, .group (.capture i (some name)) ∈ t.marks := by
  induction run with
  | here s cs =>
    rw [mode.1] at blank
    exact absurd blank ahead.ne_nil
  | @part s t u c cs rest after left front read further ih =>
    rw [mode.1] at front
    obtain rfl : cs = c :: rest := front
    have kept : ∀ m ∈ t.marks, m ∈ u.marks := fun m hm => marks_of_reads further hm
    have mode' := isCompact_of_readPart mode read fun m hm => compact m (kept m hm)
    rcases ahead_of_readPart mode.1 read (fun query hq => plain query (kept _ hq)) ahead with
      ⟨rfl, post, rfl⟩ | later
    · change readOpening s (mark ++ post) = _ at read
      rw [readOpening, mode.1] at read
      simp only [skipBlanks, Bool.false_eq_true, if_false, opens] at read
      split at read
      · cases read
      · cases read
        exact ⟨_, kept _ ((mem_marks_openGroup _ _).2 (.inl rfl))⟩
    · exact ih blank compact plain mode' later

end Reader

/-- An expression has the group of every opening that a scan finds in its text outside of the
classes. -/
theorem Expr.mem_groupNames_of_read {mark text : List Char} {name : String} {e : Expr}
    (opens : ∀ post, Reader.groupOpening (mark ++ post) = .ok (.named name, post))
    (h : Expr.read text = .ok e) (compact : e.isCompact = true) (plain : Reader.IsPlain e.marks)
    (ahead : Ahead mark 0 text) : name ∈ e.groupNames := by
  obtain ⟨t, left, run, blank, whole⟩ := Expr.read_eq_ok_iff.1 h
  have kept : ∀ m ∈ t.marks, m ∈ e.marks := fun m hm => Reader.marks_of_finish whole hm
  have start : Reader.State.IsCompact {} := ⟨rfl, fun g hg => by cases hg⟩
  obtain ⟨i, member⟩ := Reader.exists_group_of_reads opens run blank
    (fun m hm => List.all_eq_true.1 compact m (kept m hm))
    (fun query hq => plain query (kept _ hq)) start ⟨0, Nat.le_refl 0, ahead⟩
  exact List.mem_filterMap.2 ⟨_, kept _ member, rfl⟩

end Routing.Regex
