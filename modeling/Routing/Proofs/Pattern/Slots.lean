import Routing.Proofs.Pattern.Covering
import Routing.Proofs.Regex.Openings

/-!
# Slots and their groups

A slot is declared where the translation opens a group for it. The reader takes the opening for one
where it agrees with the translation on what is inside a class. The two may end a class at different
brackets, as only the reader knows nested classes and the `[:alpha:]` kind; that does no harm as long as
no slot is declared in between.

* `Pattern.DeclaresOutside`: where the text declares a slot, every class before it is closed
* `Token.ahead_of_lexFrom`: in such a text every slot is opened outside of the classes
* `Pattern.slots_have_groups`: which slots have their group
-/
namespace Routing.Pattern

open Regex Regex.Reader

namespace Token

/-- Where a token declares a slot, the classes are closed that were open before the tokens, of which
there are `depth`, and those that the tokens before it have opened. -/
def declareOutside : (depth : Nat) → List Token → Bool
  | _, [] => true
  | d, t :: ts =>
    (t.slotCount == 0 || d == 0) &&
      match classesAfter d t.text with
      | some d => declareOutside d ts
      | none => slotsOf ts == 0

/-! ## Texts without brackets -/

/-- Neither opens nor closes a class, nor escapes. -/
def IsNeutral (cs : List Char) : Prop :=
  ∀ c ∈ cs, c ≠ '\\' ∧ c ≠ '[' ∧ c ≠ ']'

theorem classesAfter_of_neutral {cs : List Char} (h : IsNeutral cs) (d : Nat) :
    classesAfter d cs = some d := by
  induction cs with
  | nil => rfl
  | cons c rest ih =>
    rw [classesAfter_of_not (h c List.mem_cons_self)]
    exact ih fun d hd => h d (List.mem_cons_of_mem c hd)

theorem classesAfter_neutral_append {cs : List Char} (h : IsNeutral cs) (d : Nat) (rest : List Char) :
    classesAfter d (cs ++ rest) = classesAfter d rest :=
  classesAfter_append (classesAfter_of_neutral h d) rest

theorem mayCloseAtOnce_paren (a b b' : List Char) :
    mayCloseAtOnce (a ++ ')' :: b) = mayCloseAtOnce (a ++ ')' :: b') := by
  match a with
  | [] => rfl
  | [c] | c :: d :: rest =>
    simp only [List.cons_append, List.nil_append, mayCloseAtOnce]
    grind

/-- Behind a parenthesis that ends a text it makes no difference which neutral characters follow. -/
theorem classesAfter_paren {b b' : List Char} (hb : IsNeutral b) (hb' : IsNeutral b') :
    ∀ (a : List Char) (d : Nat), classesAfter d (a ++ ')' :: b) = classesAfter d (a ++ ')' :: b')
  | [], d => by
    rw [List.nil_append, List.nil_append, classesAfter_of_not (by decide), classesAfter_of_not (by decide),
      classesAfter_of_neutral hb, classesAfter_of_neutral hb']
  | [c], d => by
    by_cases escape : c = '\\'
    · subst escape
      exact (classesAfter_of_neutral hb d).trans (classesAfter_of_neutral hb' d).symm
    · have behind := classesAfter_paren hb hb' []
      simp only [List.cons_append, classesAfter_cons escape, mayCloseAtOnce_paren [] b b', behind]
  | c :: e :: rest, d => by
    by_cases escape : c = '\\'
    · subst escape
      exact classesAfter_paren hb hb' rest d
    · have behind := classesAfter_paren hb hb' (e :: rest)
      rw [List.cons_append, List.cons_append (a := c), classesAfter_cons escape, classesAfter_cons escape,
        mayCloseAtOnce_paren (e :: rest) b b', behind, behind, behind]

/-! ## Tokens -/

/-- What opens the group of a slot, after its parenthesis. -/
def slotMark (slot : Nat) : List Char :=
  '?' :: 'P' :: '<' :: ((slotName slot).toList ++ ['>'])

theorem slotOpening_eq (slot : Nat) : slotOpening slot = '(' :: slotMark slot := rfl

theorem groupOpening_slotMark (slot : Nat) (post : List Char) :
    groupOpening (slotMark slot ++ post) = .ok (.named (slotName slot), post) := by
  simpa [slotMark] using groupOpening_slotName slot post

theorem isNeutral_slotOpening (slot : Nat) : IsNeutral (slotOpening slot) := by
  intro c hc
  rw [slotOpening_eq, slotMark, toList_slotName] at hc
  simp only [List.mem_cons, List.mem_append, List.not_mem_nil, or_false, List.cons_append] at hc
  rcases hc with rfl | rfl | rfl | rfl | rfl | rfl | rfl | rfl | hc | rfl
  all_goals try decide
  have digit := Nat.isDigit_of_mem_toDigits (by omega) (by omega) hc
  refine ⟨?_, ?_, ?_⟩ <;> rintro rfl <;> simp at digit

theorem classesAfter_slotGroup {body : List Char} {d : Nat} (h : classesAfter d body = some d)
    (slot : Nat) : classesAfter d (slotGroup slot body) = some d := by
  rw [slotGroup, List.append_assoc, classesAfter_neutral_append (isNeutral_slotOpening slot),
    classesAfter_append h]
  rfl

/-- What stands before the opening of a parameter's group. -/
def ParamToken.front (p : ParamToken) : List Char :=
  let slash := if p.slash then ['/'] else []
  let dot := if p.dot then ['\\', '.'] else []
  if p.optional then "(?:".toList ++ slash ++ dot else slash ++ "(?:".toList ++ dot

theorem ParamToken.expansion_eq (p : ParamToken) (slot : Nat) :
    ParamToken.expansion p slot = ParamToken.front p ++ slotGroup slot (ParamToken.body p) ++
      if p.optional then [')', '?'] else [')'] := by
  unfold ParamToken.expansion ParamToken.front
  cases p.optional <;> simp

theorem classesAfter_front (p : ParamToken) (d : Nat) :
    classesAfter d (ParamToken.front p) = some d := by
  obtain ⟨slash, dot, name, capture, optional⟩ := p
  cases slash <;> cases dot <;> cases optional <;> rfl

/-- What is written before the capture of a parameter. -/
theorem isNeutral_name {p : ParamToken} (named : ∀ c ∈ p.name, isNameChar c = true) :
    IsNeutral ((if p.slash then ['/'] else []) ++ (if p.dot then ['.'] else []) ++ ':' :: p.name) := by
  have word {c : Char} (hc : c ∈ p.name) : c ≠ '\\' ∧ c ≠ '[' ∧ c ≠ ']' := by
    refine ⟨?_, ?_, ?_⟩ <;> rintro rfl <;> exact absurd (named _ hc) (by decide)
  obtain ⟨slash, dot, name, capture, optional⟩ := p
  intro c hc
  cases slash <;> cases dot <;> simp only [if_true, if_false, Bool.false_eq_true, List.nil_append,
    List.cons_append, List.mem_cons] at hc <;> grind

/-- A parameter opens and closes the same classes as written and as expanded. -/
theorem classesAfter_param {p : ParamToken} (named : ∀ c ∈ p.name, isNameChar c = true) (slot d : Nat) :
    classesAfter d (ParamToken.expansion p slot) = classesAfter d (ParamToken.text p) := by
  have front := classesAfter_append (classesAfter_front p d)
  have written := classesAfter_neutral_append (isNeutral_name named) d
  have ending : IsNeutral (if p.optional then [')', '?'] else [')']) := by
    cases p.optional <;> simp [IsNeutral]
  have mark : IsNeutral (if p.optional then ['?'] else []) := by
    cases p.optional <;> simp [IsNeutral]
  rw [ParamToken.expansion_eq, List.append_assoc, front, ParamToken.text, List.append_assoc, written]
  cases capture : p.capture with
  | none =>
    have body : classesAfter d (ParamToken.body p) = some d := by
      rw [ParamToken.body, capture]
      cases p.dot <;> rfl
    rw [classesAfter_append (classesAfter_slotGroup body slot), classesAfter_of_neutral ending,
      List.nil_append, classesAfter_of_neutral mark]
  | some body =>
    rw [ParamToken.body, capture, slotGroup, List.append_assoc, List.append_assoc,
      classesAfter_neutral_append (isNeutral_slotOpening slot), List.singleton_append]
    have text : '(' :: body ++ [')'] ++ (if p.optional then ['?'] else []) =
        '(' :: (body ++ ')' :: if p.optional then ['?'] else []) := by simp
    change classesAfter d (body ++ ')' :: _) = classesAfter d ('(' :: body ++ [')'] ++ _)
    rw [text, classesAfter_of_not (by decide)]
    exact classesAfter_paren ending mark body d

theorem classesAfter_expansion {t : Token} (named : ∀ p, t = param p → ∀ c ∈ p.name, isNameChar c = true)
    (slot d : Nat) : classesAfter d (t.expansion slot) = classesAfter d t.text := by
  cases t with
  | param p => exact classesAfter_param (named p rfl) slot d
  | plus | star => exact classesAfter_slotGroup rfl slot
  | group => exact classesAfter_of_neutral (isNeutral_slotOpening slot) d
  | _ => rfl

theorem named_of_next? {cs rest : List Char} {p : ParamToken} (h : next? cs = some (param p, rest)) :
    ∀ c ∈ p.name, isNameChar c = true := by
  unfold next? at h
  split at h
  · rename_i q after found
    cases h
    unfold param? at found
    dsimp only at found
    split at found
    · split at found
      · cases found
      · cases found
        exact List.all_eq_true.1 List.all_takeWhile
    · cases found
  · unfold nextPlain? at h
    split at h <;> cases h

/-- A token that declares a slot opens its group outside of the classes that it opens itself. -/
theorem exists_slotOpening {t : Token} (ht : t.slotCount ≠ 0) (slot : Nat) :
    ∃ front behind, t.expansion slot = front ++ slotOpening slot ++ behind ∧
      classesAfter 0 front = some 0 := by
  cases t with
  | param p =>
    refine ⟨ParamToken.front p, ParamToken.body p ++ ')' :: if p.optional then [')', '?'] else [')'], ?_,
      classesAfter_front p 0⟩
    change ParamToken.expansion p slot = _
    simp only [ParamToken.expansion_eq, slotGroup, List.append_assoc, List.cons_append, List.nil_append]
  | plus | star => exact ⟨[], _, List.append_assoc .., rfl⟩
  | group => exact ⟨[], [], (List.append_nil _).symm, rfl⟩
  | _ => exact absurd rfl ht

/-- If the slots are declared outside of the classes, their groups are opened there. -/
theorem ahead_of_lexFrom {fuel d i : Nat} {cs : List Char}
    (outside : declareOutside d (lexFrom fuel cs) = true) (hi : i < slotsOf (lexFrom fuel cs)) (slot : Nat)
    (behind : List Char) :
    Ahead (slotMark (slot + i)) d (expansions slot (lexFrom fuel cs) ++ behind) := by
  induction fuel generalizing d i cs slot with
  | zero => cases hi
  | succ fuel ih =>
    cases found : next? cs with
    | none =>
      simp only [lexFrom, found] at hi
      cases hi
    | some token =>
      obtain ⟨t, rest⟩ := token
      simp only [lexFrom, found, declareOutside, Bool.and_eq_true, Bool.or_eq_true, beq_iff_eq,
        slotsOf] at outside hi
      obtain ⟨here, later⟩ := outside
      simp only [lexFrom, found, expansions, List.append_assoc]
      by_cases first : i < t.slotCount
      · obtain rfl : i = 0 := by cases t <;> simp_all [slotCount]
        obtain rfl : d = 0 := here.resolve_left (by omega)
        obtain ⟨front, after, same, closed⟩ := exists_slotOpening (t := t) (by omega) slot
        rw [same, List.append_assoc, List.append_assoc, slotOpening_eq]
        exact .append closed (.here _)
      · obtain ⟨j, rfl⟩ : ∃ j, i = t.slotCount + j := ⟨i - t.slotCount, by omega⟩
        have more : j < slotsOf (lexFrom fuel rest) := by omega
        have same := classesAfter_expansion (t := t) (fun p same => named_of_next? (same ▸ found)) slot d
        split at later
        · rename_i e after
          rw [← Nat.add_assoc]
          exact .append (same.trans after) (ih later more _)
        · rw [beq_iff_eq] at later
          omega

end Token

open Token

/-! ## Compiled patterns -/

/-- Where the text that is expanded declares a slot, it has closed every class that it opened before. -/
def DeclaresOutside (o : MatchOptions) (text : String) : Prop :=
  declareOutside 0 (lex (text.toList ++ if o.strict then [] else ['/', '?'])) = true

instance (o : MatchOptions) (text : String) : Decidable (DeclaresOutside o text) :=
  inferInstanceAs (Decidable (_ = true))

/-- In the expression for a text that declares its slots outside of the classes every slot has its group,
wherever no mode is set in which the reader skips blanks. -/
theorem mem_groupNames_of_outside {o : MatchOptions} {text : String} {e : Expr} {node : Node}
    {f f' : Flags} (outside : DeclaresOutside o text)
    (read : Expr.read (anchored (expansion o text)).toList = .ok e)
    (lowered : e.lower f = .ok (node, f')) (compact : e.isCompact = true) {i : Nat}
    (hi : i < (expansion o text).keys.length) : slotName i ∈ e.groupNames := by
  have body := body_ofTokens 0 0 (lex (text.toList ++ if o.strict then [] else ['/', '?']))
  rw [expansion, Expansion.ofText, length_keys_ofTokens] at hi
  have ahead := ahead_of_lexFrom outside hi 0 [')', '$']
  rw [Nat.zero_add] at ahead
  refine Expr.mem_groupNames_of_read (groupOpening_slotMark i) read compact
    (fun query hq => e.isPlain_of_lower lowered hq) ?_
  rw [toList_anchored, expansion, Expansion.ofText, body, List.append_assoc]
  exact .append rfl ahead

/-- A slot without a group receives no value from any path. -/
theorem captures_of_no_group {c : CompiledPattern} (named : c.layout = .named) {i : Nat}
    (missing : c.regex.groupIndex? (slotName i) = none) (path : String) :
    (c.parse path).captures[i]?.join = none := by
  unfold CompiledPattern.parse
  split
  · rfl
  · rename_i m _
    simp only [CompiledPattern.slots, named]
    by_cases hi : i < c.keys.length
    · simp [List.getElem?_range hi, missing]
    · have beyond : (List.range c.keys.length).length ≤ i := by simpa using hi
      rw [List.getElem?_map, List.getElem?_eq_none beyond]
      rfl

end Routing.Pattern
