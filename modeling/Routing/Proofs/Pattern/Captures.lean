import Routing.Proofs.Pattern.Joined

/-!
# Captures in parentheses

A parameter may bring the expression that it captures, in parentheses behind its name. The expression ends where
its groups, classes and escapes are closed.

* `Balanced`: texts in which whatever is opened is closed again
* `Token.balanced_eq_some_iff`: the scan for the end of a capture finds the balanced text in front of a parenthesis
* `Token.param?_text`: a parameter is read back from its text
* `capture_ends_at_balance`: where the capture of a parameter ends, and when there is none
-/
namespace Routing.Pattern

open Regex

/-- What may stand in a class behind its opening bracket: escapes, and all characters but the backslash and the
bracket that closes the class. -/
inductive ClassText : List Char → Prop where
  | nil : ClassText []
  | escape (c : Char) {rest : List Char} (later : ClassText rest) : ClassText ('\\' :: c :: rest)
  | char {c : Char} {rest : List Char} (unescaped : c ≠ '\\') (open_ : c ≠ ']') (later : ClassText rest) :
    ClassText (c :: rest)

/-- A text in which every group and every class is closed. A bracket that closes nothing stands for itself. -/
inductive Balanced : List Char → Prop where
  | nil : Balanced []
  | char {c : Char} (plain : c ∉ ['\\', '(', ')', '[']) : Balanced [c]
  | escape (c : Char) : Balanced ['\\', c]
  | charClass {inside : List Char} (text : ClassText inside) : Balanced ('[' :: (inside ++ [']']))
  | group {body : List Char} (closed : Balanced body) : Balanced ('(' :: (body ++ [')']))
  | append {front behind : List Char} (closed : Balanced front) (later : Balanced behind) :
    Balanced (front ++ behind)

/-- The text starts with a group that is closed in it. -/
def OpensCapture (text : List Char) : Prop :=
  ∃ body rest, Balanced body ∧ text = '(' :: (body ++ ')' :: rest)

namespace Token

/-! ## The scan of a balanced text -/

/-- What is scanned goes in front of what is found behind it. -/
def prepend (front : List Char) (found : List Char × List Char) : List Char × List Char :=
  (front ++ found.1, found.2)

@[simp]
theorem prepend_nil : prepend [] = id :=
  rfl

@[simp]
theorem prepend_comp_prepend (front behind : List Char) :
    prepend front ∘ prepend behind = prepend (front ++ behind) := by
  funext found
  simp [prepend]

theorem balanced_escape (d : Nat) (k : Bool) (c : Char) (rest : List Char) :
    balanced d k ('\\' :: c :: rest) = (balanced d k rest).map (prepend ['\\', c]) := by
  cases d <;> rfl

theorem balanced_bracket (d : Nat) (k : Bool) (rest : List Char) :
    balanced d k ('[' :: rest) = (balanced d true rest).map (prepend ['[']) := by
  rw [balanced_cons (by decide)]
  rfl

theorem balanced_closing_bracket (d : Nat) (k : Bool) (rest : List Char) :
    balanced d k (']' :: rest) = (balanced d false rest).map (prepend [']']) := by
  rw [balanced_cons (by decide)]
  rfl

theorem balanced_paren (d : Nat) (rest : List Char) :
    balanced d false ('(' :: rest) = (balanced (d + 1) false rest).map (prepend ['(']) := by
  rw [balanced_cons (by decide)]
  rfl

theorem balanced_closing_zero (rest : List Char) : balanced 0 false (')' :: rest) = some ([], rest) :=
  rfl

theorem balanced_closing_succ (d : Nat) (rest : List Char) :
    balanced (d + 1) false (')' :: rest) = (balanced d false rest).map (prepend [')']) :=
  rfl

/-- A character that neither opens nor closes anything is passed. In a class that is so of parentheses. -/
theorem balanced_other {k : Bool} {c : Char} (unescaped : c ≠ '\\') (bracket : c ≠ '[' ∧ c ≠ ']')
    (paren : k = false → c ≠ '(' ∧ c ≠ ')') (d : Nat) (rest : List Char) :
    balanced d k (c :: rest) = (balanced d k rest).map (prepend [c]) := by
  rw [balanced_cons unescaped]
  dsimp only
  rw [if_neg bracket.1, if_neg bracket.2, if_neg fun opens => (paren opens.2).1 opens.1,
    if_neg fun closes => (paren closes.2).2 closes.1]
  rfl

/-- The text of a class is passed up to the bracket that closes it. -/
theorem balanced_classText {inside : List Char} (text : ClassText inside) (d : Nat) (rest : List Char) :
    balanced d true (inside ++ ']' :: rest) = (balanced d false rest).map (prepend (inside ++ [']'])) := by
  induction text with
  | nil => exact balanced_closing_bracket d true rest
  | escape c later ih => simp [balanced_escape, ih]
  | @char c behind unescaped open_ later ih =>
    rw [List.cons_append]
    by_cases bracket : c = '['
    · subst bracket
      simp [balanced_bracket, ih]
    · have passed := balanced_other unescaped ⟨bracket, open_⟩ fun outside : true = false => by cases outside
      simp [passed, ih]

/-- A balanced text is passed from any depth. -/
theorem balanced_front {front : List Char} (closed : Balanced front) (d : Nat) (rest : List Char) :
    balanced d false (front ++ rest) = (balanced d false rest).map (prepend front) := by
  induction closed generalizing d rest with
  | nil => simp
  | @char c plain =>
    simp only [List.mem_cons, List.not_mem_nil, or_false, not_or] at plain
    obtain ⟨escape, paren, closing, bracket⟩ := plain
    rw [List.singleton_append]
    by_cases last : c = ']'
    · subst last
      exact balanced_closing_bracket d false rest
    · exact balanced_other escape ⟨bracket, last⟩ (fun _ => ⟨paren, closing⟩) d rest
  | escape c => exact balanced_escape d false c rest
  | charClass text => simp [balanced_bracket, balanced_classText text]
  | group closed ih => simp [balanced_paren, balanced_closing_succ, ih]
  | append closed later ihFront ihBehind => simp [ihFront, ihBehind]

/-! ## What the scan finds -/

/-- Balanced texts with `depth` closing parentheses between them. -/
inductive Closes : (depth : Nat) → List Char → Prop where
  | zero {body : List Char} (closed : Balanced body) : Closes 0 body
  | succ {depth : Nat} {body rest : List Char} (closed : Balanced body) (later : Closes depth rest) :
    Closes (depth + 1) (body ++ ')' :: rest)

namespace Closes

variable {depth : Nat} {front rest : List Char}

theorem append (closed : Balanced front) (later : Closes depth rest) : Closes depth (front ++ rest) := by
  cases later with
  | zero behind => exact .zero (closed.append behind)
  | succ behind later =>
    rw [← List.append_assoc]
    exact .succ (closed.append behind) later

/-- The first of the parentheses closes a group that is opened in front. -/
theorem group (later : Closes (depth + 1) rest) : Closes depth ('(' :: rest) := by
  cases later with
  | @succ _ body rest closed later => simpa using later.append closed.group

end Closes

/-- What the scan finds from a depth, outside of a class or in one. -/
def Finds (depth : Nat) : (inClass : Bool) → List Char → Prop
  | false, body => Closes depth body
  | true, body => ∃ inside rest, ClassText inside ∧ Closes depth rest ∧ body = inside ++ ']' :: rest

theorem Finds.escape {depth : Nat} {k : Bool} {body : List Char} (h : Finds depth k body) (c : Char) :
    Finds depth k ('\\' :: c :: body) := by
  cases k with
  | false => exact Closes.append (.escape c) h
  | true =>
    obtain ⟨inside, rest, text, later, rfl⟩ := h
    exact ⟨_, rest, text.escape c, later, rfl⟩

theorem Finds.bracket {depth : Nat} {k : Bool} {body : List Char} (h : Finds depth true body) :
    Finds depth k ('[' :: body) := by
  obtain ⟨inside, rest, text, later, rfl⟩ := h
  cases k with
  | false =>
    change Closes depth ('[' :: (inside ++ ']' :: rest))
    simpa using later.append (.charClass text)
  | true => exact ⟨_, rest, text.char (by decide) (by decide), later, rfl⟩

theorem Finds.closing_bracket {depth : Nat} {k : Bool} {body : List Char} (h : Finds depth false body) :
    Finds depth k (']' :: body) := by
  cases k with
  | false => exact Closes.append (.char (by decide)) h
  | true => exact ⟨[], body, .nil, h, rfl⟩

theorem Finds.other {depth : Nat} {k : Bool} {c : Char} {body : List Char} (unescaped : c ≠ '\\')
    (bracket : c ≠ '[' ∧ c ≠ ']') (paren : k = false → c ≠ '(' ∧ c ≠ ')') (h : Finds depth k body) :
    Finds depth k (c :: body) := by
  cases k with
  | false => exact Closes.append (.char (by simp [unescaped, bracket, paren rfl])) h
  | true =>
    obtain ⟨inside, rest, text, later, rfl⟩ := h
    exact ⟨_, rest, text.char unescaped bracket.2, later, rfl⟩

/-- The scan finds a parenthesis behind a text that closes all that is open. -/
theorem finds_of_balanced {d : Nat} {k : Bool} {cs body rest : List Char}
    (h : balanced d k cs = some (body, rest)) : cs = body ++ ')' :: rest ∧ Finds d k body := by
  have step {d d' : Nat} {k k' : Bool} (front : List Char) {behind body : List Char}
      (found : (balanced d' k' behind).map (prepend front) = some (body, rest))
      (ih : ∀ {body : List Char}, balanced d' k' behind = some (body, rest) →
        behind = body ++ ')' :: rest ∧ Finds d' k' body)
      (grows : ∀ {body : List Char}, Finds d' k' body → Finds d k (front ++ body)) :
      front ++ behind = body ++ ')' :: rest ∧ Finds d k body := by
    obtain ⟨⟨b, r⟩, there, same⟩ := Option.map_eq_some_iff.1 found
    cases same
    obtain ⟨rfl, finds⟩ := ih there
    exact ⟨(List.append_assoc ..).symm, grows finds⟩
  fun_induction balanced d k cs generalizing body with
  | case1 => cases h
  | case2 => cases h
  | case3 d k c behind ih => exact step ['\\', c] h ih (·.escape c)
  | case4 =>
    rename_i d k behind _ _ go ih
    exact step ['['] h (ih d true) (·.bracket)
  | case5 =>
    rename_i d k behind _ _ go _ ih
    exact step [']'] h (ih d false) (·.closing_bracket)
  | case6 =>
    rename_i d k c behind _ _ go _ _ opens ih
    obtain ⟨rfl, rfl⟩ := opens
    exact step ['('] h (ih (d + 1) false) (Closes.group ·)
  | case7 =>
    rename_i k c behind _ _ _ _ _ last _
    obtain ⟨rfl, rfl⟩ := last
    cases h
    exact ⟨rfl, .zero .nil⟩
  | case8 =>
    rename_i k c behind _ _ go _ _ _ last d ih
    obtain ⟨rfl, rfl⟩ := last
    exact step [')'] h (ih d false) (.succ .nil ·)
  | case9 =>
    rename_i d k c behind single paired go notOpen notClose opens closes ih
    refine step [c] h (ih d k) (Finds.other (ne_escape single paired) ⟨notOpen, notClose⟩ ?_)
    exact fun outside => ⟨fun same => opens ⟨same, outside⟩, fun same => closes ⟨same, outside⟩⟩

/-- The scan finds the balanced text that stands in front of a parenthesis. -/
theorem balanced_eq_some_iff {cs body rest : List Char} :
    balanced 0 false cs = some (body, rest) ↔ Balanced body ∧ cs = body ++ ')' :: rest := by
  constructor
  · intro found
    obtain ⟨whole, finds⟩ := finds_of_balanced found
    cases finds with
    | zero closed => exact ⟨closed, whole⟩
  · rintro ⟨closed, rfl⟩
    rw [balanced_front closed, balanced_closing_zero]
    simp [prepend]

/-! ## Parameters -/

theorem capture?_of_balanced {body : List Char} (closed : Balanced body) (rest : List Char) :
    capture? ('(' :: (body ++ ')' :: rest)) = (some body, rest) := by
  rw [capture?, balanced_eq_some_iff.2 ⟨closed, rfl⟩]

theorem capture?_of_not {text : List Char} (none_ : ¬ OpensCapture text) : capture? text = (none, text) := by
  unfold capture?
  split
  · split
    · next body rest found =>
      obtain ⟨closed, rfl⟩ := balanced_eq_some_iff.1 found
      exact absurd ⟨body, rest, closed, rfl⟩ none_
    · rfl
  · rfl

/-- A parameter as it can be written. -/
structure ParamToken.WellFormed (p : ParamToken) : Prop where
  named : p.name ≠ []
  word : ∀ c ∈ p.name, isNameChar c = true
  closed : ∀ body, p.capture = some body → Balanced body

/-- Neither the name nor a capture nor the mark of an optional parameter goes on in the text behind it. -/
def ParamToken.StopsAt (p : ParamToken) (rest : List Char) : Prop :=
  p.optional = false → rest.head? ≠ some '?' ∧
    (p.capture = none → (∀ c ∈ rest.head?, isNameChar c = false) ∧ ¬ OpensCapture rest)

/-- What stands behind the name of a parameter. -/
def ParamToken.ending (p : ParamToken) : List Char :=
  (match p.capture with
    | some body => '(' :: body ++ [')']
    | none => []) ++ if p.optional then ['?'] else []

theorem ParamToken.text_eq (p : ParamToken) :
    ParamToken.text p = (if p.slash then ['/'] else []) ++
      ((if p.dot then ['.'] else []) ++ ':' :: (p.name ++ ParamToken.ending p)) := by
  obtain ⟨slash, dot, name, capture, optional⟩ := p
  cases capture <;> simp [ParamToken.text, ParamToken.ending]

/-- What stands behind the name is no part of it, and is taken for the capture and the mark that it is. -/
theorem ParamToken.read_ending {p : ParamToken} (formed : ParamToken.WellFormed p) {rest : List Char}
    (stops : ParamToken.StopsAt p rest) :
    (∀ c ∈ (ParamToken.ending p ++ rest).head?, isNameChar c = false) ∧
      ∃ marked, capture? (ParamToken.ending p ++ rest) = (p.capture, marked) ∧
        flag '?' marked = (p.optional, rest) := by
  obtain ⟨slash, dot, name, capture, optional⟩ := p
  have mark : flag '?' ((if optional then ['?'] else []) ++ rest) = (optional, rest) := by
    cases optional with
    | true => exact flag_cons_self '?' rest
    | false => exact flag_of_head_ne (stops rfl).1
  cases capture with
  | some body =>
    have found := capture?_of_balanced (formed.closed body rfl) ((if optional then ['?'] else []) ++ rest)
    refine ⟨fun c front => ?_, _, by simpa [ParamToken.ending] using found, mark⟩
    obtain rfl : '(' = c := by simpa [ParamToken.ending] using front
    decide
  | none =>
    refine ⟨?_, _, ?_, mark⟩
    all_goals cases optional
    case refine_1.true =>
      intro c front
      obtain rfl : '?' = c := by simpa [ParamToken.ending] using front
      decide
    case refine_1.false => exact ((stops rfl).2 rfl).1
    case refine_2.true => exact capture?_of_head_ne (by simp [ParamToken.ending])
    case refine_2.false => exact capture?_of_not ((stops rfl).2 rfl).2

/-- A parameter is read back from its text. -/
theorem param?_text {p : ParamToken} (formed : ParamToken.WellFormed p) {rest : List Char}
    (stops : ParamToken.StopsAt p rest) : param? (ParamToken.text p ++ rest) = some (p, rest) := by
  obtain ⟨noName, marked, found, mark⟩ := ParamToken.read_ending formed stops
  obtain ⟨taken, left⟩ := takeWhile_append_of_head (List.all_eq_true.2 formed.word) noName
  rw [ParamToken.text_eq, param?]
  obtain ⟨slash, dot, name, capture, optional⟩ := p
  have named : name ≠ [] := formed.named
  dsimp only at taken left mark found
  cases slash <;> cases dot <;>
    simp [flag_cons_self, flag_cons_of_ne, taken, left, named, found, mark]

/-! ## Groups -/

theorem next?_group {text : List Char} (plain : text.head? ≠ some '?') :
    next? ('(' :: text) = some (group, text) := by
  have noParam : param? ('(' :: text) = none := param?_eq_none (by simp [flag])
  rw [next?, noParam]
  cases text with
  | nil => rfl
  | cons c rest =>
    have other : c ≠ '?' := by simpa using plain
    exact nextPlain?.eq_12 _ (fun _ same => other (List.cons.inj same).1)
      fun _ same => other (List.cons.inj same).1

theorem next?_special (rest : List Char) :
    ∃ colon behind, next? ('(' :: '?' :: rest) = some (special colon, behind) := by
  have noParam : param? ('(' :: '?' :: rest) = none := param?_eq_none (by simp [flag])
  rw [next?, noParam]
  by_cases colon : rest.head? = some ':'
  · obtain ⟨behind, rfl⟩ := List.head?_eq_some_iff.1 colon
    exact ⟨true, behind, rfl⟩
  · exact ⟨false, rest, nextPlain?.eq_11 _ fun _ same => colon (by rw [same]; rfl)⟩

end Token

open Token

/-- The capture of a parameter is the balanced text up to the parenthesis behind it, and the parameter ends there, or
behind the mark that makes it optional. Where no balanced text is followed by a parenthesis, the parameter ends at
its name, and what opens there is read as a group of its own. -/
theorem capture_ends_at_balance {name : List Char} (named : name ≠ [])
    (word : ∀ c ∈ name, isNameChar c = true) :
    (∀ body rest, Balanced body →
      param? (':' :: (name ++ '(' :: (body ++ ')' :: rest))) =
        some (⟨false, false, name, some body, rest.head? = some '?'⟩,
          if rest.head? = some '?' then rest.tail else rest)) ∧
    ∀ text, (¬ ∃ body rest, Balanced body ∧ text = body ++ ')' :: rest) →
      let p : ParamToken := ⟨false, false, name, none, false⟩
      param? (':' :: (name ++ '(' :: text)) = some (p, '(' :: text) ∧
      (text.head? ≠ some '?' → lex (':' :: (name ++ '(' :: text)) = param p :: group :: lex text) ∧
      (text.head? = some '?' →
        ∃ colon rest, lex (':' :: (name ++ '(' :: text)) = param p :: special colon :: lex rest) := by
  refine ⟨fun body rest closed => ?_, fun text open_ => ?_⟩
  · have formed (optional : Bool) : ParamToken.WellFormed ⟨false, false, name, some body, optional⟩ :=
      ⟨named, word, fun b same => Option.some.inj same ▸ closed⟩
    by_cases mark : rest.head? = some '?'
    · obtain ⟨behind, rfl⟩ := List.head?_eq_some_iff.1 mark
      have read := param?_text (formed true) (show ParamToken.StopsAt _ behind from fun required => by cases required)
      simpa [ParamToken.text] using read
    · have read := param?_text (formed false) (show ParamToken.StopsAt _ rest from fun _ => ⟨mark, by simp⟩)
      simpa [ParamToken.text, mark] using read
  · intro p
    have single : ¬ OpensCapture ('(' :: text) := by
      rintro ⟨body, rest, closed, same⟩
      exact open_ ⟨body, rest, closed, (List.cons.inj same).2⟩
    have formed : ParamToken.WellFormed p := ⟨named, word, fun b same => by cases same⟩
    have noName : ∀ c ∈ ('(' :: text).head?, isNameChar c = false := by
      intro c front
      obtain rfl := Option.some.inj front
      decide
    have stops : ParamToken.StopsAt p ('(' :: text) := fun _ => ⟨by simp, fun _ => ⟨noName, single⟩⟩
    have read : param? (':' :: (name ++ '(' :: text)) = some (p, '(' :: text) := by
      simpa [ParamToken.text, p] using param?_text formed stops
    have first : next? (':' :: (name ++ '(' :: text)) = some (param p, '(' :: text) := by
      rw [next?, read]
    refine ⟨read, fun plain => ?_, fun mark => ?_⟩
    · rw [lex_of_next? first, lex_of_next? (next?_group plain)]
    · obtain ⟨behind, rfl⟩ := List.head?_eq_some_iff.1 mark
      obtain ⟨colon, rest, special⟩ := next?_special behind
      exact ⟨colon, rest, by rw [lex_of_next? first, lex_of_next? special]⟩

/-- A parenthesis that is escaped or in a class closes nothing, and neither does one of a group inside. -/
theorem capture_ends_at_balance_nested :
    param? ":id(\\)[)](a|b))?x".toList =
      some (⟨false, false, ['i', 'd'], some "\\)[)](a|b)".toList, true⟩, ['x']) ∧
    param? ":id([)]".toList = some (⟨false, false, ['i', 'd'], none, false⟩, "([)]".toList) := by
  obtain ⟨closed, open_⟩ := capture_ends_at_balance (show ['i', 'd'] ≠ [] by decide) (List.all_eq_true.1 rfl)
  refine ⟨closed "\\)[)](a|b)".toList ['?', 'x'] ?_, (open_ "[)]".toList ?_).1⟩
  · have found : balanced 0 false "\\)[)](a|b))".toList = some ("\\)[)](a|b)".toList, []) := by
      simp [balanced]
    exact (balanced_eq_some_iff.1 found).1
  · rintro ⟨body, rest, closes, same⟩
    cases (balanced_eq_some_iff.2 ⟨closes, same⟩ : balanced 0 false "[)]".toList = some (body, rest))

end Routing.Pattern
