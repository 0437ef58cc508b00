import Mathlib.Data.List.Chain
import Routing.Pattern.Expansion

/-!
# Plain patterns

A plain pattern is made of literal characters, parameters without an expression of their own, and
wildcards. Its text is the text of its tokens, strung together so that none runs into the next.

* `Plain`: the token lists that make a plain pattern
* `Plain.lex_text`: the text is cut into the tokens that it was made of
* `Plain.body_ofText`: each token goes into the regular expression as one piece
-/
namespace Routing.Pattern

/-- A character that stands for itself and is no separator. -/
def isWordChar (c : Char) : Bool :=
  isNameChar c || c == '~' || c == '%' || c == '-'

/-- A character that stands for itself in a path pattern. -/
def isPlainChar (c : Char) : Bool :=
  isWordChar c || c == '/' || c == '.'

namespace Token

def isPlain : Token → Bool
  | slash | dot | plus | star => true
  | char c => isWordChar c
  | param p => p.capture.isNone && !p.name.isEmpty && p.name.all isNameChar
  | _ => false

/-- Whether the second token may stand right after the first. A word character right after the name of
a parameter would belong to the name, and a separator right before a parameter to the parameter. -/
def mayPrecede : Token → Token → Bool
  | param p, char c => p.optional || !isNameChar c
  | slash, param p => p.slash
  | dot, param p => p.slash || p.dot
  | _, _ => true

/-- How many slots the token declares. -/
def slotCount : Token → Nat
  | param _ | plus | star | group => 1
  | _ => 0

theorem length_spec? (t : Token) (unnamed : Nat) :
    (t.spec? unnamed).toList.length = t.slotCount := by
  cases t <;> rfl

end Token

/-- A list of plain tokens, none of which runs into the next. -/
structure Plain where
  tokens : List Token
  plain : tokens.all Token.isPlain = true
  apart : tokens.IsChain (Token.mayPrecede · ·)

namespace Plain

def text (p : Plain) : List Char :=
  p.tokens.flatMap Token.text

end Plain

/-! ## Cutting the text of a plain pattern -/

namespace Token

@[simp]
theorem flag_cons_self (c : Char) (rest : List Char) : flag c (c :: rest) = (true, rest) := by
  simp [flag]

theorem flag_cons_of_ne {c d : Char} (h : d ≠ c) (rest : List Char) :
    flag c (d :: rest) = (false, d :: rest) := by
  rw [flag, if_neg h]

theorem flag_of_head_ne {c : Char} {cs : List Char} (h : cs.head? ≠ some c) :
    flag c cs = (false, cs) := by
  cases cs with
  | nil => rfl
  | cons d rest =>
    have other : d ≠ c := by simpa using h
    simp [flag, other]

/-- No parameter stands at the front of a text whose separators lead to no colon. -/
theorem param?_eq_none {cs : List Char}
    (h : ((flag '.' (flag '/' cs).2).2).head? ≠ some ':') : param? cs = none := by
  unfold param?
  dsimp only
  split
  · rename_i rest heq
    rw [heq] at h
    simp at h
  · rfl

theorem takeWhile_append_of_head {p : Char → Bool} {name rest : List Char}
    (hname : name.all p = true) (hrest : ∀ c ∈ rest.head?, p c = false) :
    (name ++ rest).takeWhile p = name ∧ (name ++ rest).dropWhile p = rest := by
  have all : ∀ c ∈ name, p c = true := List.all_eq_true.1 hname
  rw [List.takeWhile_append_of_pos all, List.dropWhile_append_of_pos all]
  cases rest with
  | nil => simp
  | cons c rest =>
    have stop : p c = false := hrest c rfl
    simp [stop]

theorem capture?_of_head_ne {cs : List Char} (h : cs.head? ≠ some '(') :
    capture? cs = (none, cs) := by
  unfold capture?
  split
  · simp at h
  · rfl

/-- The text that may follow a required parameter goes on neither with its name nor with a capture nor
with the mark of an optional one. -/
def EndsName (rest : List Char) : Prop :=
  ∀ c ∈ rest.head?, isNameChar c = false ∧ c ≠ '(' ∧ c ≠ '?'

theorem param?_text_append {p : ParamToken} (hp : (param p).isPlain = true) {rest : List Char}
    (hrest : p.optional = false → EndsName rest) :
    param? (ParamToken.text p ++ rest) = some (p, rest) := by
  obtain ⟨slash, dot, name, capture, optional⟩ := p
  simp only [isPlain, Bool.and_eq_true, Option.isNone_iff_eq_none, Bool.not_eq_true',
    List.isEmpty_eq_false_iff] at hp
  obtain ⟨⟨rfl, named⟩, nameChars⟩ := hp
  -- what follows the name: the mark of an optional parameter, or the rest
  let after := (if optional then ['?'] else []) ++ rest
  have front : ParamToken.text ⟨slash, dot, name, none, optional⟩ ++ rest =
      (if slash then ['/'] else []) ++ ((if dot then ['.'] else []) ++ ':' :: (name ++ after)) := by
    simp [ParamToken.text, after]
  have stop : ∀ c ∈ after.head?, isNameChar c = false := by
    cases optional with
    | true =>
      intro c hc
      obtain rfl : '?' = c := by simpa [after] using hc
      decide
    | false => exact fun c hc => (hrest rfl c (by simpa [after] using hc)).1
  have noCapture : after.head? ≠ some '(' := by
    cases optional with
    | true => simp [after]
    | false => exact fun h => (hrest rfl '(' (by simpa [after] using h)).2.1 rfl
  have marked : flag '?' after = (optional, rest) := by
    cases optional with
    | true => simp [after]
    | false =>
      rw [flag_of_head_ne fun h => (hrest rfl '?' (by simpa [after] using h)).2.2 rfl]
      simp [after]
  obtain ⟨taken, left⟩ := takeWhile_append_of_head nameChars stop
  rw [front, param?]
  cases slash <;> cases dot <;>
    simp [flag_cons_self, flag_cons_of_ne, taken, left, named, capture?_of_head_ne noCapture, marked]

theorem ne_of_isWordChar {c d : Char} (hc : isWordChar c = true) (hd : isWordChar d = false) :
    c ≠ d := by
  rintro rfl
  simp [hc] at hd

theorem next?_wordChar {c : Char} (hc : isWordChar c = true) (rest : List Char) :
    next? (c :: rest) = some (char c, rest) := by
  have ne (d : Char) (hd : isWordChar d = false) : c ≠ d := ne_of_isWordChar hc hd
  have head (d : Char) (hd : isWordChar d = false) : (c :: rest).head? ≠ some d := by
    simpa using ne d hd
  have noParam : param? (c :: rest) = none := by
    apply param?_eq_none
    rw [flag_of_head_ne (head '/' (by decide)), flag_of_head_ne (head '.' (by decide))]
    exact head ':' (by decide)
  rw [next?, noParam]
  change nextPlain? (c :: rest) = _
  unfold nextPlain?
  have h1 := ne '/' (by decide)
  have h2 := ne '.' (by decide)
  have h3 := ne '+' (by decide)
  have h4 := ne '*' (by decide)
  have h5 := ne '\\' (by decide)
  have h6 := ne '(' (by decide)
  have h7 := ne '[' (by decide)
  split <;> simp_all

/-- The text may follow the token without running into it. -/
def Ends (rest : List Char) : Token → Prop
  | param p => p.optional = false → EndsName rest
  | slash => (flag '.' rest).2.head? ≠ some ':' ∧ rest.head? ≠ some '('
  | dot => rest.head? ≠ some ':'
  | _ => True

theorem next?_text_append {t : Token} (ht : t.isPlain = true) {rest : List Char}
    (h : t.Ends rest) : next? (t.text ++ rest) = some (t, rest) := by
  cases t with
  | param p =>
    rw [text, next?, param?_text_append ht h]
  | slash =>
    have noParam : param? ('/' :: rest) = none := by
      apply param?_eq_none
      rw [flag_cons_self]
      exact h.1
    rw [text, List.singleton_append, next?, noParam]
    change nextPlain? ('/' :: rest) = _
    have noGroup := h.2
    cases rest with
    | nil => rfl
    | cons d rest =>
      have other : d ≠ '(' := by simpa using noGroup
      unfold nextPlain?
      split <;> grind
  | dot =>
    have noParam : param? ('.' :: rest) = none := by
      apply param?_eq_none
      rw [flag_of_head_ne (c := '/') (by simp), flag_cons_self]
      exact h
    rw [text, List.singleton_append, next?, noParam]
    rfl
  | plus => rfl
  | star => rfl
  | char c => exact next?_wordChar ht rest
  | slashGroup | escape | special | group | charClass => cases ht

/-! ### Tokens in a row -/

/-- What stands behind the tokens of a pattern: nothing, or the optional slash. -/
def IsClosing (closing : List Char) : Prop :=
  closing = [] ∨ closing = ['/', '?']

/-- No token runs into a text that begins with none of these characters. -/
theorem ends_of_head {rest : List Char}
    (h : ∀ c ∈ rest.head?, isNameChar c = false ∧ c ∉ ['(', '?', ':', '.']) (t : Token) : t.Ends rest := by
  cases rest with
  | nil => cases t <;> simp [Ends, EndsName, flag]
  | cons c rest =>
    obtain ⟨noName, others⟩ := h c rfl
    simp only [List.mem_cons, List.not_mem_nil, or_false, not_or] at others
    cases t <;> simp [Ends, EndsName, flag, noName, others]

theorem IsClosing.ends {closing : List Char} (hc : IsClosing closing) : ∀ t : Token, t.Ends closing := by
  refine ends_of_head fun c front => ?_
  rcases hc with rfl | rfl
  · cases front
  · obtain rfl := Option.some.inj front
    decide

section

variable {ts : List Token} {closing : List Char}

theorem ends_dot (plain : ts.all isPlain = true) (apart : (dot :: ts).IsChain (mayPrecede · ·))
    (bound : ∀ t : Token, t.Ends closing) : dot.Ends (ts.flatMap text ++ closing) := by
  cases ts with
  | nil => exact bound .dot
  | cons u us =>
    have here := (List.isChain_cons_cons.1 apart).1
    simp only [List.all_cons, Bool.and_eq_true] at plain
    cases u with
    | param p =>
      obtain ⟨slash, dot, name, capture, optional⟩ := p
      cases slash <;> cases dot <;> simp_all [Ends, text, ParamToken.text, mayPrecede]
    | char c => simpa [Ends, text] using ne_of_isWordChar plain.1 (by decide)
    | slash | dot | plus | star => simp [Ends, text]
    | slashGroup | escape | special | group | charClass => cases plain.1

theorem ends_slash (plain : ts.all isPlain = true) (apart : (slash :: ts).IsChain (mayPrecede · ·))
    (bound : ∀ t : Token, t.Ends closing) : slash.Ends (ts.flatMap text ++ closing) := by
  cases ts with
  | nil => exact bound .slash
  | cons u us =>
    have here := (List.isChain_cons_cons.1 apart).1
    simp only [List.all_cons, Bool.and_eq_true] at plain
    cases u with
    | param p =>
      obtain ⟨slash, dot, name, capture, optional⟩ := p
      cases slash <;> simp_all [Ends, text, ParamToken.text, mayPrecede, flag]
    | dot =>
      have next := ends_dot plain.2 apart.tail bound
      simpa [Ends, text] using next
    | char c =>
      have ne (d : Char) (hd : isWordChar d = false) : c ≠ d := ne_of_isWordChar plain.1 hd
      simp [Ends, text, flag, ne '.' (by decide), ne ':' (by decide), ne '(' (by decide)]
    | slash | plus | star => simp [Ends, text, flag]
    | slashGroup | escape | special | group | charClass => cases plain.1

theorem ends_param {p : ParamToken} (plain : ts.all isPlain = true)
    (apart : (param p :: ts).IsChain (mayPrecede · ·)) (bound : ∀ t : Token, t.Ends closing) :
    (param p).Ends (ts.flatMap text ++ closing) := by
  intro required
  have separator {cs : List Char} (d : Char) (h : isNameChar d = false ∧ d ≠ '(' ∧ d ≠ '?') :
      EndsName (d :: cs) := by
    intro c hc
    obtain rfl : d = c := by simpa using hc
    exact h
  cases ts with
  | nil => exact bound (.param p) required
  | cons u us =>
    have here := (List.isChain_cons_cons.1 apart).1
    simp only [List.all_cons, Bool.and_eq_true] at plain
    cases u with
    | param q =>
      obtain ⟨slash, dot, name, capture, optional⟩ := q
      cases slash <;> cases dot <;> exact separator _ (by decide)
    | char c =>
      have noName : isNameChar c = false := by simpa [mayPrecede, required] using here
      have ne (d : Char) (hd : isWordChar d = false) : c ≠ d := ne_of_isWordChar plain.1 hd
      exact separator c ⟨noName, ne '(' (by decide), ne '?' (by decide)⟩
    | slash | dot | plus | star => exact separator _ (by decide)
    | slashGroup | escape | special | group | charClass => cases plain.1

end

/-- In a plain pattern no token runs into the text behind it. -/
theorem ends_text {t : Token} {ts : List Token} (plain : (t :: ts).all isPlain = true)
    (apart : (t :: ts).IsChain (mayPrecede · ·)) {closing : List Char}
    (bound : ∀ t : Token, t.Ends closing) :
    t.Ends (ts.flatMap text ++ closing) := by
  simp only [List.all_cons, Bool.and_eq_true] at plain
  cases t with
  | param p => exact ends_param plain.2 apart bound
  | slash => exact ends_slash plain.2 apart bound
  | dot => exact ends_dot plain.2 apart bound
  | _ => trivial

theorem text_ne_nil (t : Token) : t.text ≠ [] := by
  cases t with
  | escape c => cases c <;> simp [text]
  | special colon => cases colon <;> simp [text]
  | param p => simp [text, ParamToken.text]
  | _ => simp [text]

/-- The tokens of what stands behind a pattern. -/
def closingTokens : List Char → List Token
  | [] => []
  | _ => [slash, char '?']

theorem lexFrom_text {ts : List Token} (plain : ts.all isPlain = true)
    (apart : ts.IsChain (mayPrecede · ·)) {closing : List Char} (hc : IsClosing closing) (fuel : Nat)
    (enough : (ts.flatMap text ++ closing).length ≤ fuel) :
    lexFrom fuel (ts.flatMap text ++ closing) = ts ++ closingTokens closing := by
  induction ts generalizing fuel with
  | nil =>
    rcases hc with rfl | rfl
    · cases fuel <;> rfl
    · obtain ⟨fuel, rfl⟩ : ∃ n, fuel = n + 2 := ⟨fuel - 2, by simp at enough; omega⟩
      cases fuel <;> rfl
  | cons t ts ih =>
    have ends := ends_text plain apart hc.ends
    simp only [List.all_cons, Bool.and_eq_true] at plain
    have size := List.length_pos_iff.2 (text_ne_nil t)
    simp only [List.flatMap_cons, List.append_assoc, List.length_append] at enough ⊢
    obtain ⟨fuel, rfl⟩ : ∃ n, fuel = n + 1 := ⟨fuel - 1, by omega⟩
    rw [lexFrom, next?_text_append plain.1 ends]
    simp only [List.cons_append]
    rw [ih plain.2 apart.tail fuel (by simp only [List.length_append]; omega)]

end Token

/-- The text of a plain pattern is cut into the tokens it was made of. -/
theorem Plain.lex_text (p : Plain) {closing : List Char} (hc : Token.IsClosing closing) :
    Token.lex (p.text ++ closing) = p.tokens ++ Token.closingTokens closing :=
  Token.lexFrom_text p.plain p.apart hc _ (Nat.le_refl _)

/-! ## Expansions -/

namespace Token

/-- The pieces of regular expression that tokens stand for, where `slot` is the first slot. -/
def expansions (slot : Nat) : List Token → List Char
  | [] => []
  | t :: ts => t.expansion slot ++ expansions (slot + t.slotCount) ts

def slotsOf : List Token → Nat
  | [] => 0
  | t :: ts => t.slotCount + slotsOf ts

theorem body_ofTokens (slots unnamed : Nat) (ts : List Token) :
    (Expansion.ofTokens slots unnamed ts).body = expansions slots ts := by
  induction ts generalizing slots unnamed with
  | nil => rfl
  | cons t ts ih => simp only [Expansion.ofTokens, expansions, ih, length_spec?]

theorem length_keys_ofTokens (slots unnamed : Nat) (ts : List Token) :
    (Expansion.ofTokens slots unnamed ts).keys.length = slotsOf ts := by
  induction ts generalizing slots unnamed with
  | nil => rfl
  | cons t ts ih =>
    simp only [Expansion.ofTokens, slotsOf, List.length_append, length_spec?, ih]

theorem expansions_append (slot : Nat) (ts us : List Token) :
    expansions slot (ts ++ us) = expansions slot ts ++ expansions (slot + slotsOf ts) us := by
  induction ts generalizing slot with
  | nil => rfl
  | cons t ts ih =>
    simp only [List.cons_append, expansions, ih, slotsOf, List.append_assoc, Nat.add_assoc]

theorem slotsOf_append (ts us : List Token) : slotsOf (ts ++ us) = slotsOf ts + slotsOf us := by
  induction ts with
  | nil => exact (Nat.zero_add _).symm
  | cons t ts ih => simp only [List.cons_append, slotsOf, ih, Nat.add_assoc]

theorem expansions_closingTokens {closing : List Char} (hc : IsClosing closing) (slot : Nat) :
    expansions slot (closingTokens closing) = closing := by
  rcases hc with rfl | rfl <;> rfl

theorem slotsOf_closingTokens {closing : List Char} (hc : IsClosing closing) :
    slotsOf (closingTokens closing) = 0 := by
  rcases hc with rfl | rfl <;> rfl

end Token

namespace Plain

theorem body_ofText (p : Plain) {closing : List Char} (hc : Token.IsClosing closing) :
    (Expansion.ofText (p.text ++ closing)).body = Token.expansions 0 p.tokens ++ closing := by
  rw [Expansion.ofText, p.lex_text hc, Token.body_ofTokens, Token.expansions_append,
    Token.expansions_closingTokens hc]

theorem length_keys_ofText (p : Plain) {closing : List Char} (hc : Token.IsClosing closing) :
    (Expansion.ofText (p.text ++ closing)).keys.length = Token.slotsOf p.tokens := by
  rw [Expansion.ofText, p.lex_text hc, Token.length_keys_ofTokens, Token.slotsOf_append,
    Token.slotsOf_closingTokens hc, Nat.add_zero]

end Plain

end Routing.Pattern
