import Routing.Proofs.Pattern.Choice

/-!
# Groups with flags

A group that opens with a question mark and flags means in a pattern what it means in a regular expression, unless
its colon reads as that of a parameter.

* `Special`: texts of word characters, bars and such groups
* `Special.clear`: no colon reads as that of a parameter
* `Special.reads`: the reader takes such a text for what it is
* `Special.passes_or_fails`: a clear text passes unchanged, and any other one is refused
-/
namespace Routing

open Regex Regex.Reader

namespace Regex.Reader

/-! ## Headers -/

/-- Flags that the reader accepts in front of a colon, as they are written. -/
def IsFlags (flags : List Char) : Prop :=
  ∃ items, flagItems [] (flags ++ [':']) = .ok (items, [':'])

/-- The characters that flags are made of. -/
def flagChars : List Char :=
  ['-', 'i', 'm', 's', 'U', 'u', 'R', 'x']

theorem mem_flagChars {c : Char} {f : Flag} (h : flagOfChar? c = some f) : c ∈ flagChars := by
  unfold flagOfChar? at h
  split at h <;> first | decide | cases h

theorem not_mem_of_flag {c : Char} (member : c ∈ flagChars) : c ∉ ['P', '<', '=', '!'] := by
  have all : flagChars.all (· ∉ ['P', '<', '=', '!']) = true := by decide
  simpa using List.all_eq_true.1 all c member

/-- The first of the flags is one item, whatever stands behind it. -/
theorem flagItems_cons {before items : List FlagItem} {c : Char} {flags : List Char}
    (accepted : flagItems before (c :: (flags ++ [':'])) = .ok (items, [':'])) :
    c ∈ flagChars ∧ ∃ item, ∀ rest, flagItems before (c :: rest) = flagItems (before ++ [item]) rest := by
  rw [flagItems] at accepted
  split at accepted
  · -- the colon of the header stands behind the flags
    split at accepted
    · cases accepted
    · have left := (Prod.mk.inj (Except.ok.inj accepted)).2
      simp at left
  · next inside =>
    split at accepted
    · next hyphen =>
      split at accepted
      · cases accepted
      · next fresh =>
        refine ⟨hyphen ▸ List.mem_cons_self .., .negation, fun rest => ?_⟩
        rw [flagItems, if_neg inside, if_pos hyphen, if_neg fresh]
    · next letter =>
      cases known : flagOfChar? c with
      | none => rw [known] at accepted; cases accepted
      | some f =>
        rw [known] at accepted
        dsimp only at accepted
        split at accepted
        · cases accepted
        · next fresh =>
          refine ⟨mem_flagChars known, .flag f, fun rest => ?_⟩
          rw [flagItems, if_neg inside, if_neg letter, known]
          exact if_neg fresh

/-- Flags are read in the same way whatever stands behind them. -/
theorem flagItems_append {before items : List FlagItem} {flags : List Char}
    (accepted : flagItems before (flags ++ [':']) = .ok (items, [':'])) :
    (∀ c ∈ flags, c ∈ flagChars) ∧ items.getLast? ≠ some .negation ∧
      ∀ rest, flagItems before (flags ++ rest) = flagItems items rest := by
  induction flags generalizing before with
  | nil =>
    simp only [List.nil_append, flagItems, true_or, if_true] at accepted
    split at accepted
    · cases accepted
    · next settled =>
      obtain ⟨rfl, -⟩ := Prod.mk.inj (Except.ok.inj accepted)
      exact ⟨fun _ hc => (by cases hc), settled, fun rest => rfl⟩
  | cons c flags ih =>
    obtain ⟨member, item, first⟩ := flagItems_cons accepted
    rw [List.cons_append, first] at accepted
    obtain ⟨members, settled, later⟩ := ih accepted
    exact ⟨List.forall_mem_cons.2 ⟨member, members⟩, settled, fun rest => (first _).trans (later rest)⟩

namespace IsFlags

variable {flags : List Char}

theorem mem (h : IsFlags flags) : ∀ c ∈ flags, c ∈ flagChars := by
  obtain ⟨items, accepted⟩ := h
  exact (flagItems_append accepted).1

/-- Flags with a colon behind them open a group. -/
theorem groupOpening_colon (h : IsFlags flags) :
    ∃ items, ∀ rest, groupOpening ('?' :: (flags ++ ':' :: rest)) = .ok (.plain items, rest) := by
  obtain ⟨items, accepted⟩ := id h
  obtain ⟨-, settled, read⟩ := flagItems_append accepted
  refine ⟨items, fun rest => ?_⟩
  have all : flagItems [] (flags ++ ':' :: rest) = .ok (items, ':' :: rest) := by
    rw [read, flagItems, if_pos (.inl rfl), if_neg settled]
  cases flags with
  | nil =>
    rw [List.nil_append] at all ⊢
    rw [groupOpening_of_flag (by decide), all]
    rfl
  | cons c flags =>
    rw [List.cons_append] at all ⊢
    rw [groupOpening_of_flag (not_mem_of_flag (h.mem c (List.mem_cons_self ..))), all]
    rfl

/-- Flags that run into a parenthesis open nothing. -/
theorem groupOpening_paren (h : IsFlags flags) (some_ : flags ≠ []) (rest : List Char) :
    groupOpening ('?' :: (flags ++ '(' :: rest)) = .error .flagUnrecognized := by
  obtain ⟨items, accepted⟩ := id h
  have all : flagItems [] (flags ++ '(' :: rest) = .error .flagUnrecognized := by
    rw [(flagItems_append accepted).2.2, flagItems, if_neg (by decide), if_neg (by decide)]
    rfl
  cases flags with
  | nil => exact absurd rfl some_
  | cons c flags =>
    rw [List.cons_append] at all ⊢
    rw [groupOpening_of_flag (not_mem_of_flag (h.mem c (List.mem_cons_self ..))), all]

end IsFlags

end Regex.Reader

namespace Pattern

open Token

theorem isWordChar_of_isNameChar {c : Char} (word : isNameChar c = true) : isWordChar c = true := by
  simp [isWordChar, word]

theorem isWordChar_of_flag {c : Char} (member : c ∈ flagChars) : isWordChar c = true := by
  have all : flagChars.all isWordChar = true := by decide
  exact List.all_eq_true.1 all c member

theorem isBlank_of_isWordChar {c : Char} (word : isWordChar c = true) : isBlank c = false := by
  have table : ∀ n < 128, isWordChar (Char.ofNat n) = true → isBlank (Char.ofNat n) = false := by
    decide +kernel
  have there := table c.toNat (toNat_lt_of_isWordChar word)
  rw [Char.ofNat_toNat] at there
  exact there word

/-! ## The tokens of a header -/

namespace Token

/-- A token that comes out as it is written, and declares no slot. -/
def isLiteral : Token → Bool
  | special _ | char _ => true
  | _ => false

theorem expansions_of_literal {ts : List Token} (literal : ts.all isLiteral = true) (slot : Nat)
    (rest : List Token) : expansions slot (ts ++ rest) = ts.flatMap text ++ expansions slot rest := by
  induction ts with
  | nil => rfl
  | cons t ts ih =>
    rw [List.all_cons, Bool.and_eq_true] at literal
    have here : t.slotCount = 0 ∧ t.expansion slot = t.text := by
      cases t <;> first | exact ⟨rfl, rfl⟩ | cases literal.1
    rw [List.cons_append, expansions, here.1, here.2, Nat.add_zero, ih literal.2, List.flatMap_cons,
      List.append_assoc]

theorem slotsOf_of_literal {ts : List Token} (literal : ts.all isLiteral = true) : slotsOf ts = 0 := by
  induction ts with
  | nil => rfl
  | cons t ts ih =>
    rw [List.all_cons, Bool.and_eq_true] at literal
    have here : t.slotCount = 0 := by cases t <;> first | rfl | cases literal.1
    rw [slotsOf, here, ih literal.2]

theorem lex_words {cs : List Char} (words : ∀ c ∈ cs, isWordChar c = true) (rest : List Char) :
    lex (cs ++ rest) = cs.map char ++ lex rest := by
  induction cs with
  | nil => rfl
  | cons c cs ih =>
    rw [List.cons_append, lex_of_next? (next?_wordChar (words c (List.mem_cons_self ..)) _),
      ih fun d hd => words d (List.mem_cons_of_mem _ hd)]
    rfl

/-- What opens a group with flags, if its colon does not read as that of a parameter. -/
def header : List Char → List Token
  | [] => [special true]
  | flags => special false :: flags.map char ++ [char ':']

theorem flatMap_text_chars (cs : List Char) : (cs.map char).flatMap text = cs := by
  induction cs with
  | nil => rfl
  | cons c cs ih =>
    rw [List.map_cons, List.flatMap_cons, ih]
    rfl

theorem text_header (flags : List Char) :
    (header flags).flatMap text = '(' :: '?' :: (flags ++ [':']) := by
  cases flags with
  | nil => rfl
  | cons c flags =>
    change (special false :: (c :: flags).map char ++ [char ':']).flatMap text = _
    rw [List.flatMap_append, List.flatMap_cons, flatMap_text_chars]
    rfl

theorem isLiteral_header (flags : List Char) : (header flags).all isLiteral = true := by
  cases flags <;> simp [header, isLiteral]

theorem next?_flag {c : Char} (member : c ∈ flagChars) (rest : List Char) :
    next? ('(' :: '?' :: c :: rest) = some (special false, c :: rest) := by
  simp only [flagChars, List.mem_cons, List.not_mem_nil, or_false] at member
  rcases member with rfl | rfl | rfl | rfl | rfl | rfl | rfl | rfl <;> rfl

theorem next?_colon {rest : List Char} (ends : ∀ c ∈ rest.head?, isNameChar c = false) :
    next? (':' :: rest) = some (char ':', rest) := by
  have unnamed : rest.takeWhile isNameChar = [] := by
    cases rest with
    | nil => rfl
    | cons c rest => simp [ends c rfl]
  have noParam : param? (':' :: rest) = none := by simp [param?, flag, unnamed]
  rw [next?, noParam]
  rfl

theorem lex_flags {flags : List Char} (accepted : IsFlags flags) (some_ : flags ≠ []) (rest : List Char) :
    lex ('(' :: '?' :: (flags ++ rest)) = special false :: flags.map char ++ lex rest := by
  cases flags with
  | nil => exact absurd rfl some_
  | cons c flags =>
    have words : ∀ d ∈ c :: flags, isWordChar d = true := fun d hd => isWordChar_of_flag (accepted.mem d hd)
    rw [List.cons_append, lex_of_next? (next?_flag (accepted.mem c (List.mem_cons_self ..)) _),
      ← List.cons_append, lex_words words]
    rfl

/-- A header is read as such if it has no flags, or no name stands behind it. -/
theorem lex_header {flags : List Char} (accepted : IsFlags flags) {rest : List Char}
    (clear : flags = [] ∨ ∀ c ∈ rest.head?, isNameChar c = false) :
    lex ('(' :: '?' :: (flags ++ ':' :: rest)) = header flags ++ lex rest := by
  by_cases none_ : flags = []
  · subst none_
    exact lex_of_next? (t := special true) rfl
  · rw [lex_flags accepted none_, lex_of_next? (next?_colon (clear.resolve_left none_))]
    cases flags with
    | nil => exact absurd rfl none_
    | cons c flags => simp [header]

/-- Behind flags, the colon of the header and a name are a parameter. -/
theorem exists_param_of_colon {c : Char} (word : isNameChar c = true) (rest : List Char) :
    ∃ p left, next? (':' :: c :: rest) = some (param p, left) ∧ p.slash = false ∧ p.dot = false := by
  have named : ((c :: rest).takeWhile isNameChar).isEmpty = false := by simp [word]
  unfold next? param?
  simp [flag, named]

end Token

/-! ## Texts -/

/-- Word characters, bars, and groups with flags, nested in any way. -/
inductive Special where
  | done
  | char (c : Char) (word : isNameChar c = true) (rest : Special)
  | bar (rest : Special)
  | group (flags : List Char) (accepted : IsFlags flags) (inner rest : Special)

namespace Special

def text : Special → List Char
  | done => []
  | char c _ rest => c :: rest.text
  | bar rest => '|' :: rest.text
  | group flags _ inner rest => '(' :: '?' :: (flags ++ ':' :: (inner.text ++ ')' :: rest.text))

def startsWord : Special → Bool
  | char .. => true
  | _ => false

/-- Between flags and a word no colon stands that opens a group: it would read as that of a parameter. -/
def clear : Special → Bool
  | done => true
  | char _ _ rest | bar rest => rest.clear
  | group flags _ inner rest => (flags.isEmpty || !inner.startsWord) && inner.clear && rest.clear

/-- The tokens of a clear text. -/
def tokens : Special → List Token
  | done => []
  | char c _ rest => .char c :: rest.tokens
  | bar rest => .char '|' :: rest.tokens
  | group flags _ inner rest => header flags ++ (inner.tokens ++ .char ')' :: rest.tokens)

theorem isLiteral_tokens (x : Special) : x.tokens.all Token.isLiteral = true := by
  induction x with
  | done => rfl
  | char c word rest ih | bar rest ih => exact ih
  | group flags accepted inner rest ihInner ihRest =>
    simp [tokens, isLiteral_header, ihInner, ihRest, isLiteral]

theorem text_tokens (x : Special) : x.tokens.flatMap Token.text = x.text := by
  induction x with
  | done => rfl
  | char c word rest ih | bar rest ih => exact congrArg (_ :: ·) ih
  | group flags accepted inner rest ihInner ihRest =>
    simp [tokens, text_header, ihInner, ihRest, text, Token.text]

theorem head?_text {x : Special} (wordless : x.startsWord = false) (rest : List Char) :
    ∀ c ∈ (x.text ++ ')' :: rest).head?, isNameChar c = false := by
  intro c hc
  cases x with
  | done | bar | group =>
    obtain rfl := Option.some.inj hc
    decide
  | char => cases wordless

theorem lex_text {x : Special} (clear : x.clear = true) (rest : List Char) :
    lex (x.text ++ rest) = x.tokens ++ lex rest := by
  induction x generalizing rest with
  | done => rfl
  | char c word others ih =>
    rw [text, List.cons_append, lex_of_next? (next?_wordChar (isWordChar_of_isNameChar word) _), ih clear]
    rfl
  | bar others ih =>
    rw [text, List.cons_append, lex_of_next? (t := .char '|') rfl, ih clear]
    rfl
  | group flags accepted inner others ihInner ihOthers =>
    simp only [Special.clear, Bool.and_eq_true, Bool.or_eq_true, List.isEmpty_iff, Bool.not_eq_true'] at clear
    obtain ⟨⟨header, within⟩, behind⟩ := clear
    simp only [text, tokens, List.cons_append, List.append_assoc]
    rw [lex_header accepted (header.imp_right (head?_text · _)), ihInner within,
      lex_of_next? (t := .char ')') rfl, ihOthers behind]

/-! ## The reader -/

theorem reads_word {c : Char} (word : isNameChar c = true) (s : State) (rest : List Char) :
    Reads s (c :: rest) (s.push (.literal ⟨c, false⟩)) rest :=
  have word := isWordChar_of_isNameChar word
  .part (skipBlanks_cons (isBlank_of_isWordChar word) (ne_of_isWordChar word (by decide)) _ _)
    (readPart_literal (isSyntax_of_isWordChar word) s rest) (.here _ _)

theorem reads_bar (s : State) (rest : List Char) :
    Reads s ('|' :: rest) { s with level := s.level.branch } rest :=
  .part (skipBlanks_cons (by decide) (by decide) _ _) rfl (.here _ _)

/-- The reader opens a group at a header. -/
theorem reads_header {flags : List Char} (accepted : IsFlags flags) :
    ∃ items, ∀ (s : State) (rest : List Char), Reads s ('(' :: '?' :: (flags ++ ':' :: rest))
      (s.openGroup (.plain items) (s.extendedAfter items)) rest := by
  obtain ⟨items, opens⟩ := accepted.groupOpening_colon
  refine ⟨items, fun s rest => .part (skipBlanks_cons (by decide) (by decide) _ _) ?_ (.here _ _)⟩
  rw [readPart, readOpening, skipBlanks_cons (by decide) (by decide), opens]

/-- The reader takes the text for what it is, whatever stands behind it. -/
theorem reads (x : Special) (s : State) (rest : List Char) :
    ∃ t, Reads s (x.text ++ rest) t rest ∧ t.groups = s.groups := by
  induction x generalizing s rest with
  | done => exact ⟨s, .here s rest, rfl⟩
  | char c word others ih =>
    obtain ⟨t, later, groups⟩ := ih (s.push (.literal ⟨c, false⟩)) rest
    exact ⟨t, (reads_word word s _).trans later, groups⟩
  | bar others ih =>
    obtain ⟨t, later, groups⟩ := ih { s with level := s.level.branch } rest
    exact ⟨t, (reads_bar s _).trans later, groups⟩
  | group flags accepted inner others ihInner ihOthers =>
    obtain ⟨items, opens⟩ := reads_header accepted
    obtain ⟨t, within, open_⟩ := ihInner (s.openGroup (.plain items) (s.extendedAfter items))
      (')' :: (others.text ++ rest))
    obtain ⟨u, closing⟩ : ∃ u, readPart t ')' (others.text ++ rest) = .ok (u, others.text ++ rest) ∧
        u.groups = s.groups := by
      rw [readPart, readClosing, open_]
      exact ⟨_, rfl, rfl⟩
    obtain ⟨v, behind, groups⟩ := ihOthers u rest
    refine ⟨v, ?_, groups.trans closing.2⟩
    simp only [text, List.cons_append, List.append_assoc]
    exact (opens s _).trans (within.trans (.part (skipBlanks_cons (by decide) (by decide) _ _) closing.1 behind))

/-! ## Colons that read as those of parameters -/

/-- Tokens that the reader takes for what they are, and then flags whose colon reads as that of a parameter. -/
structure Unclear (cs : List Char) (front : List Token) (flags : List Char) (p : ParamToken)
    (left : List Token) : Prop where
  lex : lex cs = front ++ (special false :: flags.map Token.char ++ .param p :: left)
  literal : front.all Token.isLiteral = true
  accepted : IsFlags flags
  some_ : flags ≠ []
  bare : p.slash = false ∧ p.dot = false
  reads : ∀ s rest, ∃ t, Reads s (front.flatMap Token.text ++ rest) t rest

namespace Unclear

variable {cs : List Char} {front : List Token} {flags : List Char} {p : ParamToken} {left : List Token}

/-- Other tokens in front make no difference, if the reader takes them for what they are. -/
theorem append (u : Unclear cs front flags p left) (before : List Token) {cs' : List Char}
    (lex : Token.lex cs' = before ++ Token.lex cs) (literal : before.all Token.isLiteral = true)
    (reads : ∀ s rest, ∃ t, Reads s (before.flatMap Token.text ++ rest) t rest) :
    Unclear cs' (before ++ front) flags p left where
  lex := by rw [lex, u.lex, List.append_assoc]
  literal := by rw [List.all_append, literal, u.literal]; rfl
  accepted := u.accepted
  some_ := u.some_
  bare := u.bare
  reads s rest := by
    rw [List.flatMap_append, List.append_assoc]
    obtain ⟨t, here⟩ := reads s (front.flatMap Token.text ++ rest)
    obtain ⟨t', later⟩ := u.reads t rest
    exact ⟨t', here.trans later⟩

end Unclear

/-- The first of such colons in a text that is not clear. -/
theorem exists_unclear {x : Special} (unclear : x.clear = false) (rest : List Char) :
    ∃ front flags p left, Unclear (x.text ++ rest) front flags p left := by
  induction x generalizing rest with
  | done => cases unclear
  | char c word others ih =>
    obtain ⟨front, flags, p, left, u⟩ := ih unclear rest
    refine ⟨_, flags, p, left, u.append [.char c] ?_ rfl fun s rest => ⟨_, reads_word word s rest⟩⟩
    exact lex_of_next? (next?_wordChar (isWordChar_of_isNameChar word) _)
  | bar others ih =>
    obtain ⟨front, flags, p, left, u⟩ := ih unclear rest
    exact ⟨_, flags, p, left, u.append [.char '|'] (lex_of_next? rfl) rfl
      fun s rest => ⟨_, reads_bar s rest⟩⟩
  | group flags accepted inner others ihInner ihOthers =>
    simp only [text, List.cons_append, List.append_assoc]
    obtain ⟨items, opens⟩ := reads_header accepted
    have reads_flags (s : State) (rest : List Char) :
        ∃ t, Reads s ((header flags).flatMap Token.text ++ rest) t rest := by
      rw [text_header, List.cons_append, List.cons_append, List.append_assoc]
      exact ⟨_, opens s rest⟩
    by_cases named : flags ≠ [] ∧ inner.startsWord = true
    · -- the colon of this group reads as that of a parameter
      obtain ⟨some_, starts⟩ := named
      obtain ⟨c, word, inside, rfl⟩ : ∃ c word inside, inner = .char c word inside := by
        cases inner <;> first | exact ⟨_, _, _, rfl⟩ | cases starts
      obtain ⟨p, left, first, bare⟩ := exists_param_of_colon word (inside.text ++ (')' :: (others.text ++ rest)))
      refine ⟨[], flags, p, lex left, ?_, rfl, accepted, some_, bare, fun s rest => ⟨s, .here _ _⟩⟩
      rw [lex_flags accepted some_]
      exact congrArg _ (lex_of_next? first)
    · have clear : flags = [] ∨ inner.startsWord = false := by
        rw [not_and_or, not_not, Bool.not_eq_true] at named
        exact named
      have read := lex_header accepted (clear.imp_right (head?_text · (others.text ++ rest)))
      by_cases within : inner.clear = true
      · -- it is behind this group
        have behind : others.clear = false := by
          simpa [Special.clear, clear, within] using unclear
        obtain ⟨front, flags', p, left, u⟩ := ihOthers behind rest
        let first : Special := .group flags accepted inner .done
        have lexed := lex_text (x := first) (by simp [first, Special.clear, clear, within]) (others.text ++ rest)
        refine ⟨_, flags', p, left, u.append first.tokens ?_ first.isLiteral_tokens fun s rest => ?_⟩
        · simpa [first, text] using lexed
        · rw [text_tokens]
          obtain ⟨t, here, -⟩ := first.reads s rest
          exact ⟨t, here⟩
      · obtain ⟨front, flags', p, left, u⟩ :=
          ihInner (Bool.not_eq_true _ ▸ within) (')' :: (others.text ++ rest))
        exact ⟨_, flags', p, left, u.append _ read (isLiteral_header flags) reads_flags⟩

/-! ## Expansions -/

theorem ofText_clear {x : Special} (clear : x.clear = true) : Expansion.ofText x.text = ⟨x.text, []⟩ := by
  have lexed : lex x.text = x.tokens := by
    have := lex_text clear []
    rwa [List.append_nil, show lex [] = [] from rfl, List.append_nil] at this
  have body : (Expansion.ofText x.text).body = x.text := by
    have := expansions_of_literal x.isLiteral_tokens 0 []
    rw [Expansion.ofText, lexed, body_ofTokens]
    simpa [text_tokens, expansions] using this
  have keys : (Expansion.ofText x.text).keys = [] := by
    rw [← List.length_eq_zero_iff, Expansion.ofText, lexed, length_keys_ofTokens,
      slotsOf_of_literal x.isLiteral_tokens]
  exact congrArg₂ Expansion.mk body keys

namespace Unclear

variable {cs : List Char} {front : List Token} {flags : List Char} {p : ParamToken} {left : List Token}

/-- The parameter is a slot of the pattern. -/
theorem keys_ne_nil (u : Unclear cs front flags p left) : (Expansion.ofText cs).keys ≠ [] := by
  rw [← List.length_pos_iff, Expansion.ofText, length_keys_ofTokens, u.lex]
  simp only [slotsOf_append, slotsOf, slotCount, List.cons_append]
  omega

/-- The flags run into the group that the parameter comes to. -/
theorem exists_body (u : Unclear cs front flags p left) :
    ∃ rest, (Expansion.ofText cs).body = front.flatMap Token.text ++ '(' :: '?' :: (flags ++ '(' :: rest) := by
  have words : (special false :: flags.map Token.char).all Token.isLiteral = true := by
    simp [Token.isLiteral]
  have text_words : (special false :: flags.map Token.char).flatMap Token.text = '(' :: '?' :: flags := by
    rw [List.flatMap_cons, flatMap_text_chars]
    rfl
  obtain ⟨body, opens⟩ : ∃ body, ParamToken.expansion p 0 = '(' :: body := by
    rw [ParamToken.expansion, u.bare.1]
    split <;> exact ⟨_, rfl⟩
  rw [Expansion.ofText, body_ofTokens, u.lex, expansions_of_literal u.literal, expansions_of_literal words,
    text_words, expansions, Token.expansion, opens]
  exact ⟨body ++ expansions (0 + (Token.param p).slotCount) left, by simp⟩

/-- The reader comes to the flags, and refuses them. -/
theorem read_error (u : Unclear cs front flags p left) (closing : List Char) :
    Expr.read ("^(?:".toList ++ (Expansion.ofText cs).body ++ closing) = .error .flagUnrecognized := by
  obtain ⟨rest, body⟩ := u.exists_body
  obtain ⟨items, opens⟩ := reads_header (show IsFlags [] from ⟨[], rfl⟩)
  let start : State := State.push {} (.assertion .startLine)
  obtain ⟨t, inside⟩ := u.reads (start.openGroup (.plain items) (start.extendedAfter items))
    ('(' :: '?' :: (flags ++ '(' :: (rest ++ closing)))
  have run : Reads {} ("^(?:".toList ++ (Expansion.ofText cs).body ++ closing) t
      ('(' :: '?' :: (flags ++ '(' :: (rest ++ closing))) := by
    have front : "^(?:".toList = '^' :: '(' :: '?' :: ([] ++ [':']) := rfl
    rw [body, front]
    refine .part (c := '^') rfl rfl ?_
    simpa using (opens start _).trans inside
  refine run.readAll_error (skipBlanks_cons (by decide) (by decide) _ _) ?_ (Nat.lt_succ_self _)
  rw [readPart, readOpening, skipBlanks_cons (by decide) (by decide), u.accepted.groupOpening_paren u.some_]

end Unclear

end Special

/-- A text of words, bars and groups with flags passes unchanged, and declares no slot, exactly if it is clear. Then
it means what it means as a regular expression, and compiles exactly if that does; otherwise it is refused: the
first colon that stands between flags and a word reads as that of a parameter. Of the message of a refusal only the
end is said, which names the fault. -/
theorem Special.passes_or_fails (x : Special) :
    (Expansion.ofText x.text = ⟨x.text, []⟩ ↔ x.clear = true) ∧
    ∀ o : MatchOptions,
      if x.clear then
        match Regex.compile (String.ofList ("^(?:".toList ++ (x.text ++ closingOf o) ++ ")$".toList))
          (!o.caseSensitive) with
        | .ok r => compile o (.path (String.ofList x.text)) = .ok ⟨String.ofList x.text, r, [], .named⟩
        | .error fault => ∃ above : String, compile o (.path (String.ofList x.text)) =
            .error (.invalidPattern (String.ofList x.text) (above ++ fault.message))
      else ∃ above : String, compile o (.path (String.ofList x.text)) =
        .error (.invalidPattern (String.ofList x.text) (above ++ RegexError.flagUnrecognized.message)) := by
  have expanded (o : MatchOptions) : expansion o (String.ofList x.text) =
      ⟨(Expansion.ofText x.text).body ++ closingOf o, (Expansion.ofText x.text).keys⟩ := by
    rw [expansion, String.toList_ofList, closingOf]
    cases o.strict with
    | true => simp
    | false => exact Expansion.ofText_append x.text
  cases clear : x.clear with
  | true =>
    have same := ofText_clear clear
    refine ⟨iff_of_true same rfl, fun o => ?_⟩
    rw [same] at expanded
    have outcome : compile o (.path (String.ofList x.text)) =
        match Regex.compile (String.ofList ("^(?:".toList ++ (x.text ++ closingOf o) ++ ")$".toList))
          (!o.caseSensitive) with
        | .ok r => .ok ⟨String.ofList x.text, r, [], .named⟩
        | .error fault => .error (.invalidPattern (String.ofList x.text) fault.message) := by
      rw [compile, source, expanded]
      rfl
    rw [if_pos rfl, outcome]
    cases Regex.compile (String.ofList ("^(?:".toList ++ (x.text ++ closingOf o) ++ ")$".toList))
      (!o.caseSensitive) with
    | ok r => rfl
    | error fault => exact ⟨"", by rw [String.empty_append]⟩
  | false =>
    obtain ⟨front, flags, p, left, u⟩ := exists_unclear clear []
    rw [List.append_nil] at u
    refine ⟨iff_of_false (fun same => u.keys_ne_nil (by rw [same])) (by decide), fun o => ?_⟩
    have refused : Regex.compile (anchored (expansion o (String.ofList x.text))) (!o.caseSensitive) =
        .error .flagUnrecognized := by
      have read := u.read_error (closingOf o ++ [')', '$'])
      rw [← List.append_assoc, List.append_assoc "^(?:".toList] at read
      rw [Regex.compile, toList_anchored, expanded, read]
      rfl
    rw [if_neg (by decide), compile, source, refused]
    exact ⟨"", by rw [String.empty_append]⟩

/-- The flag in front of a word makes a parameter of the word, so that a pattern is refused that is accepted as a
regular expression. -/
theorem special_refused :
    ∃ x : Special, x.text = "(?i:foo)".toList ∧ Expansion.ofText x.text ≠ ⟨x.text, []⟩ ∧
      (∃ r, Regex.compile "^(?:(?i:foo))$" true = .ok r) ∧
      ∀ p, compile ⟨false, true⟩ (.path "(?i:foo)") ≠ .ok p := by
  let word : Special := .char 'f' rfl (.char 'o' rfl (.char 'o' rfl .done))
  refine ⟨.group ['i'] ⟨[.flag .ignoreCase], rfl⟩ word .done, rfl, by decide, ?_, ?_⟩
  · have accepted : (Regex.compile "^(?:(?i:foo))$" true).toOption.isSome = true := by decide +kernel
    cases compiled : Regex.compile "^(?:(?i:foo))$" true with
    | ok r => exact ⟨r, rfl⟩
    | error e => rw [compiled] at accepted; cases accepted
  · have refused : (compile ⟨false, true⟩ (.path "(?i:foo)")).toOption.isNone = true := by decide +kernel
    intro p compiled
    rw [compiled] at refused
    cases refused

end Pattern

end Routing
