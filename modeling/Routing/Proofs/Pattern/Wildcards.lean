import Routing.Proofs.Pattern.Rows

/-!
# Wildcards between literal texts

Each wildcard takes as much as it can, from left to right. What comes out is described from right to left: the
last literal stands where it occurs last, and each one before it where it occurs last in the text before that.

* `WildcardPath`: literal texts with a wildcard between each two of them
* `Embeds`: literals occur in order and do not overlap
* `Rightmost`: the pieces of a text between literals that stand as far to the right as they can
* `Rightmost.first`: the first piece is the longest that leaves room for the other literals
* `WildcardPath.takes_rightmost`: which paths match, and with which captures
-/
namespace Routing

open Regex

namespace Pattern

/-! ## Literals in a text -/

/-- The literals occur in the text in this order and do not overlap. -/
inductive Embeds : List (List Char) → List Char → Prop where
  | done (r : List Char) : Embeds [] r
  | next {l rest : List Char} {ls : List (List Char)} (skipped : List Char) (later : Embeds ls rest) :
      Embeds (l :: ls) (skipped ++ l ++ rest)

/-- The literal occurs in the text between `before` and `behind`, and nowhere later. -/
structure IsLastOccurrence (l r before behind : List Char) : Prop where
  whole : r = before ++ l ++ behind
  last : ∀ before' behind', r = before' ++ l ++ behind' → before'.length ≤ before.length

/-- The pieces between the literals, of which the last one stands at its last occurrence, and each one before
it at its last occurrence in the text before the next. -/
inductive Rightmost : List (List Char) → List Char → List (List Char) → Prop where
  | whole (r : List Char) : Rightmost [] r [r]
  | last {ls pieces : List (List Char)} {l r before behind : List Char}
      (found : IsLastOccurrence l r before behind) (earlier : Rightmost ls before pieces) :
      Rightmost (ls ++ [l]) r (pieces ++ [behind])

section

variable {l r before behind more : List Char} {ls pieces : List (List Char)}

theorem Embeds.append (h : Embeds ls r) (more : List Char) : Embeds ls (r ++ more) := by
  induction h with
  | done r => exact .done _
  | next skipped _ ih =>
    rw [List.append_assoc]
    exact .next skipped ih

theorem Embeds.of_concat (h : Embeds (ls ++ [l]) r) :
    ∃ before behind, r = before ++ l ++ behind ∧ Embeds ls before := by
  induction ls generalizing r with
  | nil =>
    cases h with
    | next skipped later => exact ⟨skipped, _, rfl, .done _⟩
  | cons first ls ih =>
    cases h with
    | next skipped later =>
      obtain ⟨before, behind, rfl, earlier⟩ := ih later
      exact ⟨skipped ++ first ++ before, behind, by simp only [List.append_assoc], .next skipped earlier⟩

theorem exists_isLastOccurrence (h : r = before ++ l ++ behind) :
    ∃ before behind, IsLastOccurrence l r before behind := by
  induction r generalizing before behind with
  | nil =>
    refine ⟨before, behind, h, fun before' behind' h' => ?_⟩
    have length := congrArg List.length h'
    simp at length
    omega
  | cons c r ih =>
    by_cases later : ∃ before behind, r = before ++ l ++ behind
    · obtain ⟨_, _, later⟩ := later
      obtain ⟨before, behind, found⟩ := ih later
      refine ⟨c :: before, behind, congrArg (c :: ·) found.whole, fun before' behind' h' => ?_⟩
      cases before' with
      | nil => exact Nat.zero_le _
      | cons d before' => exact Nat.succ_le_succ (found.last before' behind' (List.cons.inj h').2)
    · refine ⟨before, behind, h, fun before' behind' h' => ?_⟩
      cases before' with
      | nil => exact Nat.zero_le _
      | cons d before' => exact absurd ⟨before', behind', (List.cons.inj h').2⟩ later

/-- Of two occurrences, the text before the earlier one is the front of the text before the other. -/
theorem IsLastOccurrence.exists_append (found : IsLastOccurrence l r before behind)
    {before' behind' : List Char} (h : r = before' ++ l ++ behind') : ∃ more, before = before' ++ more := by
  have front : before' <+: r := ⟨l ++ behind', by rw [h, List.append_assoc]⟩
  have last : before <+: r := ⟨l ++ behind, by rw [found.whole, List.append_assoc]⟩
  obtain ⟨more, whole⟩ := List.prefix_of_prefix_length_le front last (found.last _ _ h)
  exact ⟨more, whole.symm⟩

/-- Literals that occur in order may be moved to the right. -/
theorem Embeds.exists_rightmost (h : Embeds ls r) : ∃ pieces, Rightmost ls r pieces := by
  induction ls using List.reverseRecOn generalizing r with
  | nil => exact ⟨[r], .whole r⟩
  | append_singleton ls l ih =>
    obtain ⟨before, behind, whole, earlier⟩ := h.of_concat
    obtain ⟨last, behind, found⟩ := exists_isLastOccurrence whole
    obtain ⟨more, rfl⟩ := found.exists_append whole
    obtain ⟨pieces, rightmost⟩ := ih (earlier.append more)
    exact ⟨pieces ++ [behind], .last found rightmost⟩

theorem Rightmost.of_nil (h : Rightmost [] r pieces) : pieces = [r] := by
  generalize none : ([] : List (List Char)) = ls at h
  cases h with
  | whole => rfl
  | last => exact absurd none.symm (List.concat_ne_nil _ _)

theorem Rightmost.of_concat (h : Rightmost (ls ++ [l]) r pieces) :
    ∃ before behind earlier, IsLastOccurrence l r before behind ∧ Rightmost ls before earlier ∧
      pieces = earlier ++ [behind] := by
  generalize all : ls ++ [l] = literals at h
  cases h with
  | whole => exact absurd all (List.concat_ne_nil _ _)
  | last found earlier =>
    obtain ⟨rfl, same⟩ := List.append_inj' all rfl
    cases same
    exact ⟨_, _, _, found, earlier, rfl⟩

/-- The first piece is the longest that leaves room for the other literals, whose pieces are the rightmost ones
in the rest. -/
theorem Rightmost.first (h : Rightmost (l :: ls) r pieces) :
    ∃ v rest later, r = v ++ l ++ rest ∧ pieces = v :: later ∧ Rightmost ls rest later ∧
      ∀ v' rest', r = v' ++ l ++ rest' → Embeds ls rest' → v'.length ≤ v.length := by
  induction ls using List.reverseRecOn generalizing r pieces with
  | nil =>
    obtain ⟨before, behind, earlier, found, front, rfl⟩ :=
      (show Rightmost ([] ++ [l]) r pieces from h).of_concat
    obtain rfl := front.of_nil
    exact ⟨before, behind, [behind], found.whole, rfl, .whole behind,
      fun v' rest' whole _ => found.last v' rest' whole⟩
  | append_singleton ls last ih =>
    obtain ⟨before, behind, earlier, found, front, rfl⟩ :=
      (show Rightmost ((l :: ls) ++ [last]) r pieces from h).of_concat
    obtain ⟨v, rest, later, rfl, rfl, rightmost, longest⟩ := ih front
    refine ⟨v, rest ++ last ++ behind, later ++ [behind], ?_, rfl, .last ⟨rfl, ?_⟩ rightmost, ?_⟩
    · rw [found.whole]
      simp only [List.append_assoc]
    · -- an occurrence in the rest is one in the whole text
      intro before' behind' whole
      have split : r = v ++ l ++ before' ++ last ++ behind' := by
        rw [found.whole]
        simp only [List.append_assoc] at whole ⊢
        rw [whole]
      have latest := found.last _ _ split
      simp only [List.length_append] at latest
      omega
    · -- with the last literal moved to its last occurrence, the others stay where they are
      intro v' rest' whole embeds
      obtain ⟨front', behind', rfl, others⟩ := embeds.of_concat
      have split : r = v' ++ l ++ front' ++ last ++ behind' := by
        rw [whole]
        simp only [List.append_assoc]
      obtain ⟨more, moved⟩ := found.exists_append split
      exact longest v' (front' ++ more) (by rw [moved, List.append_assoc]) (others.append more)

end

/-! ## The preferred cut -/

/-- What stands behind a wildcard: literals with a wildcard behind each of them, and the last literal. -/
def behindStar (back : List Char) : List (List Char) → List Token
  | [] => back.map Token.ofChar
  | l :: ls => l.map Token.ofChar ++ .star :: behindStar back ls

section

variable {o : MatchOptions} {back : List Char}

theorem cut_literal_iff (exact_ : o.caseSensitive = true) {t : Token} {c : Char} (of : t.literal? = some c)
    {cs : List Char} {ts : List Token} {vs : Values} :
    Cut o (t :: ts) cs vs ↔ ∃ rest, cs = c :: rest ∧ Cut o ts rest vs := by
  constructor
  · intro cut
    cases cut with
    | piece first later =>
      cases first with
      | literal of' same =>
        obtain rfl := Option.some.inj (of.symm.trans of')
        simp only [MatchOptions.same, exact_, if_true, beq_iff_eq] at same
        exact ⟨_, congrArg (· :: _) same, later⟩
      | value | leftOut | star | plus => cases of
  · rintro ⟨rest, rfl, cut⟩
    exact (cut_literal of).2 cut

theorem cut_front_iff (exact_ : o.caseSensitive = true) {front cs : List Char} {ts : List Token} {vs : Values} :
    Cut o (front.map Token.ofChar ++ ts) cs vs ↔ ∃ rest, cs = front ++ rest ∧ Cut o ts rest vs := by
  induction front generalizing cs with
  | nil => simp
  | cons c front ih =>
    rw [List.map_cons, List.cons_append, cut_literal_iff exact_ (Token.literal?_ofChar c)]
    constructor
    · rintro ⟨_, rfl, cut⟩
      obtain ⟨rest, rfl, later⟩ := ih.1 cut
      exact ⟨rest, rfl, later⟩
    · rintro ⟨rest, rfl, cut⟩
      exact ⟨front ++ rest, rfl, ih.2 ⟨rest, rfl, cut⟩⟩

/-- Between the first wildcard and the last literal, the others occur in order. -/
theorem embeds_of_cut (exact_ : o.caseSensitive = true) (strict : o.strict = true) {ls : List (List Char)}
    {cs : List Char} {vs : Values} (cut : Cut o (.star :: behindStar back ls) cs vs) :
    ∃ r, cs = r ++ back ∧ Embeds ls r := by
  induction ls generalizing cs vs with
  | nil =>
    cases cut with
    | @piece _ _ v _ _ _ _ later =>
      rw [behindStar, ← List.append_nil (back.map _)] at later
      obtain ⟨rest, rfl, last⟩ := (cut_front_iff exact_).1 later
      cases last with
      | done closes =>
        obtain rfl : rest = [] := by simpa [Closes, strict] using closes
        exact ⟨v, by rw [List.append_nil], .done v⟩
  | cons l ls ih =>
    cases cut with
    | @piece _ _ v _ _ _ _ later =>
      obtain ⟨rest, rfl, next⟩ := (cut_front_iff exact_).1 later
      obtain ⟨r, rfl, embeds⟩ := ih next
      exact ⟨v ++ l ++ r, by simp only [List.append_assoc], .next v embeds⟩

theorem cuts_star (o : MatchOptions) (ts : List Token) (cs : List Char) :
    cuts o (.star :: ts) cs =
      (takes Token.anyButNewline cs).reverse.flatMap fun x => (cuts o ts x.2).map (some x.1 :: ·) := by
  rw [cuts, Token.pieces, List.flatMap_map]
  rfl

/-- A wildcard takes a piece if nothing is left of the path that suits what stands behind it once it takes
more. -/
theorem head?_cuts_star {ts : List Token} {v rest : List Char} {vs : Values}
    (oneLine : ∀ c ∈ v ++ rest, Token.anyButNewline c = true) (later : vs ∈ (cuts o ts rest).head?)
    (longest : ∀ v' rest', v ++ rest = v' ++ rest' → v.length < v'.length → cuts o ts rest' = []) :
    some v :: vs ∈ (cuts o (.star :: ts) (v ++ rest)).head? := by
  obtain ⟨front, back⟩ := List.forall_mem_append.1 oneLine
  obtain ⟨shorter, taken, -⟩ := takes_append front rest
  obtain ⟨more, all, longer⟩ : ∃ more, takes Token.anyButNewline rest = ([], rest) :: more ∧
      ∀ x ∈ more, x.1 ≠ [] ∧ rest = x.1 ++ x.2 := by
    refine ⟨(takes Token.anyButNewline rest).tail, ?_, fun x hx => ?_⟩
    · cases rest <;> rfl
    · obtain ⟨nonempty, whole, -⟩ := mem_takesSome.1 (show (x.1, x.2) ∈ takesSome _ rest from hx)
      exact ⟨nonempty, whole⟩
  have none : (more.reverse.map fun x => (v ++ x.1, x.2)).flatMap
      (fun x => (cuts o ts x.2).map (some x.1 :: ·)) = [] := by
    rw [List.flatMap_map, List.flatMap_eq_nil_iff]
    intro x hx
    obtain ⟨nonempty, split⟩ := longer x (List.mem_reverse.1 hx)
    have refused := longest (v ++ x.1) x.2 (by rw [List.append_assoc, ← split]) (by
      rw [List.length_append]
      exact Nat.lt_add_of_pos_right (List.length_pos_of_ne_nil nonempty))
    rw [refused, List.map_nil]
  rw [cuts_star, taken, all, List.map_cons, List.reverse_append, List.reverse_cons, ← List.map_reverse,
    List.flatMap_append, List.flatMap_append, none, List.nil_append, List.flatMap_singleton, List.append_nil,
    List.head?_append, List.head?_map]
  exact Option.or_eq_some_iff.2 (.inl (Option.map_eq_some_iff.2 ⟨vs, later, rfl⟩))

/-- The preferred cut leaves the literals as far to the right as they can stand. -/
theorem head?_cuts_rightmost (exact_ : o.caseSensitive = true) (strict : o.strict = true)
    {ls pieces : List (List Char)} {r : List Char} (h : Rightmost ls r pieces)
    (oneLine : ∀ c ∈ r ++ back, Token.anyButNewline c = true) :
    pieces.map some ∈ (cuts o (.star :: behindStar back ls) (r ++ back)).head? := by
  have refused {ts : List Token} {cs : List Char} (none : ∀ vs, ¬ Cut o ts cs vs) : cuts o ts cs = [] :=
    List.eq_nil_iff_forall_not_mem.2 fun vs cut => none vs (mem_cuts.1 cut)
  induction ls generalizing r pieces with
  | nil =>
    obtain rfl := h.of_nil
    refine head?_cuts_star oneLine ?_ fun v' rest' whole more => refused fun vs cut => ?_
    · have last := cuts_front o back [] []
      rw [List.append_nil, List.append_nil] at last
      rw [behindStar, last]
      simp [cuts, Closes]
    · rw [behindStar, ← List.append_nil (back.map _)] at cut
      obtain ⟨rest, rfl, -⟩ := (cut_front_iff exact_).1 cut
      have length := congrArg List.length whole
      simp only [List.length_append] at length
      omega
  | cons l ls ih =>
    obtain ⟨v, rest, later, rfl, rfl, rightmost, longest⟩ := h.first
    rw [List.append_assoc, List.append_assoc] at oneLine ⊢
    refine head?_cuts_star oneLine ?_ fun v' rest' whole more => refused fun vs cut => ?_
    · rw [behindStar, cuts_front]
      exact ih rightmost (List.forall_mem_append.1 (List.forall_mem_append.1 oneLine).2).2
    · obtain ⟨rest', rfl, next⟩ := (cut_front_iff exact_).1 cut
      obtain ⟨r', rfl, embeds⟩ := embeds_of_cut exact_ strict next
      have split : v ++ l ++ rest = v' ++ l ++ r' := by
        apply (List.append_left_inj back).1
        simpa only [List.append_assoc] using whole
      exact absurd (longest v' r' split embeds) (Nat.not_le.2 more)

end

/-! ## Patterns -/

/-- Literal texts with a wildcard between each two of them: the one in front, the one at the end, and those
between. -/
structure WildcardPath where
  front : List Char
  between : List (List Char)
  back : List Char
  literal : (front ++ between.flatten ++ back).all isPlainChar = true

namespace WildcardPath

/-- The pattern text. -/
def source (p : WildcardPath) : String :=
  String.ofList (p.front ++ '*' :: (p.between.flatMap (· ++ ['*']) ++ p.back))

theorem weightOf_text {ts : List Token} (single : ∀ t ∈ ts, t.weight = 1 ∧ t.text.length = 1) :
    weightOf ts = (ts.flatMap Token.text).length := by
  induction ts with
  | nil => rfl
  | cons t ts ih =>
    obtain ⟨⟨weight, length⟩, later⟩ := List.forall_mem_cons.1 single
    rw [weightOf, List.flatMap_cons, List.length_append, weight, length, ih later]

/-- A literal character or a wildcard. -/
def IsSimple (t : Token) : Prop :=
  t = .star ∨ ∃ c, isPlainChar c = true ∧ t = Token.ofChar c

theorem IsSimple.isPlain {t : Token} (h : IsSimple t) : t.isPlain = true := by
  obtain rfl | ⟨c, plain, rfl⟩ := h
  · rfl
  · exact Token.isPlain_ofChar plain

theorem IsSimple.mayPrecede {t u : Token} (h : IsSimple t) (h' : IsSimple u) :
    Token.mayPrecede t u = true := by
  obtain rfl | ⟨c, -, rfl⟩ := h
  · rfl
  · refine Token.mayPrecede_ofChar c fun p same => ?_
    obtain rfl | ⟨d, -, rfl⟩ := h'
    · cases same
    · exact absurd same (Token.ofChar_ne_param d p)

theorem IsSimple.single {t : Token} (h : IsSimple t) : t.weight = 1 ∧ t.text.length = 1 := by
  obtain rfl | ⟨c, -, rfl⟩ := h
  · exact ⟨rfl, rfl⟩
  · exact ⟨Token.weight_ofChar c, by rw [Token.text_ofChar]; rfl⟩

def tokens (p : WildcardPath) : List Token :=
  p.front.map Token.ofChar ++ .star :: behindStar p.back p.between

theorem isSimple_of_mem_ofChars {t : Token} {cs : List Char} (literal : cs.all isPlainChar = true)
    (ht : t ∈ cs.map Token.ofChar) : IsSimple t := by
  obtain ⟨c, hc, rfl⟩ := List.mem_map.1 ht
  exact .inr ⟨c, List.all_eq_true.1 literal c hc, rfl⟩

theorem isSimple_of_mem_behindStar {t : Token} {back : List Char} {ls : List (List Char)}
    (last : back.all isPlainChar = true) (others : ls.flatten.all isPlainChar = true)
    (ht : t ∈ behindStar back ls) : IsSimple t := by
  induction ls with
  | nil => exact isSimple_of_mem_ofChars last ht
  | cons l ls ih =>
    rw [List.flatten_cons, List.all_append, Bool.and_eq_true] at others
    obtain here | ht := List.mem_append.1 ht
    · exact isSimple_of_mem_ofChars others.1 here
    · obtain rfl | ht := List.mem_cons.1 ht
      · exact .inl rfl
      · exact ih others.2 ht

theorem isSimple_of_mem {p : WildcardPath} {t : Token} (ht : t ∈ p.tokens) : IsSimple t := by
  have literal := p.literal
  simp only [List.all_append, Bool.and_eq_true] at literal
  obtain here | ht := List.mem_append.1 ht
  · exact isSimple_of_mem_ofChars literal.1.1 here
  · obtain rfl | ht := List.mem_cons.1 ht
    · exact .inl rfl
    · exact isSimple_of_mem_behindStar literal.2 literal.1.2 ht

def plain (p : WildcardPath) : Plain where
  tokens := p.tokens
  plain := List.all_eq_true.2 fun _ ht => (isSimple_of_mem ht).isPlain
  apart := List.Pairwise.isChain (List.pairwise_iff_forall_sublist.2 fun sub =>
    (isSimple_of_mem (sub.subset List.mem_cons_self)).mayPrecede
      (isSimple_of_mem (sub.subset (List.mem_cons_of_mem _ List.mem_cons_self))))

theorem tokens_plain (p : WildcardPath) :
    p.plain.tokens = p.front.map Token.ofChar ++ .star :: behindStar p.back p.between := rfl

theorem text_behindStar (back : List Char) (ls : List (List Char)) :
    (behindStar back ls).flatMap Token.text = ls.flatMap (· ++ ['*']) ++ back := by
  induction ls with
  | nil => exact Token.text_ofChars back
  | cons l ls ih =>
    rw [behindStar, List.flatMap_append, Token.text_ofChars, List.flatMap_cons, ih, List.flatMap_cons]
    simp [Token.text]

theorem text_plain (p : WildcardPath) :
    p.plain.text = p.front ++ '*' :: (p.between.flatMap (· ++ ['*']) ++ p.back) := by
  rw [Plain.text, tokens_plain, List.flatMap_append, Token.text_ofChars, List.flatMap_cons, text_behindStar]
  rfl

theorem source_plain (p : WildcardPath) : p.plain.source = p.source := by
  rw [Plain.source, text_plain, source]

theorem weight_plain (p : WildcardPath) : p.plain.weight = p.source.length := by
  have single : ∀ t ∈ p.plain.tokens, t.weight = 1 ∧ t.text.length = 1 := fun _ ht =>
    (isSimple_of_mem ht).single
  rw [Plain.weight, weightOf_text single, ← source_plain, Plain.source, String.length_ofList]
  rfl

theorem keys_ofChars (slots unnamed : Nat) (cs : List Char) (ts : List Token) :
    (Expansion.ofTokens slots unnamed (cs.map Token.ofChar ++ ts)).keys =
      (Expansion.ofTokens slots unnamed ts).keys := by
  induction cs with
  | nil => rfl
  | cons c cs ih =>
    rw [List.map_cons, List.cons_append, Expansion.ofTokens, Token.spec?_ofChar]
    exact ih

theorem keys_behindStar (slots unnamed : Nat) (back : List Char) (ls : List (List Char)) :
    (Expansion.ofTokens slots unnamed (behindStar back ls)).keys =
      (List.range' unnamed ls.length).map fun i => ⟨.index i, false⟩ := by
  induction ls generalizing slots unnamed with
  | nil =>
    have last := keys_ofChars slots unnamed back []
    rwa [List.append_nil] at last
  | cons l ls ih =>
    rw [behindStar, keys_ofChars, Expansion.ofTokens, List.length_cons, List.range'_succ, List.map_cons]
    exact congrArg _ (ih ..)

/-- Each wildcard declares a slot, and the slots go by position. -/
theorem keys_source (p : WildcardPath) :
    (expansion ⟨true, true⟩ p.source).keys =
      (List.range (p.between.length + 1)).map fun i => ⟨.index i, false⟩ := by
  have whole := p.plain.lex_text (isClosing_closingOf ⟨true, true⟩)
  rw [← source_plain, Plain.expansion_source, Expansion.ofText, whole]
  have closing : p.plain.tokens ++ Token.closingTokens (closingOf ⟨true, true⟩) = p.plain.tokens :=
    List.append_nil _
  rw [closing, tokens_plain, keys_ofChars, Expansion.ofTokens, List.range_eq_range', List.range'_succ,
    List.map_cons]
  exact congrArg _ (keys_behindStar ..)

/-- A path on one line matches if it starts with the first literal, ends with the last one, and has the others
in order between them. The wildcards then take the pieces around these where they stand as far to the right as
they can. A pattern is accepted exactly if its program keeps to the limit, which that of every pattern of moderate
length does. -/
theorem takes_rightmost (p : WildcardPath) :
    IsDecidedBySize ⟨true, true⟩ (.path p.source) ∧
    (∀ e, compile ⟨true, true⟩ (.path p.source) = .error e → 400 < p.source.length ∧
      e = .invalidPattern p.source (RegexError.sizeLimitExceeded sizeLimit).message) ∧
    ∀ c, compile ⟨true, true⟩ (.path p.source) = .ok c →
      c.keys = ((List.range (p.between.length + 1)).map fun i => ⟨.index i, false⟩) ∧
      ∀ path : String, '\n' ∉ path.toList →
        ((c.parse path).matched = true ↔
          ∃ r, path.toList = p.front ++ r ++ p.back ∧ Embeds p.between r) ∧
        ∀ r, path.toList = p.front ++ r ++ p.back → Embeds p.between r →
          (∃ pieces, Rightmost p.between r pieces) ∧
          ∀ pieces, Rightmost p.between r pieces →
            (c.parse path).captures = pieces.map fun v => some (String.ofList v) := by
  rw [← weight_plain, ← source_plain]
  refine ⟨p.plain.isDecidedBySize _, fun e => Plain.error_of_compile, fun c compiled => ?_⟩
  have keys := (Plain.parse_of_compile compiled "").1
  rw [source_plain, keys_source] at keys
  refine ⟨keys, fun path oneLine => ?_⟩
  obtain ⟨-, matched, captured⟩ := Plain.parse_of_compile compiled path
  -- the preferred cut of a path in which the literals stand
  have preferred {r : List Char} {pieces : List (List Char)} (text : path.toList = p.front ++ r ++ p.back)
      (rightmost : Rightmost p.between r pieces) :
      pieces.map some ∈ (cuts ⟨true, true⟩ p.plain.tokens path.toList).head? := by
    rw [List.append_assoc] at text
    rw [tokens_plain, text, cuts_front]
    refine head?_cuts_rightmost rfl rfl rightmost fun c hc => ?_
    have inside : c ∈ path.toList := text ▸ List.mem_append_right _ hc
    exact bne_iff_ne.2 fun newline => oneLine (newline ▸ inside)
  refine ⟨matched.trans ⟨fun some_ => ?_, ?_⟩, fun r text embeds => ⟨embeds.exists_rightmost, ?_⟩⟩
  · obtain ⟨vs, first⟩ := Option.isSome_iff_exists.1 some_
    obtain ⟨rest, text, cut⟩ := (cut_front_iff rfl).1 (mem_cuts.1 (List.mem_of_head? first))
    obtain ⟨r, rfl, embeds⟩ := embeds_of_cut rfl rfl cut
    exact ⟨r, by rw [text, List.append_assoc], embeds⟩
  · rintro ⟨r, text, embeds⟩
    obtain ⟨pieces, rightmost⟩ := embeds.exists_rightmost
    exact Option.isSome_of_mem (preferred text rightmost)
  · intro pieces rightmost
    rw [captured _ (preferred text rightmost), List.map_map]
    rfl

/-- The first wildcard takes one of the two hyphens, and the second nothing. -/
theorem takes_rightmost_hyphen :
    ∃ c, compile ⟨true, true⟩ (.path "/*-*/raw") = .ok c ∧
      (c.parse "/x-y-/raw").captures = [some "x-y", some ""] := by
  let p : WildcardPath := ⟨"/".toList, ["-".toList], "/raw".toList, by decide⟩
  obtain ⟨-, refused, parsed⟩ := takes_rightmost p
  have source : p.source = "/*-*/raw" := by decide
  have embeds : Embeds p.between "x-y-".toList := .next "x-y".toList (.done [])
  have last : IsLastOccurrence "-".toList "x-y-".toList "x-y".toList [] := by
    refine ⟨by decide, fun before behind whole => ?_⟩
    have length := congrArg List.length whole
    simp at length ⊢
    omega
  have rightmost : Rightmost p.between "x-y-".toList ["x-y".toList, []] := .last last (.whole _)
  rw [source] at refused parsed
  cases compiled : compile ⟨true, true⟩ (.path "/*-*/raw") with
  | error e => exact absurd (refused e compiled).1 (by decide)
  | ok c =>
    obtain ⟨-, captures⟩ := (parsed c compiled).2 "/x-y-/raw" (by decide)
    exact ⟨c, rfl, (captures "x-y-".toList (by decide) embeds).2 _ rightmost⟩

/-! ### Patterns that are too long -/

/-- A wildcard behind one letter that is repeated. -/
def long (n : Nat) : WildcardPath where
  front := List.replicate n 'a'
  between := []
  back := []
  literal := by
    rw [List.flatten_nil, List.append_nil, List.append_nil]
    exact all_isPlainChar_replicate n

/-- Such a pattern does not match its literal text, since it is refused. -/
theorem long_not_matched :
    ¬ ∃ c, compile ⟨true, true⟩ (.path (long 330000).source) = .ok c ∧
      (c.parse (String.ofList (long 330000).front)).matched = true := by
  have refused := Plain.compile_repeated (tokens_plain (long 330000)) (by decide)
  rintro ⟨c, compiled, -⟩
  rw [source_plain, compiled] at refused
  cases refused

end WildcardPath

end Pattern

end Routing
