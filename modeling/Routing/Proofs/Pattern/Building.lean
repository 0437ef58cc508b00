import Mathlib.Data.List.Nodup
import Routing.Proofs.Pattern.Binding
import Routing.Proofs.Pattern.Language

/-!
# Paths that are built from a pattern

A template is a pattern of segments, each a literal or a parameter. With a value for each parameter it
gives a path, in which the values are percent-encoded, and that path gives the values back.

* `Segment`, `Template`: segments with distinct names
* `Template.plain`: the plain pattern of a template
* `Segment.cut_iff`: a path that was built is cut in one way only
* `Template.build_parse`: the path that was built gives the values back
-/
namespace Routing

open Regex

namespace Pattern

/-! ## Templates -/

/-- A slash with a literal or a parameter behind it. -/
inductive Segment where
  | literal (text : List Char)
  | param (name : List Char)
  deriving DecidableEq, Repr

namespace Segment

def isLiteralChar (c : Char) : Bool :=
  isNameChar c || c == '~' || c == '.' || c == '-'

def isFormed : Segment → Bool
  | literal text => !text.isEmpty && text.all isLiteralChar
  | param name => !name.isEmpty && name.all isNameChar

/-- The segment as written. -/
def text : Segment → List Char
  | literal text => '/' :: text
  | param name => '/' :: ':' :: name

def name? : Segment → Option String
  | literal _ => none
  | param name => some (String.ofList name)

def charToken (c : Char) : Token :=
  if c = '.' then .dot else .char c

def nameToken (name : List Char) : Token :=
  .param ⟨true, false, name, none, false⟩

def tokens : Segment → List Token
  | literal text => .slash :: text.map charToken
  | param name => [nameToken name]

/-- The segment of a path, with the encoded value of the parameter. -/
def built (values : String → String) : Segment → List Char
  | literal text => '/' :: text
  | param name => '/' :: Percent.encode (values (String.ofList name)).toList

theorem flatMap_text_tokens (s : Segment) : s.tokens.flatMap Token.text = s.text := by
  have plain (text : List Char) : (text.map charToken).flatMap Token.text = text := by
    induction text with
    | nil => rfl
    | cons c text ih =>
      rw [List.map_cons, List.flatMap_cons, ih, charToken]
      split
      · next dot => rw [dot]; rfl
      · rfl
  cases s with
  | literal text => rw [tokens, List.flatMap_cons, plain]; rfl
  | param name => simp [tokens, nameToken, Token.text, Token.ParamToken.text, text]

theorem isPlain_tokens {s : Segment} (formed : s.isFormed = true) : s.tokens.all Token.isPlain = true := by
  cases s with
  | literal text =>
    have chars : ∀ c ∈ text, isLiteralChar c = true :=
      List.all_eq_true.1 (Bool.and_eq_true_iff.1 formed).2
    simp only [tokens, List.all_cons, Token.isPlain, Bool.true_and, List.all_map]
    refine List.all_eq_true.2 fun c hc => ?_
    have literal := chars c hc
    rw [Function.comp_apply, charToken]
    split
    · rfl
    · next other =>
      have word : isNameChar c = true ∨ c = '~' ∨ c = '-' := by
        simpa [isLiteralChar, other, or_assoc] using literal
      rcases word with h | h | h <;> simp [Token.isPlain, isWordChar, h]
  | param name => simpa [tokens, nameToken, Token.isPlain, isFormed] using formed

/-- A segment may stand behind everything. -/
theorem mayPrecede_head (s : Segment) (t : Token) : ∀ u ∈ s.tokens.head?, Token.mayPrecede t u = true := by
  intro u hu
  cases s with
  | literal text =>
    obtain rfl : Token.slash = u := by simpa [tokens] using hu
    cases t <;> rfl
  | param name =>
    obtain rfl : nameToken name = u := by simpa [tokens] using hu
    cases t <;> rfl

theorem isChain_tokens (s : Segment) : s.tokens.IsChain (Token.mayPrecede · ·) := by
  have chars (t : Token) (text : List Char) (noParam : ∀ p, t ≠ .param p) :
      (t :: text.map charToken).IsChain (Token.mayPrecede · ·) := by
    induction text generalizing t with
    | nil => exact .singleton t
    | cons c text ih =>
      have next : ∀ p, charToken c ≠ .param p := by
        intro p
        unfold charToken
        split <;> exact Token.noConfusion
      refine List.isChain_cons_cons.2 ⟨?_, ih (charToken c) next⟩
      cases t with
      | param p => exact absurd rfl (noParam p)
      | _ => unfold charToken; split <;> rfl
  cases s with
  | literal text => exact chars .slash text fun p => Token.noConfusion
  | param name => exact .singleton _

end Segment

/-- Segments whose parameters go by different names. -/
structure Template where
  segments : List Segment
  formed : segments.all Segment.isFormed = true
  distinct : (segments.filterMap Segment.name?).Nodup

namespace Template

/-- The names of the parameters, in order. -/
def names (t : Template) : List String :=
  t.segments.filterMap Segment.name?

/-- The pattern text. -/
def source (t : Template) : String :=
  String.ofList (t.segments.flatMap Segment.text)

/-- The path with a value for each name. -/
def path (t : Template) (values : String → String) : String :=
  String.ofList (t.segments.flatMap (Segment.built values))

/-- The plain pattern that a template is. -/
def plain (t : Template) : Plain where
  tokens := t.segments.flatMap Segment.tokens
  plain := by
    rw [List.all_flatMap]
    refine List.all_eq_true.2 fun s hs => ?_
    exact Segment.isPlain_tokens (List.all_eq_true.1 t.formed s hs)
  apart := by
    induction t.segments with
    | nil => exact .nil
    | cons s rest ih =>
      rw [List.flatMap_cons]
      refine List.isChain_append.2 ⟨s.isChain_tokens, ih, fun x _ y hy => ?_⟩
      cases rest with
      | nil => cases hy
      | cons next rest =>
        have front : y ∈ next.tokens.head? := by
          cases next <;> simpa [Segment.tokens] using hy
        exact next.mayPrecede_head x y front

theorem source_plain (t : Template) : t.plain.source = t.source := by
  rw [Plain.source, Plain.text, plain, source, List.flatMap_assoc]
  simp only [Segment.flatMap_text_tokens]

/-! ### The slots of a template -/

theorem keys_ofTokens (slots unnamed : Nat) (segments : List Segment) (closing : List Char) :
    ((Expansion.ofTokens slots unnamed
      (segments.flatMap Segment.tokens ++ Token.closingTokens closing)).keys).map (·.key) =
      (segments.filterMap Segment.name?).map .name := by
  induction segments generalizing slots with
  | nil => cases closing <;> rfl
  | cons s rest ih =>
    cases s with
    | literal text =>
      have chars (slots : Nat) : ((Expansion.ofTokens slots unnamed
          (text.map Segment.charToken ++ (rest.flatMap Segment.tokens ++ Token.closingTokens closing))).keys).map
            (·.key) = (rest.filterMap Segment.name?).map .name := by
        induction text generalizing slots with
        | nil => exact ih slots
        | cons c text later =>
          have none : (Segment.charToken c).spec? unnamed = none := by
            unfold Segment.charToken
            split <;> rfl
          rw [List.map_cons, List.cons_append, Expansion.ofTokens, none]
          exact later slots
      rw [List.filterMap_cons_none rfl]
      simpa [Segment.tokens, Expansion.ofTokens, Token.spec?] using chars slots
    | param name =>
      have named : (Segment.param name).name? = some (String.ofList name) := rfl
      rw [List.filterMap_cons_some named]
      simpa [Segment.tokens, Segment.nameToken, Expansion.ofTokens, Token.spec?, ParamKey.index?] using
        ih (slots + 1)

theorem keys_source (t : Template) (o : MatchOptions) :
    (expansion o t.source).keys.map (·.key) = t.names.map .name := by
  rw [← source_plain, Plain.expansion_source, Expansion.ofText,
    t.plain.lex_text (isClosing_closingOf o)]
  exact keys_ofTokens 0 0 t.segments (closingOf o)

end Template

/-! ## The one cut of a path that was built -/

section

variable {o : MatchOptions}

theorem same_self (o : MatchOptions) (c : Char) : o.same c c = true := by
  unfold MatchOptions.same
  split <;> simp

theorem cut_literal {t : Token} {c : Char} (of : t.literal? = some c) {ts : List Token} {cs : List Char}
    {vs : Values} : Cut o (t :: ts) (c :: cs) vs ↔ Cut o ts cs vs := by
  constructor
  · intro cut
    generalize whole : c :: cs = all at cut
    cases cut with
    | piece first later =>
      cases first with
      | literal =>
        obtain ⟨-, rfl⟩ := List.cons.inj whole
        exact later
      | value | leftOut | star | plus => cases of
  · intro cut
    exact .piece (.literal of (same_self o c)) cut

theorem cut_literals (text : List Char) {ts : List Token} {cs : List Char} {vs : Values} :
    Cut o (text.map Segment.charToken ++ ts) (text ++ cs) vs ↔ Cut o ts cs vs := by
  induction text with
  | nil => exact .rfl
  | cons c text ih =>
    have of : (Segment.charToken c).literal? = some c := by
      unfold Segment.charToken
      split
      · next dot => rw [dot]; rfl
      · rfl
    exact (cut_literal of).trans ih

theorem cut_name {name : List Char} {ts : List Token} {cs : List Char} {vs : Values} :
    Cut o (Segment.nameToken name :: ts) cs vs ↔
      ∃ v rest ws, cs = '/' :: (v ++ rest) ∧ v ≠ [] ∧ '/' ∉ v ∧ vs = some v :: ws ∧ Cut o ts rest ws := by
  constructor
  · intro cut
    cases cut with
    | piece first later =>
      cases first with
      | literal of => cases of
      | value nonempty allowed =>
        refine ⟨_, _, _, rfl, nonempty, fun slash => ?_, rfl, later⟩
        have refused := allowed '/' slash
        simp [Token.ParamToken.allows] at refused
      | leftOut optional => cases optional
  · rintro ⟨v, rest, ws, rfl, nonempty, noSlash, rfl, later⟩
    have allowed : ∀ c ∈ v, Token.ParamToken.allows ⟨true, false, name, none, false⟩ c = true := by
      intro c hc
      have other : c ≠ '/' := fun slash => noSlash (slash ▸ hc)
      simp [Token.ParamToken.allows, other]
    exact .piece (.value nonempty allowed) later

/-- What is left for segments, or for the end, is nothing or starts with a slash. -/
theorem head_of_cut {segments : List Segment} {cs : List Char} {vs : Values}
    (cut : Cut o (segments.flatMap Segment.tokens) cs vs) : ∀ c ∈ cs.head?, c = '/' := by
  intro c hc
  cases segments with
  | nil =>
    cases cut with
    | done closes =>
      rcases closes with rfl | ⟨-, rfl⟩
      · cases hc
      · exact (Option.some.inj hc).symm
  | cons s rest =>
    cases s with
    | literal text =>
      rw [List.flatMap_cons] at cut
      cases cut with
      | piece first later =>
        cases first with
        | literal of same =>
          obtain rfl := Option.some.inj of
          rw [same_of_lt (by decide)] at same
          obtain rfl := Option.some.inj hc
          exact eq_of_beq same
    | param name =>
      obtain ⟨v, left, ws, rfl, -⟩ := cut_name.1 cut
      exact (Option.some.inj hc).symm

end

namespace Segment

/-- The raw value of a parameter in a path that was built. -/
def value? (values : String → String) : Segment → Option (Option (List Char))
  | literal _ => none
  | param name => some (some (Percent.encode (values (String.ofList name)).toList))

theorem slash_not_mem_encode (cs : List Char) : '/' ∉ Percent.encode cs := by
  intro slash
  rcases Percent.encode_keeps slash with mark | unreserved
  · exact absurd mark (by decide)
  · exact absurd unreserved (by decide)

theorem head_built (values : String → String) (segments : List Segment) :
    ∀ c ∈ (segments.flatMap (built values)).head?, c = '/' := by
  intro c hc
  cases segments with
  | nil => cases hc
  | cons s rest => cases s <;> exact (Option.some.inj hc).symm

/-- A path that was built is cut in one way only, which gives the encoded values. -/
theorem cut_iff {o : MatchOptions} {values : String → String} {segments : List Segment} {vs : Values}
    (given : ∀ n ∈ segments.filterMap name?, values n ≠ "") :
    Cut o (segments.flatMap tokens) (segments.flatMap (built values)) vs ↔
      vs = segments.filterMap (value? values) := by
  induction segments generalizing vs with
  | nil =>
    constructor
    · intro cut
      cases cut
      rfl
    · rintro rfl
      exact .done (.inl rfl)
  | cons s rest ih =>
    cases s with
    | literal text =>
      have front : (literal text :: rest).flatMap (built values) =
          '/' :: (text ++ rest.flatMap (built values)) := rfl
      rw [List.flatMap_cons, front]
      exact (cut_literal rfl).trans ((cut_literals text).trans (ih given))
    | param name =>
      obtain ⟨here, later⟩ := List.forall_mem_cons.1 (show ∀ n ∈ String.ofList name :: rest.filterMap name?,
        values n ≠ "" from given)
      let raw := Percent.encode (values (String.ofList name)).toList
      have front : (param name :: rest).flatMap (built values) =
          '/' :: (raw ++ rest.flatMap (built values)) := rfl
      have noSlash : '/' ∉ raw := slash_not_mem_encode _
      have nonempty : raw ≠ [] := Percent.encode_ne_nil (by simpa using here)
      rw [List.flatMap_cons, front]
      refine cut_name.trans ⟨?_, ?_⟩
      · rintro ⟨v, left, ws, whole, -, none, rfl, cut⟩
        -- both values end where the next slash stands
        have ends {v left : List Char} (none : '/' ∉ v) (next : ∀ c ∈ left.head?, c = '/') :
            (v ++ left).takeWhile (· != '/') = v ∧ (v ++ left).dropWhile (· != '/') = left := by
          refine Token.takeWhile_append_of_head ?_ fun c hc => by simp [next c hc]
          exact List.all_eq_true.2 fun c hc => bne_iff_ne.2 fun slash => none (slash ▸ hc)
        obtain ⟨taken, behind⟩ := ends none (head_of_cut cut)
        obtain ⟨taken', behind'⟩ := ends noSlash (head_built values rest)
        have same := (List.cons.inj whole).2
        rw [← same] at taken behind
        obtain rfl : v = raw := taken.symm.trans taken'
        obtain rfl : left = rest.flatMap (built values) := behind.symm.trans behind'
        rw [(ih later).1 cut]
        rfl
      · rintro rfl
        exact ⟨raw, _, _, rfl, nonempty, noSlash, rfl, (ih later).2 rfl⟩

end Segment

/-! ## Building and parsing -/

/-- An encoded value as a capture. -/
def encoded (value : String) : String :=
  String.ofList (Percent.encode value.toList)

theorem slotValue_encoded (value : String) : slotValue (encoded value) = value := by
  rw [slotValue, encoded, String.toList_ofList, Percent.decode_encode]
  exact String.ofList_toList

namespace Plain

/-- What parsing does with the pattern that a plain one compiles to. -/
theorem parse_of_compile {p : Plain} {o : MatchOptions} {c : CompiledPattern}
    (compiled : compile o (.path p.source) = .ok c) (path : String) :
    c.keys = (expansion o p.source).keys ∧
      ((c.parse path).matched = true ↔ (cuts o p.tokens path.toList).head?.isSome = true) ∧
      ∀ vs ∈ (cuts o p.tokens path.toList).head?,
        (c.parse path).captures = vs.map (·.map String.ofList) := by
  obtain ⟨a, -, follows, result⟩ := p.compile_eq o
  rw [compiled] at result
  split at result
  · obtain rfl := Except.ok.inj result
    have keys : (expansion o p.source).keys.length = p.slots := by
      rw [expansion_source, p.length_keys_ofText (isClosing_closingOf o), slots]
    exact ⟨rfl, parse_eq follows rfl rfl keys path⟩
  · cases result

/-- A plain pattern is refused for its room alone. -/
theorem error_of_compile {p : Plain} {o : MatchOptions} {e : RouterError}
    (refused : compile o (.path p.source) = .error e) :
    400 < p.weight ∧
      e = .invalidPattern p.source (RegexError.sizeLimitExceeded sizeLimit).message := by
  obtain ⟨a, -, follows, result⟩ := p.compile_eq o
  rw [refused] at result
  split at result
  · cases result
  · next tooLarge =>
    refine ⟨?_, Except.error.inj result⟩
    by_contra small
    exact tooLarge (fits_of_weight_le (Nat.le_of_not_lt small) follows)

end Plain

namespace Template

theorem filterMap_value? (t : Template) (values : String → String) :
    (t.segments.filterMap (Segment.value? values)).map (·.map String.ofList) =
      t.names.map fun n => some (encoded (values n)) := by
  rw [names, List.map_filterMap, List.map_filterMap]
  refine List.filterMap_congr fun s _ => ?_
  cases s <;> rfl

/-- A template is accepted exactly if its program keeps to the limit, which that of a moderate one does. The path
that is built from it with values for its names matches; its captures are the encoded values, and the names go with
the values themselves, in order. -/
theorem build_parse (t : Template) (o : MatchOptions) (values : String → String)
    (given : ∀ n ∈ t.names, values n ≠ "") :
    IsDecidedBySize o (.path t.source) ∧
    (∀ e, compile o (.path t.source) = .error e →
      400 < t.plain.weight ∧
        e = .invalidPattern t.source (RegexError.sizeLimitExceeded sizeLimit).message) ∧
    ∀ c, compile o (.path t.source) = .ok c →
      c.isMatch (t.path values) = true ∧
      (c.parse (t.path values)).matched = true ∧
      (c.parse (t.path values)).captures = t.names.map (fun n => some (encoded (values n))) ∧
      (c.parse (t.path values)).params.entries = t.names.map fun n => (.name n, some (values n)) := by
  rw [← source_plain]
  refine ⟨t.plain.isDecidedBySize o, fun e => Plain.error_of_compile, fun c compiled => ?_⟩
  obtain ⟨keys, matched, captured⟩ := Plain.parse_of_compile compiled (t.path values)
  have text : (t.path values).toList = t.segments.flatMap (Segment.built values) := String.toList_ofList
  rw [text] at matched captured
  -- the one cut is the preferred one
  have only : ∀ vs, vs ∈ cuts o t.plain.tokens (t.segments.flatMap (Segment.built values)) ↔
      vs = t.segments.filterMap (Segment.value? values) :=
    fun vs => mem_cuts.trans (Segment.cut_iff given)
  have cut := (only _).2 rfl
  obtain ⟨vs, first⟩ : ∃ vs, vs ∈ (cuts o t.plain.tokens (t.segments.flatMap (Segment.built values))).head? :=
    ⟨_, List.head?_eq_some_head (List.ne_nil_of_mem cut)⟩
  obtain rfl := (only vs).1 (List.mem_of_head? first)
  have captures := captured _ first
  rw [t.filterMap_value? values] at captures
  have accepted := matched.2 (Option.isSome_of_mem first)
  obtain ⟨isMatch, params⟩ := CompiledPattern.params_of_matched accepted
  refine ⟨isMatch, accepted, captures, ?_⟩
  have slots : (c.keys.drop 0).map (·.key) = t.names.map ParamKey.name := by
    rw [List.drop_zero, keys, t.source_plain, t.keys_source]
  have distinct : (Params.keys .empty ++ t.names.map ParamKey.name).Nodup :=
    List.Nodup.map (fun _ _ => ParamKey.name.inj) t.distinct
  rw [params, captures, CompiledPattern.entries_bindSlots c slots (by simp) distinct]
  have pair (n : String) : (some (encoded (values n))).map slotValue = some (values n) :=
    congrArg some (slotValue_encoded (values n))
  simp only [Params.empty, List.nil_append, List.map_map, Function.comp_def, pair, List.zip_map']

/-- Whatever has a meaning in paths is given back as it was. -/
theorem build_parse_user :
    ∃ c, compile {} (.path "/user/:id") = .ok c ∧
      (c.parse "/user/a%2Fb%25%C3%BC").params.entries = [(.name "id", some "a/b%ü")] := by
  let t : Template := ⟨[.literal "user".toList, .param "id".toList], by decide, by decide⟩
  have given : ∀ n ∈ t.names, (fun _ => "a/b%ü") n ≠ "" := fun _ _ => show "a/b%ü" ≠ "" by decide
  have source : t.source = "/user/:id" := by decide
  have path : t.path (fun _ => "a/b%ü") = "/user/a%2Fb%25%C3%BC" := by decide
  obtain ⟨-, refused, parsed⟩ := build_parse t {} _ given
  rw [source] at refused parsed
  rw [path] at parsed
  cases compiled : compile {} (.path "/user/:id") with
  | error e => exact absurd (refused e compiled).1 (by decide)
  | ok c => exact ⟨c, rfl, (parsed c compiled).2.2.2⟩

/-! ### Templates that are too long -/

/-- The template of one literal that repeats a letter. -/
def letters (n : Nat) : Template where
  segments := [.literal (List.replicate (n + 1) 'a')]
  formed := by simp [Segment.isFormed, Segment.isLiteralChar, isNameChar]
  distinct := .nil

theorem compile_letters {n : Nat} (long : sizeLimit < 32 * (n + 2)) :
    compile ⟨true, true⟩ (.path (letters n).source) =
      .error (.invalidPattern (letters n).source
        (RegexError.sizeLimitExceeded sizeLimit).message) := by
  have literal : (letters n).plain.tokens.map Token.literal? =
      ('/' :: List.replicate (n + 1) 'a').map some := by
    simp [letters, plain, Segment.tokens, Segment.charToken, Token.literal?]
  have single : Plain.AreSingle ('/' :: List.replicate (n + 1) 'a') :=
    List.forall_mem_cons.2 ⟨by decide, Plain.areSingle_replicate (n + 1)⟩
  rw [← source_plain]
  exact Plain.compile_literals literal single (by simpa using long)

/-- No path that is built from such a template matches, as the template is refused. -/
theorem build_refused :
    ¬ ∃ c, compile ⟨true, true⟩ (.path (letters 330000).source) = .ok c ∧
      (c.parse ((letters 330000).path fun _ => "")).matched = true := by
  rintro ⟨c, compiled, -⟩
  rw [compile_letters (by decide)] at compiled
  cases compiled

end Template

end Pattern

end Routing
