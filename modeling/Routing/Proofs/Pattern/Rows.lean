import Routing.Proofs.Pattern.Building

/-!
# Parameters behind a literal text

Many patterns are a literal text with parameters in a row behind it. The text is cut off from a path that
starts with it, and only the parameters compete for what is left.

* `Row`, `Row.plain`: a literal text with parameters behind it, which is a plain pattern
* `Row.parse`: what such a pattern does with a path that starts with its text
* `takesSome_append`: a parameter tries the shorter values first
* `Plain.compile_repeated`: a pattern that starts with too long a text is refused
-/
namespace Routing

open Regex

namespace Pattern

/-! ## Literal texts -/

namespace Token

/-- The token of a literal character. -/
def ofChar (c : Char) : Token :=
  if c = '/' then slash else if c = '.' then dot else char c

theorem literal?_ofChar (c : Char) : (ofChar c).literal? = some c := by
  unfold ofChar
  split
  · next here => rw [here]; rfl
  · split
    · next here => rw [here]; rfl
    · rfl

theorem text_ofChar (c : Char) : (ofChar c).text = [c] := by
  unfold ofChar
  split
  · next here => rw [here]; rfl
  · split
    · next here => rw [here]; rfl
    · rfl

theorem text_ofChars (cs : List Char) : (cs.map ofChar).flatMap text = cs := by
  induction cs with
  | nil => rfl
  | cons c cs ih => rw [List.map_cons, List.flatMap_cons, ih, text_ofChar]; rfl

/-- A literal character declares no slot. -/
theorem spec?_ofChar (c : Char) (unnamed : Nat) : (ofChar c).spec? unnamed = none := by
  unfold ofChar
  split
  · rfl
  · split <;> rfl

theorem weight_ofChar (c : Char) : (ofChar c).weight = 1 := by
  unfold ofChar
  split
  · rfl
  · split <;> rfl

theorem isPlain_ofChar {c : Char} (hc : isPlainChar c = true) : (ofChar c).isPlain = true := by
  unfold ofChar
  split
  · rfl
  · split
    · rfl
    · next slash dot => simpa [isPlainChar, isPlain, slash, dot] using hc

/-- Only a parameter minds what stands behind it. -/
theorem mayPrecede_ofChar (c : Char) {t : Token} (h : ∀ p, t = param p → p.slash = true) :
    mayPrecede (ofChar c) t = true := by
  cases t with
  | param p =>
    have slash := h p rfl
    unfold ofChar
    split
    · exact slash
    · split
      · simp [mayPrecede, slash]
      · rfl
  | _ =>
    unfold ofChar
    split
    · rfl
    · split <;> rfl

theorem ofChar_ne_param (c : Char) (p : ParamToken) : ofChar c ≠ param p := by
  unfold ofChar
  split
  · nofun
  · split <;> nofun

end Token

theorem cuts_front (o : MatchOptions) (front : List Char) (ts : List Token) (cs : List Char) :
    cuts o (front.map Token.ofChar ++ ts) (front ++ cs) = cuts o ts cs := by
  induction front with
  | nil => rfl
  | cons c front ih =>
    simp only [List.map_cons, List.cons_append, cuts, Token.pieces_of_literal? (Token.literal?_ofChar c),
      Token.literalPieces, same_self, if_true, List.flatMap_singleton, ih, List.nil_append, List.map_id']

/-! ## Rows -/

/-- A literal text, and parameters behind it. A slash before the first of them is its own. -/
structure Row where
  front : List Char
  params : List ParamToken
  literal : front.all isPlainChar = true
  formed : (params.map Token.param).all Token.isPlain = true
  slashed : ∀ p ∈ params.head?, p.slash = true

namespace Row

/-- The pattern text. -/
def source (r : Row) : String :=
  String.ofList (r.front ++ r.params.flatMap Token.ParamToken.text)

/-- The plain pattern that a row is. -/
def plain (r : Row) : Plain where
  tokens := r.front.map Token.ofChar ++ r.params.map .param
  plain := by
    rw [List.all_append, r.formed, Bool.and_true, List.all_map]
    exact List.all_eq_true.2 fun c hc => Token.isPlain_ofChar (List.all_eq_true.1 r.literal c hc)
  apart := by
    have params : (r.params.map Token.param).IsChain (Token.mayPrecede · ·) := by
      induction r.params with
      | nil => exact .nil
      | cons p ps ih =>
        cases ps with
        | nil => exact .singleton _
        | cons q qs => exact List.isChain_cons_cons.2 ⟨rfl, ih⟩
    have first : ∀ t ∈ (r.params.map Token.param).head?, ∀ p, t = .param p → p.slash = true := by
      rintro t ht p rfl
      rw [List.head?_map] at ht
      obtain ⟨q, hq, same⟩ := Option.map_eq_some_iff.1 ht
      exact Token.param.inj same ▸ r.slashed q hq
    induction r.front with
    | nil => exact params
    | cons c front ih =>
      refine List.isChain_cons.2 ⟨fun t ht => Token.mayPrecede_ofChar c ?_, ih⟩
      cases front with
      | nil => exact first t ht
      | cons d front =>
        obtain rfl := Option.some.inj ht
        exact fun p same => absurd same (Token.ofChar_ne_param d p)

theorem source_plain (r : Row) : r.plain.source = r.source := by
  rw [Plain.source, Plain.text, plain, source, List.flatMap_append, Token.text_ofChars, List.flatMap_map]
  rfl

theorem weight_plain (r : Row) : r.plain.weight = r.front.length + 10 * r.params.length := by
  have literal (front : List Char) (ts : List Token) :
      weightOf (front.map Token.ofChar ++ ts) = front.length + weightOf ts := by
    induction front with
    | nil => simp
    | cons c front ih =>
      rw [List.map_cons, List.cons_append, weightOf, ih, Token.weight_ofChar, List.length_cons]
      omega
  have params (ps : List ParamToken) : weightOf (ps.map Token.param) = 10 * ps.length := by
    induction ps with
    | nil => rfl
    | cons p ps ih =>
      rw [List.map_cons, weightOf, ih, List.length_cons, Token.weight]
      omega
  rw [Plain.weight, plain, literal, params]

/-- A row is accepted exactly if its program keeps to the limit, which that of a moderate one does. If it is, it
matches a path that starts with its text if the parameters take the rest, and its captures are the values of the
preferred way to do so. -/
theorem parse (r : Row) (o : MatchOptions) :
    IsDecidedBySize o (.path r.source) ∧
    (∀ e, compile o (.path r.source) = .error e → 400 < r.front.length + 10 * r.params.length ∧
      e = .invalidPattern r.source (RegexError.sizeLimitExceeded sizeLimit).message) ∧
    ∀ c, compile o (.path r.source) = .ok c → ∀ rest : List Char,
      ((c.parse (String.ofList (r.front ++ rest))).matched = true ↔
        (cuts o (r.params.map .param) rest).head?.isSome = true) ∧
      ∀ vs ∈ (cuts o (r.params.map .param) rest).head?,
        (c.parse (String.ofList (r.front ++ rest))).captures = vs.map (·.map String.ofList) := by
  rw [← source_plain, ← weight_plain]
  refine ⟨r.plain.isDecidedBySize o, fun e => Plain.error_of_compile, fun c compiled rest => ?_⟩
  obtain ⟨-, parsed⟩ := Plain.parse_of_compile compiled (String.ofList (r.front ++ rest))
  rwa [String.toList_ofList, plain, cuts_front] at parsed

end Row

/-! ## Shorter values first -/

section

variable {allowed : Char → Bool}

/-- What may be taken from the front of a text and more behind it: less than all of the front, or all of it and
what may be taken then. -/
theorem takes_append {front : List Char} (all : ∀ c ∈ front, allowed c = true) (rest : List Char) :
    ∃ shorter, takes allowed (front ++ rest) =
        shorter ++ (takes allowed rest).map (fun x => (front ++ x.1, x.2)) ∧
      ∀ x ∈ shorter, ∃ more, more ≠ [] ∧ front = x.1 ++ more ∧ x.2 = more ++ rest := by
  induction front with
  | nil => exact ⟨[], by simp, by simp⟩
  | cons c front ih =>
    obtain ⟨here, later⟩ := List.forall_mem_cons.1 all
    obtain ⟨shorter, same, each⟩ := ih later
    refine ⟨([], c :: (front ++ rest)) :: shorter.map fun x => (c :: x.1, x.2), ?_, ?_⟩
    · rw [List.cons_append, takes, if_pos here, same, List.map_append, List.map_map]
      rfl
    · intro x hx
      obtain rfl | hx := List.mem_cons.1 hx
      · exact ⟨c :: front, List.cons_ne_nil _ _, rfl, rfl⟩
      · obtain ⟨y, hy, rfl⟩ := List.mem_map.1 hx
        obtain ⟨more, some_, front, rest⟩ := each y hy
        exact ⟨more, some_, by rw [front, List.cons_append], rest⟩

theorem takesSome_append {front : List Char} (all : ∀ c ∈ front, allowed c = true) (some_ : front ≠ [])
    (rest : List Char) :
    ∃ shorter, takesSome allowed (front ++ rest) =
        shorter ++ (takes allowed rest).map (fun x => (front ++ x.1, x.2)) ∧
      ∀ x ∈ shorter, ∃ more, more ≠ [] ∧ front = x.1 ++ more ∧ x.2 = more ++ rest := by
  obtain ⟨shorter, same, each⟩ := takes_append all rest
  obtain ⟨c, front, rfl⟩ := List.exists_cons_of_ne_nil some_
  cases shorter with
  | nil =>
    -- to take nothing is the first way, and it is shorter
    have head := congrArg List.head? same
    simp only [takes, List.cons_append, List.head?_cons, List.nil_append, List.head?_map] at head
    obtain ⟨_, -, none⟩ := Option.map_eq_some_iff.1 head.symm
    cases (Prod.mk.inj none).1
  | cons x shorter =>
    exact ⟨shorter, by rw [takesSome, same]; rfl, fun y hy => each y (List.mem_cons_of_mem x hy)⟩

theorem takes_of_head {rest : List Char} (stop : ∀ c ∈ rest.head?, allowed c = false) :
    takes allowed rest = [([], rest)] := by
  cases rest with
  | nil => rfl
  | cons c rest => rw [takes, stop c rfl]; rfl

end

/-! ## Texts that are too long -/

theorem all_isPlainChar_replicate (n : Nat) : (List.replicate n 'a').all isPlainChar = true := by
  simp [isPlainChar, isWordChar, isNameChar]

/-- A pattern is refused if one letter that is repeated at its front takes more than the room that there is. -/
theorem Plain.compile_repeated {p : Plain} {n : Nat} {ts : List Token}
    (tokens : p.tokens = (List.replicate n 'a').map Token.ofChar ++ ts) (long : sizeLimit < 32 * n) :
    compile ⟨true, true⟩ (.path p.source) =
      .error (.invalidPattern p.source (RegexError.sizeLimitExceeded sizeLimit).message) := by
  have literal : ((List.replicate n 'a').map Token.ofChar).map Token.literal? =
      (List.replicate n 'a').map some := by
    rw [List.map_map]
    exact List.map_congr_left fun c _ => Token.literal?_ofChar c
  have size : (List.replicate n 'a').length = n := List.length_replicate
  exact Plain.compile_front tokens literal (Plain.areSingle_replicate n) (size.symm ▸ long)

/-- A row is refused if its literal text alone does so. -/
theorem Row.compile_letters {r : Row} {n : Nat} (front : r.front = List.replicate n 'a')
    (long : sizeLimit < 32 * n) :
    compile ⟨true, true⟩ (.path r.source) =
      .error (.invalidPattern r.source (RegexError.sizeLimitExceeded sizeLimit).message) := by
  have tokens : r.plain.tokens = (List.replicate n 'a').map Token.ofChar ++ r.params.map .param := by
    rw [← front]
    rfl
  rw [← source_plain]
  exact Plain.compile_repeated tokens long

end Pattern

end Routing
