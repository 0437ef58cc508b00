import Routing.Proofs.Pattern.Language

/-!
# Printings of plain tokens

Plain tokens may be written one after the other in any order. Where one runs into the next, the text is that of
another plain pattern: a separator belongs to the parameter behind it, and a word character to the name in front
of it.

* `Printing`: plain tokens in any order
* `Printing.exists_plain`: the plain pattern of the text
-/
namespace Routing.Pattern

/-- Plain tokens in any order. -/
structure Printing where
  tokens : List Token
  plain : tokens.all Token.isPlain = true

namespace Printing

def text (p : Printing) : String :=
  String.ofList (p.tokens.flatMap Token.text)

def weight (p : Printing) : Nat :=
  weightOf p.tokens

end Printing

namespace Token

/-- Tokens of a plain pattern with a text, and with no more weight than this. -/
structure IsForm (cs : List Char) (weight : Nat) (ts : List Token) : Prop where
  plain : ts.all isPlain = true
  apart : ts.IsChain (mayPrecede · ·)
  text : ts.flatMap text = cs
  weight : weightOf ts ≤ weight

section

variable {cs : List Char} {weight : Nat} {t u : Token} {ts : List Token}

theorem IsForm.cons (ht : t.isPlain = true) (h : IsForm cs weight ts)
    (next : ∀ u ∈ ts.head?, mayPrecede t u = true) : IsForm (t.text ++ cs) (t.weight + weight) (t :: ts) where
  plain := by rw [List.all_cons, ht, h.plain]; rfl
  apart := List.isChain_cons.2 ⟨next, h.apart⟩
  text := by rw [List.flatMap_cons, h.text]
  weight := Nat.add_le_add_left h.weight _

theorem IsForm.tail (h : IsForm cs weight (u :: ts)) :
    ∃ cs' weight', cs = u.text ++ cs' ∧ u.weight + weight' ≤ weight ∧ IsForm cs' weight' ts := by
  have plain := h.plain
  rw [List.all_cons, Bool.and_eq_true] at plain
  exact ⟨_, _, h.text.symm, h.weight, plain.2, h.apart.tail, rfl, Nat.le_refl _⟩

/-- Another token that no more runs into what follows than the first one does. -/
theorem IsForm.replace (h : IsForm cs weight (u :: ts)) (v : Token) (more : List Char) {heavier : Nat}
    (hv : v.isPlain = true) (same : ∀ w, mayPrecede u w = true → mayPrecede v w = true)
    (text : v.text = more ++ u.text) (light : v.weight ≤ heavier + u.weight) :
    IsForm (more ++ cs) (heavier + weight) (v :: ts) where
  plain := by
    have plain := h.plain
    rw [List.all_cons, Bool.and_eq_true] at plain
    rw [List.all_cons, hv, plain.2]
    rfl
  apart := by
    obtain ⟨next, later⟩ := List.isChain_cons.1 h.apart
    exact List.isChain_cons.2 ⟨fun w hw => same w (next w hw), later⟩
  text := by rw [← h.text, List.flatMap_cons, List.flatMap_cons, text, List.append_assoc]
  weight := by
    have whole := h.weight
    simp only [weightOf] at whole ⊢
    omega

end

/-- A parameter takes the name characters behind it along. -/
theorem exists_form_param {p : ParamToken} (hp : (param p).isPlain = true) {cs : List Char} {weight : Nat}
    {ts : List Token} (h : IsForm cs weight ts) :
    ∃ us, IsForm (ParamToken.text p ++ cs) (10 + weight) us := by
  induction ts generalizing p cs weight with
  | nil => exact ⟨_, h.cons hp nofun⟩
  | cons u ts ih =>
    cases next : mayPrecede (param p) u with
    | true =>
      refine ⟨_, h.cons hp fun v hv => ?_⟩
      obtain rfl := Option.some.inj hv
      exact next
    | false =>
      obtain ⟨c, rfl, required, named⟩ : ∃ c, u = char c ∧ p.optional = false ∧ isNameChar c = true := by
        cases u <;> simp_all [mayPrecede]
      obtain ⟨cs', weight', rfl, light, later⟩ := h.tail
      simp only [isPlain, Bool.and_eq_true, Option.isNone_iff_eq_none] at hp
      have longer : (param { p with name := p.name ++ [c] }).isPlain = true := by
        simp [isPlain, hp.1.1, hp.2, named]
      obtain ⟨us, form⟩ := ih longer later
      have text : ParamToken.text { p with name := p.name ++ [c] } ++ cs' =
          ParamToken.text p ++ ((char c).text ++ cs') := by
        simp [ParamToken.text, hp.1.1, required, Token.text]
      rw [text] at form
      exact ⟨us, { form with weight := Nat.le_trans form.weight (by omega) }⟩

/-- A slash belongs to a parameter behind it that has none. -/
theorem exists_form_slash {cs : List Char} {weight : Nat} {ts : List Token} (h : IsForm cs weight ts) :
    ∃ us, IsForm ('/' :: cs) (1 + weight) us := by
  by_cases next : ∀ u ∈ ts.head?, mayPrecede slash u = true
  · exact ⟨_, h.cons rfl next⟩
  · obtain ⟨q, ts, rfl, bare⟩ : ∃ q ts', ts = param q :: ts' ∧ q.slash = false := by
      cases ts with
      | nil => exact absurd nofun next
      | cons u ts => cases u <;> simp_all [mayPrecede]
    have plain := h.plain
    rw [List.all_cons, Bool.and_eq_true] at plain
    refine ⟨_, h.replace (param { q with slash := true }) ['/'] plain.1 (fun w => by cases w <;> exact id) ?_
      (Nat.le_add_left _ _)⟩
    simp [text, ParamToken.text, bare]

/-- A dot belongs to a parameter behind it that begins with its name. -/
theorem exists_form_dot {cs : List Char} {weight : Nat} {ts : List Token} (h : IsForm cs weight ts) :
    ∃ us, IsForm ('.' :: cs) (1 + weight) us := by
  by_cases next : ∀ u ∈ ts.head?, mayPrecede dot u = true
  · exact ⟨_, h.cons rfl next⟩
  · obtain ⟨q, ts, rfl, noSlash, noDot⟩ : ∃ q ts', ts = param q :: ts' ∧ q.slash = false ∧ q.dot = false := by
      cases ts with
      | nil => exact absurd nofun next
      | cons u ts => cases u <;> simp_all [mayPrecede]
    have plain := h.plain
    rw [List.all_cons, Bool.and_eq_true] at plain
    refine ⟨_, h.replace (param { q with dot := true }) ['.'] plain.1 (fun w => by cases w <;> exact id) ?_
      (Nat.le_add_left _ _)⟩
    simp [text, ParamToken.text, noSlash, noDot]

theorem exists_form {ts : List Token} (plain : ts.all isPlain = true) :
    ∃ us, IsForm (ts.flatMap text) (weightOf ts) us := by
  induction ts with
  | nil => exact ⟨[], rfl, .nil, rfl, Nat.le_refl 0⟩
  | cons t ts ih =>
    rw [List.all_cons, Bool.and_eq_true] at plain
    obtain ⟨us, form⟩ := ih plain.2
    cases t with
    | param p => exact exists_form_param plain.1 form
    | slash => exact exists_form_slash form
    | dot => exact exists_form_dot form
    | plus | star | char => exact ⟨_, form.cons plain.1 fun _ _ => rfl⟩
    | slashGroup | escape | special | group | charClass => cases plain.1

end Token

/-- The text of plain tokens is the text of a plain pattern. -/
theorem Printing.exists_plain (p : Printing) : ∃ q : Plain, q.source = p.text ∧ q.weight ≤ p.weight := by
  obtain ⟨us, form⟩ := Token.exists_form p.plain
  exact ⟨⟨us, form.plain, form.apart⟩, congrArg String.ofList form.text, form.weight⟩

/-- A slash and a name in pieces make one parameter. -/
example : (Printing.mk [.slash, .param ⟨false, false, ['i'], none, false⟩, .char 'd'] rfl).text = "/:id" := rfl

end Routing.Pattern
