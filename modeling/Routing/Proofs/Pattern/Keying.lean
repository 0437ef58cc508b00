import Routing.Proofs.Pattern.Leading
import Routing.Proofs.Unicode.Ascii

/-!
# Parts of plain patterns

What stands in a plain pattern outside of the groups of its slots are literal characters. Their sets are known by
the place of the first member.

* `letterSets`: the sets of ASCII characters
* `Expr.isKeyed`: nothing but literal characters stands outside of the groups
* `keyed_of_lower`: the parts of the node of such an expression
-/
namespace Routing

open Regex Regex.Reader Unicode

namespace Pattern

/-! ## Literal characters -/

/-- The sets that ASCII characters stand for. -/
def letterSets (o : MatchOptions) (s : CharSet) : Prop :=
  ∃ c : Char, c.toNat < 128 ∧ s = Literal.toSet (flagsOf o) c

theorem toNat_lt_of_isWordChar {c : Char} (hc : isWordChar c = true) : c.toNat < 128 := by
  rw [isWordChar, isNameChar] at hc
  delta Char.isAlphanum Char.isAlpha Char.isUpper Char.isLower Char.isDigit at hc
  simp only [Bool.or_eq_true, Bool.and_eq_true, decide_eq_true_eq, beq_iff_eq] at hc
  change ((((((65 ≤ c.toNat ∧ c.toNat ≤ 90) ∨ (97 ≤ c.toNat ∧ c.toNat ≤ 122)) ∨
    (48 ≤ c.toNat ∧ c.toNat ≤ 57)) ∨ c = '_') ∨ c = '~') ∨ c = '%') ∨ c = '-' at hc
  rcases hc with ((((((h | h) | h) | rfl) | rfl) | rfl) | rfl)
  all_goals first | omega | decide

/-- The sets of ASCII characters are not empty, and have the same members if they have the same edges. -/
theorem faithful_letterSets (o : MatchOptions) : Node.Faithful (letterSets o) where
  nonempty := by
    rintro s ⟨c, -, rfl⟩
    exact isEmpty_toSet o c
  same := by
    rintro s s' ⟨c, lowC, rfl⟩ ⟨d, lowD, rfl⟩ same
    have edges := congrArg List.head? (beq_iff_eq.1 same)
    obtain ⟨caseSensitive, strict⟩ := o
    cases caseSensitive with
    | true =>
      have headC := CharSet.head?_edges_single c.toNat lowC
      have headD := CharSet.head?_edges_single d.toNat lowD
      rw [Char.ofNat_toNat] at headC headD
      have point := Option.some.inj (headC.symm.trans (edges.trans headD))
      rw [Char.toNat_inj.1 point]
    | false =>
      have headC := CharSet.head?_edges_foldsAs lowC
      have headD := CharSet.head?_edges_foldsAs lowD
      have point := Option.some.inj (headC.symm.trans ((congrArg (Option.map lowerPoint) edges).trans headD))
      rw [← foldPoint_of_lt lowC, ← foldPoint_of_lt lowD] at point
      funext x
      exact congrArg (foldPoint x.toNat == ·) point

/-! ## Expressions -/

/-- Nothing but literal characters stands outside of the groups of an expression. -/
def isKeyed : Expr → Bool
  | .empty => true
  | .literal l => decide (l.char.toNat < 128)
  | .group (.capture ..) _ => true
  | .group (.plain items) a => items.isEmpty && isKeyed a
  | .repetition _ _ _ a => !a.captures.isEmpty && isKeyed a
  | .sequence a b => isKeyed a && isKeyed b
  | _ => false

theorem keyed_of_lower {o : MatchOptions} {e : Expr} {a : Node} {f : Flags}
    (h : e.lower (flagsOf o) = .ok (a, f)) (keyed : isKeyed e = true) :
    a.Keyed (letterSets o) ∧ f = flagsOf o := by
  induction e generalizing a f with
  | empty =>
    cases h
    exact ⟨nofun, rfl⟩
  | literal l =>
    obtain ⟨c, lowered, h⟩ := exists_of_bind h
    cases h
    have same : l.char = c := by
      unfold Literal.lower at lowered
      split at lowered
      · cases lowered
      · exact Except.ok.inj lowered
    refine ⟨fun b hb => ?_, rfl⟩
    rw [ofSet_of_not_isEmpty (isEmpty_toSet o c)] at hb
    obtain rfl := List.mem_singleton.1 hb
    exact ⟨rfl, fun _ => ⟨_, ⟨c, same ▸ of_decide_eq_true keyed, rfl⟩, rfl⟩⟩
  | group kind e ih =>
    cases kind with
    | capture index name =>
      obtain ⟨⟨b, after⟩, inner, h⟩ := exists_of_bind h
      cases h
      refine ⟨fun c hc => ?_, rfl⟩
      obtain rfl := List.mem_singleton.1 hc
      exact ⟨rfl, nofun⟩
    | plain items =>
      rw [isKeyed, Bool.and_eq_true, List.isEmpty_iff] at keyed
      obtain ⟨rfl, inside⟩ := keyed
      obtain ⟨⟨b, after⟩, inner, h⟩ := exists_of_bind h
      cases h
      obtain ⟨keyed, rfl⟩ := ih inner inside
      rw [Node.settled_of_not_alt keyed.noAlt]
      exact ⟨keyed, rfl⟩
  | repetition least most greedy e ih =>
    rw [isKeyed, Bool.and_eq_true, Bool.not_eq_true', List.isEmpty_eq_false_iff] at keyed
    obtain ⟨⟨b, after⟩, inner, h⟩ := exists_of_bind h
    cases h
    obtain ⟨inside, rfl⟩ := ih inner keyed.2
    obtain ⟨name, known⟩ := List.exists_mem_of_ne_nil _ keyed.1
    obtain ⟨i, group⟩ := (Expr.mem_captures_iff inner name).2 known
    refine ⟨?_, rfl⟩
    fun_cases Node.repeated b (greedy != (flagsOf o).swapGreed) least most with
    | case1 => exact nofun
    | case2 => exact inside
    | case3 =>
      intro c hc
      obtain rfl := List.mem_singleton.1 hc
      exact ⟨rfl, fun none => absurd (none ▸ group) List.not_mem_nil⟩
  | sequence a b ihA ihB =>
    rw [isKeyed, Bool.and_eq_true] at keyed
    obtain ⟨⟨a', between⟩, first, h⟩ := exists_of_bind h
    obtain ⟨⟨b', after⟩, second, h⟩ := exists_of_bind h
    cases h
    obtain ⟨keyedA, rfl⟩ := ihA first keyed.1
    obtain ⟨keyedB, rfl⟩ := ihB second keyed.2
    exact ⟨keyedA.append keyedB, rfl⟩
  | _ => cases keyed

/-! ## Tokens -/

theorem isKeyed_sequenceOfItems {items : List Expr} (each : ∀ e ∈ items, isKeyed e = true) :
    isKeyed (sequenceOfItems items) = true := by
  induction items with
  | nil => rfl
  | cons e before ih =>
    obtain ⟨here, earlier⟩ := List.forall_mem_cons.1 each
    cases before with
    | nil => exact here
    | cons d before =>
      simp only [sequenceOfItems, isKeyed, Bool.and_eq_true]
      exact ⟨ih earlier, here⟩

theorem isKeyed_exprs (slot : Nat) {t : Token} (ht : t.isPlain = true) :
    ∀ e ∈ t.exprs slot, isKeyed e = true := by
  cases t with
  | param p =>
    obtain ⟨slash, dot, name, capture, optional⟩ := p
    cases slash <;> cases dot <;> cases optional <;>
      simp [Token.exprs, Token.ParamToken.exprs, Token.ParamToken.valueExprs, Token.separatorExprs,
        Token.captureExpr, Token.literalExpr, Expr.captures, sequenceOfItems, isKeyed]
  | char c => simpa [Token.exprs, Token.literalExpr, isKeyed] using toNat_lt_of_isWordChar ht
  | slash | dot | plus | star => simp [Token.exprs, Token.captureExpr, Token.literalExpr, isKeyed]
  | slashGroup | escape | special | group | charClass => cases ht

theorem isKeyed_exprsOf (slot : Nat) {ts : List Token} (plain : ts.all Token.isPlain = true) :
    ∀ e ∈ Token.exprsOf slot ts, isKeyed e = true := by
  induction ts generalizing slot with
  | nil => nofun
  | cons t ts ih =>
    rw [List.all_cons, Bool.and_eq_true] at plain
    intro e he
    obtain he | he := List.mem_append.1 he
    · exact ih _ plain.2 e he
    · exact isKeyed_exprs slot plain.1 e he

/-- The node of plain tokens in a row is keyed by the sets of their characters. -/
theorem keyed_of_lower_exprsOf {o : MatchOptions} {slot : Nat} {ts : List Token}
    (plain : ts.all Token.isPlain = true) {a : Node} {f : Flags}
    (h : (sequenceOfItems (Token.exprsOf slot ts)).lower (flagsOf o) = .ok (a, f)) :
    a.Keyed (letterSets o) :=
  (keyed_of_lower h (isKeyed_sequenceOfItems (isKeyed_exprsOf slot plain))).1

end Pattern

end Routing
