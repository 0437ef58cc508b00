import Routing.Proofs.Pattern.Appending
import Routing.Proofs.Pattern.Expression

/-!
# Reading alternatives

Alternatives are joined to one text, with bars between them, in a group that captures what is matched. The text
is cut into the tokens of the members with the bars between them, and read as an alternation of the members.

* `Branches.text`, `Branches.lex_text`: the joined text, and the tokens in it
* `Branches.read_anchored`: the expression that the joined text is read as
-/
namespace Routing

open Regex Regex.Reader

namespace Pattern

namespace Token

theorem lexFrom_eq_lex {fuel : Nat} {cs : List Char} (enough : cs.length ≤ fuel) :
    lexFrom fuel cs = lex cs := by
  have same {n m : Nat} {cs : List Char} (hn : cs.length ≤ n) (hm : cs.length ≤ m) :
      lexFrom n cs = lexFrom m cs := by
    induction n generalizing m cs with
    | zero =>
      obtain rfl := List.length_eq_zero_iff.1 (Nat.le_zero.1 hn)
      rw [lexFrom_nil, lexFrom_nil]
    | succ n ih =>
      by_cases empty : cs = []
      · rw [empty, lexFrom_nil, lexFrom_nil]
      · obtain ⟨t, rest, first⟩ := exists_next? empty
        have shorter := length_of_next? first
        obtain ⟨m, rfl⟩ : ∃ k, m = k + 1 := ⟨m - 1, by omega⟩
        rw [lexFrom_succ first, lexFrom_succ first, @ih m rest (by omega) (by omega)]
  exact same enough (Nat.le_refl _)

theorem lex_of_next? {cs rest : List Char} {t : Token} (h : next? cs = some (t, rest)) :
    lex cs = t :: lex rest := by
  have shorter := length_of_next? h
  obtain ⟨n, size⟩ : ∃ n, cs.length = n + 1 := ⟨cs.length - 1, by omega⟩
  rw [lex, size, lexFrom_succ h, lexFrom_eq_lex (by omega)]

end Token

namespace Plain

/-- A plain text is cut into its tokens, whatever follows that none of them runs into. -/
theorem lex_append (p : Plain) {rest : List Char} (bound : ∀ t : Token, t.Ends rest) :
    Token.lex (p.text ++ rest) = p.tokens ++ Token.lex rest := by
  obtain ⟨ts, plain, apart⟩ := p
  change Token.lex (ts.flatMap Token.text ++ rest) = ts ++ Token.lex rest
  induction ts with
  | nil => rfl
  | cons t ts ih =>
    have ends := Token.ends_text plain apart bound
    rw [List.all_cons, Bool.and_eq_true] at plain
    rw [List.flatMap_cons, List.append_assoc, Token.lex_of_next? (Token.next?_text_append plain.1 ends),
      ih plain.2 apart.tail, List.cons_append]

theorem head?_text_ne (p : Plain) {rest : List Char} (h : rest.head? ≠ some '?') :
    (p.text ++ rest).head? ≠ some '?' := by
  obtain ⟨ts, plain, apart⟩ := p
  cases ts with
  | nil => exact h
  | cons t ts =>
    rw [List.all_cons, Bool.and_eq_true] at plain
    have here := plain.1
    cases t with
    | param q =>
      obtain ⟨slash, dot, name, capture, optional⟩ := q
      cases slash <;> cases dot <;> simp [text, Token.text, Token.ParamToken.text]
    | char c => simpa [text, Token.text] using Token.ne_of_isWordChar here (by decide)
    | slash | dot | plus | star => simp [text, Token.text]
    | slashGroup | escape | special | group | charClass => cases here

end Plain

/-! ## The joined text -/

/-- Plain patterns to choose from, in the order in which they are preferred. -/
structure Branches where
  first : Plain
  others : List Plain

/-- How many slots members have, all of them together. -/
def slotsOfAll : List Plain → Nat
  | [] => 0
  | p :: ps => Token.slotsOf p.tokens + slotsOfAll ps

namespace Branches

def all (b : Branches) : List Plain :=
  b.first :: b.others

/-- The members with bars between them, in a group. -/
def text (b : Branches) : List Char :=
  '(' :: (b.first.text ++ (b.others.flatMap (fun p => '|' :: p.text) ++ [')']))

def barTokens (p : Plain) : List Token :=
  .char '|' :: p.tokens

def tokens (b : Branches) : List Token :=
  .group :: (b.first.tokens ++ (b.others.flatMap barTokens ++ [.char ')']))

theorem ends_others (others : List Plain) (t : Token) :
    t.Ends (others.flatMap (fun p => '|' :: p.text) ++ [')']) := by
  refine Token.ends_of_head (fun c front => ?_) t
  cases others <;> obtain rfl := Option.some.inj front <;> decide

theorem lex_others (others : List Plain) :
    Token.lex (others.flatMap (fun p => '|' :: p.text) ++ [')']) =
      others.flatMap barTokens ++ [.char ')'] := by
  induction others with
  | nil => rfl
  | cons p others ih =>
    have bar : Token.next? ('|' :: (p.text ++ (others.flatMap (fun p => '|' :: p.text) ++ [')']))) =
        some (.char '|', p.text ++ (others.flatMap (fun p => '|' :: p.text) ++ [')'])) := rfl
    rw [List.flatMap_cons, List.append_assoc, List.cons_append, Token.lex_of_next? bar,
      p.lex_append (ends_others others), ih, List.flatMap_cons, List.append_assoc]
    rfl

/-- The joined text is cut into the tokens of the members. -/
theorem lex_text (b : Branches) : Token.lex b.text = b.tokens := by
  have group (rest : List Char) (h : rest.head? ≠ some '?') :
      Token.next? ('(' :: rest) = some (.group, rest) := by
    cases rest with
    | nil => rfl
    | cons c rest =>
      have other : c ≠ '?' := by simpa using h
      have noParam : param? ('(' :: c :: rest) = none := rfl
      rw [Token.next?, noParam]
      change Token.nextPlain? ('(' :: c :: rest) = _
      unfold Token.nextPlain?
      split <;> grind
  have behind : (b.others.flatMap (fun p => '|' :: p.text) ++ [')']).head? ≠ some '?' := by
    cases b.others <;> simp
  rw [text, Token.lex_of_next? (group _ (b.first.head?_text_ne behind)),
    b.first.lex_append (ends_others b.others), lex_others, tokens]

def slots (b : Branches) : Nat :=
  1 + slotsOfAll b.all

theorem slotsOf_tokens (b : Branches) : Token.slotsOf b.tokens = b.slots := by
  have others (ps : List Plain) : Token.slotsOf (ps.flatMap barTokens) = slotsOfAll ps := by
    induction ps with
    | nil => rfl
    | cons p ps ih =>
      rw [List.flatMap_cons, Token.slotsOf_append, ih, slotsOfAll, barTokens, Token.slotsOf]
      exact congrArg (· + _) (Nat.zero_add _)
  rw [tokens, Token.slotsOf, Token.slotsOf_append, Token.slotsOf_append, others, slots, all, slotsOfAll]
  rfl

/-! ## Reading the members -/

/-- The expressions of members, the first of which has its slots from `slot` on. -/
def exprs (slot : Nat) : List Plain → List Expr
  | [] => []
  | p :: ps =>
    sequenceOfItems (Token.exprsOf slot p.tokens) :: exprs (slot + Token.slotsOf p.tokens) ps

/-- The group of alternatives. -/
def expr (b : Branches) : Expr :=
  Token.captureExpr 0 (alternationOfBranches (exprs 1 b.all).reverse)

theorem head?_others_ne (others : List Plain) (slot : Nat) (rest : List Char) :
    (Token.expansions slot (others.flatMap barTokens) ++ ')' :: rest).head? ≠ some '?' := by
  cases others <;> simp [Token.expansions, barTokens, Token.expansion, Token.text]

/-- Each bar ends a branch and starts the next. -/
theorem reads_others (others : List Plain) (groups : List OpenGroup) (branches items : List Expr)
    (slot : Nat) (rest : List Char) :
    ∃ branches' items', sequenceOfItems items' :: branches' =
        (exprs slot others).reverse ++ sequenceOfItems items :: branches ∧
      Reads (Token.stateAt groups branches items slot)
        (Token.expansions slot (others.flatMap barTokens) ++ ')' :: rest)
        (Token.stateAt groups branches' items' (slot + Token.slotsOf (others.flatMap barTokens)))
        (')' :: rest) := by
  induction others generalizing branches items slot with
  | nil => exact ⟨branches, items, rfl, .here _ _⟩
  | cons p others ih =>
    obtain ⟨branches', items', whole, later⟩ :=
      ih (sequenceOfItems items :: branches) (Token.exprsOf slot p.tokens) (slot + Token.slotsOf p.tokens)
    refine ⟨branches', items', ?_, ?_⟩
    · rw [whole, exprs, List.reverse_cons, List.append_assoc]
      rfl
    · have bar (cs : List Char) : Reads (Token.stateAt groups branches items slot) ('|' :: cs)
          (Token.stateAt groups (sequenceOfItems items :: branches) [] slot) cs := .one rfl rfl
      have member := Token.reads_expansions p.plain groups (sequenceOfItems items :: branches) [] slot
        (head?_others_ne others (slot + Token.slotsOf p.tokens) rest)
      rw [List.append_nil] at member
      have run := (bar _).trans (member.trans later)
      have count : Token.slotsOf (barTokens p) = Token.slotsOf p.tokens := Nat.zero_add _
      rw [List.flatMap_cons, Token.expansions_append, Token.slotsOf_append, count, ← Nat.add_assoc,
        List.append_assoc]
      exact run

/-- The joined text goes into one group. -/
theorem body_ofText (b : Branches) :
    (Expansion.ofText b.text).body =
      Token.slotGroup 0 (Token.expansions 1 b.first.tokens ++
        Token.expansions (1 + Token.slotsOf b.first.tokens) (b.others.flatMap barTokens)) := by
  rw [Expansion.ofText, lex_text, Token.body_ofTokens, tokens, Token.expansions, Token.expansions_append,
    Token.expansions_append]
  simp only [Token.slotGroup, Token.expansion, Token.slotCount, Nat.zero_add, List.append_assoc]
  rfl

theorem ofText_closing (b : Branches) {closing : List Char} (hc : Token.IsClosing closing) :
    Expansion.ofText (b.text ++ closing) =
      { body := (Expansion.ofText b.text).body ++ closing, keys := (Expansion.ofText b.text).keys } := by
  rcases hc with rfl | rfl
  · simp
  · exact Expansion.ofText_append b.text

theorem length_keys_ofText (b : Branches) : (Expansion.ofText b.text).keys.length = b.slots := by
  rw [Expansion.ofText, lex_text, Token.length_keys_ofTokens, slotsOf_tokens]

theorem nesting_exprs (slot : Nat) (ps : List Plain) : ∀ e ∈ exprs slot ps, e.nesting .none ≤ 11 := by
  induction ps generalizing slot with
  | nil => simp [exprs]
  | cons p ps ih =>
    intro e he
    obtain rfl | he := List.mem_cons.1 he
    · have items := Token.nesting_exprsOf slot p.tokens
      exact (Token.nesting_sequenceOfItems (fun e he => (items e he).1) fun e he => (items e he).2).2
    · exact ih _ e he

theorem nesting_alternation_le (e : Expr) : e.nesting .alternation ≤ e.nesting .none := by
  cases e <;> simp [Expr.nesting]

theorem nesting_alternationOfBranches {k : Nat} {branches : List Expr}
    (h : ∀ e ∈ branches, e.nesting .none ≤ k) :
    (alternationOfBranches branches).nesting .alternation ≤ k ∧
      (alternationOfBranches branches).nesting .none ≤ k + 1 := by
  induction branches with
  | nil => simp [alternationOfBranches, Expr.nesting]
  | cons e before ih =>
    have here := h e List.mem_cons_self
    have earlier := ih fun d hd => h d (List.mem_cons_of_mem e hd)
    cases before with
    | nil => exact ⟨Nat.le_trans (nesting_alternation_le e) here, Nat.le_succ_of_le here⟩
    | cons d before =>
      simp only [alternationOfBranches, Expr.nesting] at earlier ⊢
      simp
      omega

theorem nesting_expr (b : Branches) (closing : List Char) :
    (anchoredExpr (sequenceOfItems (Token.closingExprs closing ++ [b.expr]))).nesting .none ≤ nestLimit := by
  have branches : (alternationOfBranches (exprs 1 b.all).reverse).nesting .none ≤ 12 :=
    (nesting_alternationOfBranches fun e he => nesting_exprs 1 b.all e (List.mem_reverse.1 he)).2
  have items : ∀ e ∈ Token.closingExprs closing ++ [b.expr],
      e.nesting .none ≤ 13 ∧ e.nesting .sequence ≤ 13 := by
    intro e he
    obtain he | he := List.mem_append.1 he
    · have small := Token.nesting_closingExprs closing e he
      omega
    · obtain rfl := List.mem_singleton.1 he
      simp only [expr, Token.captureExpr, Expr.nesting]
      omega
  have inner := (Token.nesting_sequenceOfItems (fun e he => (items e he).1) fun e he => (items e he).2).2
  simp [anchoredExpr, Expr.nesting, nestLimit]
  omega

/-- The joined text is read as a group of alternatives. -/
theorem read_anchored (b : Branches) {closing : List Char} (hc : Token.IsClosing closing) :
    Expr.read (anchored (Expansion.ofText (b.text ++ closing))).toList =
      .ok (anchoredExpr (sequenceOfItems (Token.closingExprs closing ++ [b.expr]))) := by
  let groups := [Token.openedAt (.plain []) [] [.assertion .startLine]]
  let inner := Token.openedAt (.capture 1 (some (Token.slotName 0))) [] [] :: groups
  have first := Token.reads_expansions b.first.plain inner [] [] 1
    (head?_others_ne b.others (1 + Token.slotsOf b.first.tokens) (closing ++ [')', '$']))
  obtain ⟨branches, items, whole, others⟩ := reads_others b.others inner [] (Token.exprsOf 1 b.first.tokens)
    (1 + Token.slotsOf b.first.tokens) (closing ++ [')', '$'])
  rw [List.append_nil] at first
  have members := first.trans others
  rw [← List.append_assoc] at members
  have group := Token.reads_slotBranches members
  rw [whole, ← List.reverse_cons] at group
  have behind := Token.reads_closing hc groups [] [b.expr] (1 + Token.slotsOf b.first.tokens +
    Token.slotsOf (b.others.flatMap barTokens)) ['$']
  have run := group.trans behind
  rw [← List.append_assoc, ← body_ofText] at run
  rw [ofText_closing b hc]
  exact read_of_reads run (b.nesting_expr closing)

end Branches

end Pattern

end Routing
