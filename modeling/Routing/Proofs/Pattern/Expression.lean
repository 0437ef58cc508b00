import Routing.Pattern
import Routing.Proofs.Pattern.Plain
import Routing.Proofs.Regex.Reading

/-!
# The expression of a plain pattern

What the reader makes of the regular expression of a plain pattern: one group between the anchors, and
in it the expressions of the tokens in their order.

* `Token.exprs`: the expressions that a token comes to
* `Token.reads_expansion`: the expansion of a token is read as these
* `Plain.read_anchored`: the expression of a plain pattern
-/
namespace Routing

open Regex Regex.Reader Unicode

namespace Regex.Reader

/-! ## Parts -/

/-- Characters with a meaning of their own between the parts of an expression. -/
def isSyntax (c : Char) : Bool :=
  "()|[?*+\x7b\\.^$".toList.contains c

theorem readPart_literal {c : Char} (hc : isSyntax c = false) (s : State) (rest : List Char) :
    readPart s c rest = .ok (s.push (.literal ⟨c, false⟩), rest) := by
  have ne (d : Char) (hd : isSyntax d = true) : c ≠ d := by
    rintro rfl
    simp [hc] at hd
  have h1 := ne '(' (by decide)
  have h2 := ne ')' (by decide)
  have h3 := ne '|' (by decide)
  have h4 := ne '[' (by decide)
  have h5 := ne '?' (by decide)
  have h6 := ne '*' (by decide)
  have h7 := ne '+' (by decide)
  have h8 := ne '\x7b' (by decide)
  have h9 := ne '\\' (by decide)
  have h10 := ne '.' (by decide)
  have h11 := ne '^' (by decide)
  have h12 := ne '$' (by decide)
  unfold readPart
  split <;> first | contradiction | rfl

section

variable {s : State}

theorem reads_literal {c : Char} (hs : s.extended = false) (hc : isSyntax c = false)
    (rest : List Char) : Reads s (c :: rest) (s.push (.literal ⟨c, false⟩)) rest :=
  .one hs (readPart_literal hc s rest)

end

end Regex.Reader

namespace Pattern.Token

/-! ## Slots -/

theorem toList_slotName (slot : Nat) :
    (slotName slot).toList = '_' :: '_' :: 'w' :: 'p' :: Nat.toDigits 10 slot := by
  simp [slotName]

theorem slotName_inj {i j : Nat} (h : slotName i = slotName j) : i = j := by
  have digits : Nat.toDigits 10 i = Nat.toDigits 10 j := by
    simpa [toList_slotName] using congrArg String.toList h
  rw [← Nat.ofDigitChars_ten_toDigits (n := i), digits, Nat.ofDigitChars_ten_toDigits]

theorem isNameChar_digit {c : Char} (hc : c.isDigit = true) : Reader.isNameChar c = true := by
  have table : ∀ n < 10, Latest.alphanumeric.containsPoint (48 + n) = true := by decide +kernel
  have range : 48 ≤ c.toNat ∧ c.toNat ≤ 57 := by
    simp only [Char.isDigit, Bool.and_eq_true, decide_eq_true_eq] at hc
    exact hc
  have member : Latest.alphanumeric.contains c = true := by
    have := table (c.toNat - 48) (by omega)
    rwa [Nat.add_sub_cancel' range.1] at this
  simp [Reader.isNameChar, member]

theorem nameRest_append {name : List Char} (h : ∀ c ∈ name, Reader.isNameChar c = true ∧ c ≠ '>')
    (rest : List Char) : nameRest (name ++ '>' :: rest) = .ok (name, rest) := by
  induction name with
  | nil => rfl
  | cons c name ih =>
    obtain ⟨member, inside⟩ := h c List.mem_cons_self
    have later := ih fun d hd => h d (List.mem_cons_of_mem c hd)
    simp [nameRest, member, inside, later]

theorem groupName_slotName (slot : Nat) (rest : List Char) :
    groupName ((slotName slot).toList ++ '>' :: rest) = .ok (slotName slot, rest) := by
  have chars : ∀ c ∈ '_' :: 'w' :: 'p' :: Nat.toDigits 10 slot,
      Reader.isNameChar c = true ∧ c ≠ '>' := by
    intro c hc
    simp only [List.mem_cons] at hc
    rcases hc with rfl | rfl | rfl | hc
    · decide
    · decide +kernel
    · decide +kernel
    · have digit := Nat.isDigit_of_mem_toDigits (by omega) (by omega) hc
      refine ⟨isNameChar_digit digit, ?_⟩
      rintro rfl
      simp at digit
  have front : isNameStart '_' = true := by decide
  rw [toList_slotName, List.cons_append, groupName, if_neg (by decide), if_pos front,
    nameRest_append chars]
  simp only [← toList_slotName, String.ofList_toList]

theorem groupOpening_slotName (slot : Nat) (rest : List Char) :
    groupOpening ('?' :: 'P' :: '<' :: ((slotName slot).toList ++ '>' :: rest)) =
      .ok (.named (slotName slot), rest) := by
  simp only [groupOpening, groupName_slotName]

/-- The group that captures a slot. -/
def captureExpr (slot : Nat) (a : Expr) : Expr :=
  .group (.capture (slot + 1) (some (slotName slot))) a

/-! ## Reading tokens -/

/-- The reader on its way through a generated expression: in some groups, with the branches and the
expressions read at this level, the last one first, and with the slots that were opened. -/
def stateAt (groups : List OpenGroup) (branches items : List Expr) (slot : Nat) : State where
  level := { branches := branches, items := items }
  groups := groups
  count := slot
  names := (List.range slot).reverse.map slotName

/-- A group that was opened behind the given branches and expressions. -/
def openedAt (kind : GroupKind) (branches items : List Expr) : OpenGroup :=
  ⟨kind, { branches := branches, items := items }, false⟩

theorem not_contains_slotName (slot : Nat) :
    ((List.range slot).reverse.map slotName).contains (slotName slot) = false := by
  simp only [List.contains_eq_mem, decide_eq_false_iff_not, List.mem_map, List.mem_reverse,
    List.mem_range]
  rintro ⟨i, hi, same⟩
  have := slotName_inj same
  omega

section

variable {groups : List OpenGroup} {branches items inside : List Expr} {slot slot' : Nat}
  {body rest : List Char}

theorem reads_group
    (inner : Reads (stateAt (openedAt (.plain []) branches items :: groups) [] [] slot) (body ++ ')' :: rest)
      (stateAt (openedAt (.plain []) branches items :: groups) [] inside slot') (')' :: rest)) :
    Reads (stateAt groups branches items slot) ("(?:".toList ++ body ++ ')' :: rest)
      (stateAt groups branches (.group (.plain []) (sequenceOfItems inside) :: items) slot') rest := by
  have opening : Reads (stateAt groups branches items slot) ("(?:".toList ++ body ++ ')' :: rest)
      (stateAt (openedAt (.plain []) branches items :: groups) [] [] slot) (body ++ ')' :: rest) := .one rfl rfl
  exact opening.trans (inner.trans (.one rfl rfl))

/-- The group of a slot, which may hold alternatives. -/
theorem reads_slotBranches {within : List Expr}
    (inner : Reads (stateAt (openedAt (.capture (slot + 1) (some (slotName slot))) branches items :: groups)
        [] [] (slot + 1)) (body ++ ')' :: rest)
      (stateAt (openedAt (.capture (slot + 1) (some (slotName slot))) branches items :: groups) within inside
        slot') (')' :: rest)) :
    Reads (stateAt groups branches items slot) (slotGroup slot body ++ rest)
      (stateAt groups branches
        (captureExpr slot (alternationOfBranches (sequenceOfItems inside :: within)) :: items) slot') rest := by
  let behind := body ++ ')' :: rest
  have text : slotGroup slot body ++ rest =
      '(' :: '?' :: 'P' :: '<' :: ((slotName slot).toList ++ '>' :: behind) := by
    simp [slotGroup, slotOpening, behind]
  have opening : readPart (stateAt groups branches items slot) '('
      ('?' :: 'P' :: '<' :: ((slotName slot).toList ++ '>' :: behind)) =
      .ok (stateAt (openedAt (.capture (slot + 1) (some (slotName slot))) branches items :: groups) [] []
        (slot + 1), behind) := by
    change readOpening (stateAt groups branches items slot) _ = _
    have plain (cs : List Char) : skipBlanks (stateAt groups branches items slot).extended cs = cs := rfl
    have fresh : (stateAt groups branches items slot).names.contains (slotName slot) = false :=
      not_contains_slotName slot
    rw [readOpening, plain, groupOpening_slotName]
    simp only [fresh, Bool.false_eq_true, if_false]
    simp [State.openGroup, stateAt, openedAt, List.range_succ]
  rw [text]
  exact .part rfl opening (inner.trans (.one rfl rfl))

theorem reads_slotGroup {a : Expr}
    (inner : Reads (stateAt (openedAt (.capture (slot + 1) (some (slotName slot))) branches items :: groups)
        [] [] (slot + 1)) (body ++ ')' :: rest)
      (stateAt (openedAt (.capture (slot + 1) (some (slotName slot))) branches items :: groups) [] [a]
        (slot + 1)) (')' :: rest)) :
    Reads (stateAt groups branches items slot) (slotGroup slot body ++ rest)
      (stateAt groups branches (captureExpr slot a :: items) (slot + 1)) rest :=
  reads_slotBranches inner

end

def literalExpr (c : Char) : Expr :=
  .literal ⟨c, false⟩

/-- One character of a segment. -/
def segmentExpr (dot : Bool) : Expr :=
  .bracketed true
    (if dot then .union (.literal ⟨'/', false⟩) (.literal ⟨'.', false⟩) else .literal ⟨'/', false⟩)

def separatorExprs (present : Bool) (c : Char) : List Expr :=
  if present then [literalExpr c] else []

/-- The value of a parameter behind its dot, the last expression first. -/
def ParamToken.valueExprs (p : ParamToken) (slot : Nat) : List Expr :=
  captureExpr slot (.repetition 1 none false (segmentExpr p.dot)) :: separatorExprs p.dot '.'

/-- An optional parameter goes with its slash, a required one leaves it outside. -/
def ParamToken.exprs (p : ParamToken) (slot : Nat) : List Expr :=
  if p.optional then
    [.repetition 0 (some 1) true (.group (.plain [])
      (sequenceOfItems (ParamToken.valueExprs p slot ++ separatorExprs p.slash '/')))]
  else
    .group (.plain []) (sequenceOfItems (ParamToken.valueExprs p slot)) :: separatorExprs p.slash '/'

/-- The expressions that a plain token comes to, the last one first. -/
def exprs (slot : Nat) : Token → List Expr
  | param p => ParamToken.exprs p slot
  | plus => [captureExpr slot (.repetition 1 none true .dot)]
  | star => [captureExpr slot (.repetition 0 none true .dot)]
  | slash => [literalExpr '/']
  | dot => [literalExpr '.']
  | char c => [literalExpr c]
  | _ => []

theorem isSyntax_of_isWordChar {c : Char} (hc : isWordChar c = true) : isSyntax c = false := by
  rw [← Bool.not_eq_true]
  intro syntactic
  have syntaxChars : "()|[?*+\x7b\\.^$".toList.all (!isWordChar ·) = true := by decide
  simp only [isSyntax, List.contains_eq_mem, decide_eq_true_eq] at syntactic
  have other := List.all_eq_true.1 syntaxChars c syntactic
  rw [hc] at other
  cases other

section

variable (groups : List OpenGroup) (branches items : List Expr) (slot : Nat) (rest : List Char)

theorem reads_slash (present : Bool) :
    Reads (stateAt groups branches items slot) ((if present then ['/'] else []) ++ rest)
      (stateAt groups branches (separatorExprs present '/' ++ items) slot) rest := by
  cases present with
  | true => exact .one rfl rfl
  | false => exact .here _ _

theorem reads_dot (present : Bool) :
    Reads (stateAt groups branches items slot) ((if present then ['\\', '.'] else []) ++ rest)
      (stateAt groups branches (separatorExprs present '.' ++ items) slot) rest := by
  cases present with
  | true => exact .one rfl rfl
  | false => exact .here _ _

theorem reads_body {p : ParamToken} (hp : p.capture = none) :
    Reads (stateAt groups branches [] slot) (ParamToken.body p ++ ')' :: rest)
      (stateAt groups branches [.repetition 1 none false (segmentExpr p.dot)] slot) (')' :: rest) := by
  obtain ⟨slash, dot, name, capture, optional⟩ := p
  cases hp
  cases dot with
  | true => exact .part rfl rfl (.one rfl rfl)
  | false => exact .part rfl rfl (.one rfl rfl)

theorem reads_value {p : ParamToken} (hp : p.capture = none) :
    Reads (stateAt groups branches items slot)
      ((if p.dot then ['\\', '.'] else []) ++ slotGroup slot (ParamToken.body p) ++ rest)
      (stateAt groups branches (ParamToken.valueExprs p slot ++ items) (slot + 1)) rest := by
  rw [List.append_assoc]
  exact (reads_dot groups branches items slot _ p.dot).trans (reads_slotGroup (reads_body _ _ _ _ hp))

/-- A question mark behind a group, unless a second one makes the repetition lazy. -/
theorem reads_optional {kind : GroupKind} {a : Expr} (next : rest.head? ≠ some '?') :
    Reads (stateAt groups branches (.group kind a :: items) slot) ('?' :: rest)
      (stateAt groups branches (.repetition 0 (some 1) true (.group kind a) :: items) slot) rest := by
  refine .one rfl ?_
  change readRepetition (stateAt groups branches (.group kind a :: items) slot) 0 (some 1) rest = _
  cases rest with
  | nil => rfl
  | cons c rest =>
    have greedy : c ≠ '?' := by simpa using next
    unfold readRepetition
    simp only [Level.popOperand, stateAt]
    split
    · rename_i heq
      exact absurd (List.cons.inj heq).1 greedy
    · rfl

theorem reads_param {p : ParamToken} (hp : p.capture = none) (next : rest.head? ≠ some '?') :
    Reads (stateAt groups branches items slot) (ParamToken.expansion p slot ++ rest)
      (stateAt groups branches (ParamToken.exprs p slot ++ items) (slot + 1)) rest := by
  let value := (if p.dot then ['\\', '.'] else []) ++ slotGroup slot (ParamToken.body p)
  have reads (groups : List OpenGroup) (branches items : List Expr) (rest : List Char) :
      Reads (stateAt groups branches items slot) (value ++ rest)
        (stateAt groups branches (ParamToken.valueExprs p slot ++ items) (slot + 1)) rest :=
    reads_value groups branches items slot rest hp
  cases hopt : p.optional with
  | true =>
    -- the slash stands in the group
    let body := (if p.slash then ['/'] else []) ++ value
    have text : ParamToken.expansion p slot ++ rest = "(?:".toList ++ body ++ ')' :: '?' :: rest := by
      simp [ParamToken.expansion, hopt, body, value]
    have exprs : ParamToken.exprs p slot = [.repetition 0 (some 1) true (.group (.plain [])
        (sequenceOfItems (ParamToken.valueExprs p slot ++ separatorExprs p.slash '/')))] := by
      simp [ParamToken.exprs, hopt]
    have inner := (reads_slash (openedAt (.plain []) branches items :: groups) [] [] slot
      (value ++ ')' :: '?' :: rest) p.slash).trans (reads _ _ _ _)
    rw [List.append_nil, ← List.append_assoc] at inner
    rw [text, exprs]
    exact (reads_group inner).trans (reads_optional groups branches items (slot + 1) rest next)
  | false =>
    have text : ParamToken.expansion p slot ++ rest =
        (if p.slash then ['/'] else []) ++ ("(?:".toList ++ value ++ ')' :: rest) := by
      simp [ParamToken.expansion, hopt, value]
    have exprs : ParamToken.exprs p slot = .group (.plain [])
        (sequenceOfItems (ParamToken.valueExprs p slot)) :: separatorExprs p.slash '/' := by
      simp [ParamToken.exprs, hopt]
    have inner := reads (openedAt (.plain []) branches (separatorExprs p.slash '/' ++ items) :: groups) [] []
      (')' :: rest)
    rw [List.append_nil] at inner
    rw [text, exprs]
    exact (reads_slash groups branches items slot _ p.slash).trans (reads_group inner)

/-- The expansion of a plain token is read as the expressions that it comes to. -/
theorem reads_expansion {t : Token} (ht : t.isPlain = true) (next : rest.head? ≠ some '?') :
    Reads (stateAt groups branches items slot) (t.expansion slot ++ rest)
      (stateAt groups branches (t.exprs slot ++ items) (slot + t.slotCount)) rest := by
  cases t with
  | param p =>
    simp only [isPlain, Bool.and_eq_true, Option.isNone_iff_eq_none] at ht
    exact reads_param groups branches items slot rest ht.1.1 next
  | plus => exact reads_slotGroup (.part rfl rfl (.one rfl rfl))
  | star => exact reads_slotGroup (.part rfl rfl (.one rfl rfl))
  | slash => exact .one rfl rfl
  | dot => exact .one rfl rfl
  | char c => exact reads_literal rfl (isSyntax_of_isWordChar ht) rest
  | slashGroup | escape | special | group | charClass => cases ht

end

/-! ## Reading patterns -/

/-- The expressions of tokens in a row, the last one first. -/
def exprsOf (slot : Nat) : List Token → List Expr
  | [] => []
  | t :: ts => exprsOf (slot + t.slotCount) ts ++ t.exprs slot

def closingExprs : List Char → List Expr
  | [] => []
  | _ => [.repetition 0 (some 1) true (literalExpr '/')]

theorem head_expansion {t : Token} (ht : t.isPlain = true) (slot : Nat) (rest : List Char) :
    (t.expansion slot ++ rest).head? ≠ some '?' := by
  cases t with
  | param p =>
    obtain ⟨slash, dot, name, capture, optional⟩ := p
    cases slash <;> cases optional <;> simp [expansion, ParamToken.expansion]
  | char c => simpa [expansion, text] using ne_of_isWordChar ht (by decide)
  | plus | star => simp [expansion, slotGroup, slotOpening]
  | slash | dot => simp [expansion, text]
  | slashGroup | escape | special | group | charClass => cases ht

theorem reads_expansions {ts : List Token} (plain : ts.all isPlain = true)
    (groups : List OpenGroup) (branches items : List Expr) (slot : Nat) {rest : List Char}
    (next : rest.head? ≠ some '?') :
    Reads (stateAt groups branches items slot) (expansions slot ts ++ rest)
      (stateAt groups branches (exprsOf slot ts ++ items) (slot + slotsOf ts)) rest := by
  induction ts generalizing items slot with
  | nil => exact .here _ _
  | cons t ts ih =>
    simp only [List.all_cons, Bool.and_eq_true] at plain
    have behind : (expansions (slot + t.slotCount) ts ++ rest).head? ≠ some '?' := by
      cases ts with
      | nil => exact next
      | cons u us =>
        simp only [List.all_cons, Bool.and_eq_true] at plain
        rw [expansions, List.append_assoc]
        exact head_expansion plain.2.1 _ _
    have first := reads_expansion groups branches items slot (expansions (slot + t.slotCount) ts ++ rest)
      plain.1 behind
    have later := ih plain.2 (t.exprs slot ++ items) (slot + t.slotCount)
    simpa [expansions, exprsOf, slotsOf, Nat.add_assoc] using first.trans later

theorem reads_closing {closing : List Char} (hc : IsClosing closing) (groups : List OpenGroup)
    (branches items : List Expr) (slot : Nat) (rest : List Char) :
    Reads (stateAt groups branches items slot) (closing ++ ')' :: rest)
      (stateAt groups branches (closingExprs closing ++ items) slot) (')' :: rest) := by
  rcases hc with rfl | rfl
  · exact .here _ _
  · exact .part rfl rfl (.one rfl rfl)

/-! ### Nesting -/

theorem nesting_sequenceOfItems {k : Nat} {items : List Expr}
    (h : ∀ e ∈ items, e.nesting .none ≤ k) (hk : ∀ e ∈ items, e.nesting .sequence ≤ k) :
    (sequenceOfItems items).nesting .sequence ≤ k ∧ (sequenceOfItems items).nesting .none ≤ k + 1 := by
  induction items with
  | nil => simp [sequenceOfItems, Expr.nesting]
  | cons e before ih =>
    have here := h e List.mem_cons_self
    have there := hk e List.mem_cons_self
    have earlier := ih (fun d hd => h d (List.mem_cons_of_mem e hd))
      (fun d hd => hk d (List.mem_cons_of_mem e hd))
    cases before with
    | nil => exact ⟨there, Nat.le_succ_of_le here⟩
    | cons d before =>
      simp only [sequenceOfItems, Expr.nesting] at earlier ⊢
      simp
      omega

theorem nesting_exprs (slot : Nat) (t : Token) :
    ∀ e ∈ t.exprs slot, e.nesting .none ≤ 10 ∧ e.nesting .sequence ≤ 10 := by
  cases t with
  | param p =>
    obtain ⟨slash, dot, name, capture, optional⟩ := p
    cases slash <;> cases dot <;> cases optional <;>
      simp +decide [exprs, ParamToken.exprs, ParamToken.valueExprs, captureExpr, separatorExprs,
        sequenceOfItems, Expr.nesting, literalExpr, segmentExpr, ClassExpr.nesting]
  | _ => simp [exprs, captureExpr, literalExpr, Expr.nesting]

theorem nesting_exprsOf (slot : Nat) (ts : List Token) :
    ∀ e ∈ exprsOf slot ts, e.nesting .none ≤ 10 ∧ e.nesting .sequence ≤ 10 := by
  induction ts generalizing slot with
  | nil => simp [exprsOf]
  | cons t ts ih =>
    intro e he
    rcases List.mem_append.1 he with he | he
    · exact ih _ e he
    · exact nesting_exprs slot t e he

theorem nesting_closingExprs (closing : List Char) :
    ∀ e ∈ closingExprs closing, e.nesting .none ≤ 10 ∧ e.nesting .sequence ≤ 10 := by
  cases closing <;> simp [closingExprs, Expr.nesting, literalExpr]

end Pattern.Token

namespace Pattern

open Token

/-- An expression in its group between the anchors. -/
def anchoredExpr (a : Expr) : Expr :=
  .sequence (.sequence (.assertion .startLine) (.group (.plain []) a)) (.assertion .endLine)

/-- The expression of a plain pattern between the anchors. -/
def Plain.expr (p : Plain) (closing : List Char) : Expr :=
  sequenceOfItems (closingExprs closing ++ exprsOf 0 p.tokens)

theorem Plain.nesting_expr (p : Plain) (closing : List Char) :
    (anchoredExpr (p.expr closing)).nesting .none ≤ nestLimit := by
  have items : ∀ e ∈ closingExprs closing ++ exprsOf 0 p.tokens,
      e.nesting .none ≤ 10 ∧ e.nesting .sequence ≤ 10 := by
    intro e he
    exact (List.mem_append.1 he).elim (nesting_closingExprs closing e) (nesting_exprsOf 0 _ e)
  have inner := (nesting_sequenceOfItems (fun e he => (items e he).1) fun e he => (items e he).2).2
  simp [anchoredExpr, Plain.expr, Expr.nesting, nestLimit]
  omega

theorem toList_anchored (e : Expansion) :
    (anchored e).toList = "^(?:".toList ++ e.body ++ [')', '$'] :=
  String.toList_ofList

/-- What is read in the group between the anchors makes the expression, unless it is nested too deep. -/
theorem read_of_reads {e : Expansion} {inside : List Expr} {slots : Nat}
    (inner : Reads (stateAt [openedAt (.plain []) [] [.assertion .startLine]] [] [] 0) (e.body ++ [')', '$'])
      (stateAt [openedAt (.plain []) [] [.assertion .startLine]] [] inside slots) [')', '$'])
    (nesting : (anchoredExpr (sequenceOfItems inside)).nesting .none ≤ nestLimit) :
    Expr.read (anchored e).toList = .ok (anchoredExpr (sequenceOfItems inside)) := by
  have group := reads_group inner
  have run : Reads {} (anchored e).toList
      (stateAt [] [] [.assertion .endLine, .group (.plain []) (sequenceOfItems inside), .assertion .startLine]
        slots) [] := by
    rw [toList_anchored]
    have opening (rest : List Char) :
        Reads {} ('^' :: rest) (stateAt [] [] [.assertion .startLine] 0) rest := .one rfl rfl
    have close (items : List Expr) : Reads (stateAt [] [] items slots) ['$']
        (stateAt [] [] (.assertion .endLine :: items) slots) [] := .one rfl rfl
    simpa using (opening _).trans (group.trans (close _))
  rw [Expr.read_eq_ok_iff]
  refine ⟨_, _, run, rfl, ?_⟩
  exact if_pos nesting

/-- The regular expression of a plain pattern is read as the expressions of its tokens in their order. -/
theorem Plain.read_anchored (p : Plain) {closing : List Char} (hc : IsClosing closing) :
    Expr.read (anchored (Expansion.ofText (p.text ++ closing))).toList =
      .ok (anchoredExpr (p.expr closing)) := by
  have next : (closing ++ [')', '$']).head? ≠ some '?' := by rcases hc with rfl | rfl <;> simp
  have tokens := reads_expansions p.plain [openedAt (.plain []) [] [.assertion .startLine]] [] [] 0 next
  rw [Nat.zero_add, List.append_nil] at tokens
  have behind := reads_closing hc [openedAt (.plain []) [] [.assertion .startLine]] [] (exprsOf 0 p.tokens)
    (slotsOf p.tokens) ['$']
  have inner := tokens.trans behind
  rw [← List.append_assoc, ← p.body_ofText hc] at inner
  exact read_of_reads inner (p.nesting_expr closing)

end Pattern

end Routing
