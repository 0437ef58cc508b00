import Routing.Proofs.Pattern.Leading

/-!
# The language of a plain pattern

A plain pattern matches exactly the paths that can be cut into pieces for its tokens, and its slots
are given the values of the preferred cut.

* `compile_of_program?`: a valid pattern is refused for nothing but the size of its program
* `Plain.compile_eq`: what compiling a plain pattern comes to
* `parse_eq`: a plain pattern is parsed by the cuts of the path
* `Plain.language`: which paths a plain pattern matches, and with which values
-/
namespace Routing

open Regex Regex.Reader Unicode

namespace Pattern

/-! ## The end of a pattern -/

def closingOf (o : MatchOptions) : List Char :=
  if o.strict then [] else ['/', '?']

theorem isClosing_closingOf (o : MatchOptions) : Token.IsClosing (closingOf o) := by
  unfold closingOf
  cases o.strict
  · exact .inr rfl
  · exact .inl rfl

def closingPieces : List Char → Pieces
  | [] => nothing
  | _ => orNothing 0 (oneOf (· == '/'))

/-- The slash that may end a path. -/
theorem denotes_lastSlash (o : MatchOptions) (slot : Nat) :
    Denotes (flagsOf o) slot 0 48384 (.repetition 0 (some 1) true (Token.literalExpr '/'))
      (orNothing 0 (oneOf (· == '/'))) := by
  have literal := Follows.set slot (contains_toSet o '/') (roomBound_toSet o '/')
  rw [same_of_lt (by decide)] at literal
  have greedy : (flagsOf o).swapGreed = false := rfl
  refine ⟨.rep 0 (some 1) true (.set (Literal.toSet (flagsOf o) '/')), ?_, literal.optional⟩
  simp [Token.literalExpr, Expr.lower, Literal.lower, bind, Except.bind, pure, Except.pure,
    ofSet_of_not_isEmpty (isEmpty_toSet o '/'), Node.repeated, Node.takesNothing, greedy]

theorem denotes_closing {o : MatchOptions} {slot count room : Nat} {before : List Expr} {q : Pieces}
    (h : Denotes (flagsOf o) slot count room (sequenceOfItems before) q) (closing : List Char) :
    Denotes (flagsOf o) slot count (room + 48384)
      (sequenceOfItems (Token.closingExprs closing ++ before)) (andThen q (closingPieces closing)) := by
  cases closing with
  | nil =>
    rw [closingPieces, andThen_nothing]
    exact h.mono (Nat.le_add_right _ _)
  | cons c closing => exact denotes_cons h (denotes_lastSlash o (slot + count))

/-- The first piece that leaves nothing of a path but its end. -/
def leading (o : MatchOptions) (q : Pieces) (cs : List Char) : Option (Values × List Char) :=
  (q cs).find? fun x => decide (Closes o x.2)

theorem find?_closing (o : MatchOptions) (q : Pieces) (cs : List Char) :
    (andThen q (closingPieces (closingOf o)) cs).find? (·.2.isEmpty) =
      (leading o q cs).map fun x => (x.1, []) := by
  have ending (rest : List Char) : (closingPieces (closingOf o) rest).find? (·.2.isEmpty) =
      if Closes o rest then some ([], []) else none := by
    obtain ⟨caseSensitive, strict⟩ := o
    cases strict with
    | true => cases rest <;> simp [closingPieces, closingOf, nothing, Closes]
    | false =>
      cases rest with
      | nil => simp [closingPieces, closingOf, orNothing, oneOf, Closes]
      | cons c rest =>
        by_cases h : c = '/' <;> cases rest <;>
          simp [closingPieces, closingOf, orNothing, oneOf, Closes, h]
  rw [andThen, leading]
  induction q cs with
  | nil => rfl
  | cons x l ih =>
    have here := ending x.2
    rw [List.flatMap_cons, List.find?_append, ih, List.find?_map, List.find?_cons]
    simp only [Function.comp_def, here]
    by_cases closes : Closes o x.2 <;> simp [closes]

/-- The cuts of a path are the pieces that leave nothing but the end. -/
theorem cuts_eq (o : MatchOptions) (ts : List Token) (cs : List Char) :
    cuts o ts cs = (piecesOf o ts cs).flatMap fun x => if decide (Closes o x.2) then [x.1] else [] := by
  induction ts generalizing cs with
  | nil => simp [piecesOf, nothing, cuts]
  | cons t ts ih =>
    rw [piecesOf, cuts, andThen, List.flatMap_assoc]
    refine List.flatMap_congr fun x _ => ?_
    change (cuts o ts x.2).map (x.1 ++ ·) = _
    rw [ih, List.flatMap_map, List.map_flatMap]
    refine List.flatMap_congr fun y _ => ?_
    by_cases closes : Closes o y.2 <;> simp [closes]

theorem head?_cuts (o : MatchOptions) (ts : List Token) (cs : List Char) :
    (cuts o ts cs).head? = (leading o (piecesOf o ts) cs).map (·.1) := by
  rw [cuts_eq, head?_flatMap_ite, leading]

/-! ## Compiling -/

/-- What the expression of a pattern is read and lowered to, if it is a valid one. -/
def program? (o : MatchOptions) (p : Pattern) : Option Node :=
  match Expr.read (anchored (expansion o p.source)).toList with
  | .error _ => none
  | .ok e =>
    match e.lower (flagsOf o) with
    | .error _ => none
    | .ok (a, _) => some a.settled

/-- The expression of a pattern is valid, so that nothing but the size of its program decides whether it is
accepted. -/
def IsDecidedBySize (o : MatchOptions) (p : Pattern) : Prop :=
  ∃ a, program? o p = some a ∧
    ((∃ c, compile o p = .ok c) ↔ a.fits sizeLimit = true) ∧
    (a.fits sizeLimit = false →
      compile o p = .error (.invalidPattern p.source (RegexError.sizeLimitExceeded sizeLimit).message))

/-- A pattern that has a program is refused for nothing but the room that this takes. -/
theorem compile_of_program? {o : MatchOptions} {p : Pattern} (text : p.text?.isSome = true) {a : Node}
    (h : program? o p = some a) :
    compile o p =
      if a.fits sizeLimit then
        .ok ⟨p.source, ⟨anchored (expansion o p.source), !o.caseSensitive, a⟩,
          (expansion o p.source).keys, .named⟩
      else .error (.invalidPattern p.source (RegexError.sizeLimitExceeded sizeLimit).message) := by
  have compiled : Regex.compile (anchored (expansion o p.source)) (!o.caseSensitive) =
      if a.fits sizeLimit then .ok ⟨anchored (expansion o p.source), !o.caseSensitive, a⟩
      else .error (.sizeLimitExceeded sizeLimit) := by
    have flags : ({ ignoreCase := !o.caseSensitive } : Flags) = flagsOf o := rfl
    unfold program? at h
    split at h
    · cases h
    · next e read =>
      split at h
      · cases h
      · next b f lowered =>
        cases h
        simp only [Regex.compile, read, bind, Except.bind, flags, lowered]
        cases b.settled.fits sizeLimit <;> rfl
  cases p with
  | regex r => cases text
  | path | alternatives =>
    simp only [compile, compiled]
    cases a.fits sizeLimit <;> rfl

theorem isDecidedBySize_of_program? {o : MatchOptions} {p : Pattern} (text : p.text?.isSome = true)
    {a : Node} (h : program? o p = some a) : IsDecidedBySize o p := by
  have compiled := compile_of_program? text h
  refine ⟨a, h, ?_, fun large => by rw [compiled, large]; rfl⟩
  cases fits : a.fits sizeLimit with
  | true =>
    rw [fits, if_pos rfl] at compiled
    exact iff_of_true ⟨_, compiled⟩ rfl
  | false =>
    refine iff_of_false ?_ Bool.false_ne_true
    rintro ⟨c, accepted⟩
    rw [fits, accepted] at compiled
    cases compiled

theorem lower_anchoredExpr {o : MatchOptions} {e : Expr} {a : Node}
    (h : e.lower (flagsOf o) = .ok (a, flagsOf o)) (noAlt : a.isAlt = false) :
    (anchoredExpr e).lower (flagsOf o) = .ok (a.anchored, flagsOf o) := by
  have same : (flagsOf o).set [] = flagsOf o := rfl
  simp only [anchoredExpr, Expr.lower, same, h, bind, Except.bind, pure, Except.pure,
    Node.settled_of_not_alt noAlt]
  rfl

theorem program?_of_read {o : MatchOptions} {p : Pattern} {e : Expr} {a : Node}
    (read : Expr.read (anchored (expansion o p.source)).toList = .ok (anchoredExpr e))
    (lower : e.lower (flagsOf o) = .ok (a, flagsOf o)) (noAlt : a.isAlt = false) :
    program? o p = some a.anchored := by
  simp only [program?, read, lower_anchoredExpr lower noAlt, Node.settled_anchored]

/-- A node of moderate size fits between its anchors. -/
theorem fits_anchored {a : Node} (room : a.roomBound ≤ 10485000) : a.anchored.fits sizeLimit = true := by
  have inner := Node.roomBound_append (.look .start) a
  have outer := Node.roomBound_append ((Node.look .start).append a) (.look .stop)
  simp only [Node.roomBound] at inner outer
  have limit : sizeLimit = 10485760 := rfl
  rw [Node.fits, Bool.or_eq_true, decide_eq_true_eq, Node.sizeBound, Node.anchored, limit]
  omega

namespace Plain

/-- The pattern text. -/
def source (p : Plain) : String :=
  String.ofList p.text

def slots (p : Plain) : Nat :=
  Token.slotsOf p.tokens

def weight (p : Plain) : Nat :=
  weightOf p.tokens

theorem expansion_source (p : Plain) (o : MatchOptions) :
    expansion o p.source = Expansion.ofText (p.text ++ closingOf o) := by
  rw [expansion, source, String.toList_ofList, closingOf]

theorem denotes_expr (p : Plain) (o : MatchOptions) :
    Denotes (flagsOf o) 0 p.slots (24064 * p.weight + 48448) (p.expr (closingOf o))
      (andThen (piecesOf o p.tokens) (closingPieces (closingOf o))) := by
  have tokens := denotes_exprsOf p.plain (denotes_nil (flagsOf o) 0)
  rw [nothing_andThen, Nat.zero_add, List.append_nil] at tokens
  exact (denotes_closing tokens (closingOf o)).mono (by rw [weight]; omega)

/-- The program of a plain pattern is that of its expression, between the anchors. -/
theorem exists_program (p : Plain) (o : MatchOptions) :
    ∃ a : Node, (p.expr (closingOf o)).lower (flagsOf o) = .ok (a, flagsOf o) ∧
      Follows 0 p.slots (24064 * p.weight + 48448) a
        (andThen (piecesOf o p.tokens) (closingPieces (closingOf o))) ∧
      program? o (.path p.source) = some a.anchored := by
  obtain ⟨a, lower, follows⟩ := p.denotes_expr o
  refine ⟨a, lower, follows, ?_⟩
  have read := p.read_anchored (isClosing_closingOf o)
  rw [← expansion_source] at read
  exact program?_of_read read lower follows.noAlt

/-- Compiling a plain pattern gives its anchored expression, unless that takes too much room. -/
theorem compile_eq (p : Plain) (o : MatchOptions) :
    ∃ a : Node, (p.expr (closingOf o)).lower (flagsOf o) = .ok (a, flagsOf o) ∧
      Follows 0 p.slots (24064 * p.weight + 48448) a
        (andThen (piecesOf o p.tokens) (closingPieces (closingOf o))) ∧
      compile o (.path p.source) =
        if a.anchored.fits sizeLimit then
          .ok ⟨p.source, ⟨anchored (expansion o p.source), !o.caseSensitive, a.anchored⟩,
            (expansion o p.source).keys, .named⟩
        else .error (.invalidPattern p.source (RegexError.sizeLimitExceeded sizeLimit).message) := by
  obtain ⟨a, lower, follows, program⟩ := p.exists_program o
  exact ⟨a, lower, follows, compile_of_program? rfl program⟩

theorem isDecidedBySize (p : Plain) (o : MatchOptions) : IsDecidedBySize o (.path p.source) := by
  obtain ⟨a, -, -, program⟩ := p.exists_program o
  exact isDecidedBySize_of_program? rfl program

end Plain

/-! ## Matching -/

/-- A compiled plain pattern matches the paths that have a cut, and gives its slots the values of the
preferred one. -/
theorem parse_eq {a : Node} {slots room : Nat} {o : MatchOptions} {ts : List Token}
    (h : Follows 0 slots room a (andThen (piecesOf o ts) (closingPieces (closingOf o))))
    {c : CompiledPattern} (node : c.regex.node = a.anchored) (layout : c.layout = .named)
    (keys : c.keys.length = slots) (path : String) :
    ((c.parse path).matched = true ↔ (cuts o ts path.toList).head?.isSome = true) ∧
      ∀ vs ∈ (cuts o ts path.toList).head?,
        (c.parse path).captures = vs.map (·.map String.ofList) := by
  obtain ⟨matched, captured⟩ := h.leads.parse node layout keys path
  rw [find?_closing] at matched captured
  rw [head?_cuts, Option.isSome_map]
  refine ⟨by rw [matched, Option.isSome_map], fun vs hv => ?_⟩
  obtain ⟨x, hx, rfl⟩ := Option.map_eq_some_iff.1 hv
  exact captured (x.1, []) (Option.map_eq_some_iff.2 ⟨x, hx, rfl⟩)

/-! ## The language -/

namespace Plain

theorem fits_of_weight_le {p : Plain} (small : p.weight ≤ 400) {a : Node} {slots : Nat} {q : Pieces}
    (h : Follows 0 slots (24064 * p.weight + 48448) a q) :
    a.anchored.fits sizeLimit = true :=
  fits_anchored (Nat.le_trans h.room (by omega))

/-- A plain pattern compiles exactly if its program keeps to the limit, which that of every pattern of moderate
weight does. It matches the paths that can be cut into pieces for its tokens, and its slots are given the
values of the preferred cut. -/
theorem language (p : Plain) (o : MatchOptions) :
    IsDecidedBySize o (.path p.source) ∧
      (p.weight ≤ 400 → ∃ c, compile o (.path p.source) = .ok c) ∧
      (∀ e, compile o (.path p.source) = .error e →
        e = .invalidPattern p.source (RegexError.sizeLimitExceeded sizeLimit).message) ∧
      ∀ c, compile o (.path p.source) = .ok c → ∀ path : String,
        ((c.parse path).matched = true ↔ ∃ vs, Cut o p.tokens path.toList vs) ∧
        ((c.parse path).matched = true →
          ∃ vs, (cuts o p.tokens path.toList).head? = some vs ∧
            Cut o p.tokens path.toList vs ∧
            (c.parse path).captures = vs.map (·.map String.ofList)) := by
  obtain ⟨a, -, follows, compiled⟩ := p.compile_eq o
  refine ⟨p.isDecidedBySize o, fun small => ?_, fun e he => ?_, fun c hc path => ?_⟩
  · rw [compiled, if_pos (fits_of_weight_le small follows)]
    exact ⟨_, rfl⟩
  · rw [compiled] at he
    split at he
    · cases he
    · cases he
      rfl
  · have keys : (expansion o p.source).keys.length = p.slots := by
      rw [expansion_source, p.length_keys_ofText (isClosing_closingOf o), slots]
    rw [compiled] at hc
    split at hc
    · let c : CompiledPattern := ⟨p.source,
        ⟨anchored (expansion o p.source), !o.caseSensitive, a.anchored⟩,
        (expansion o p.source).keys, .named⟩
      obtain ⟨matched, captured⟩ := parse_eq (c := c) follows rfl rfl keys path
      cases hc
      have some_iff : (cuts o p.tokens path.toList).head?.isSome = true ↔
          ∃ vs, Cut o p.tokens path.toList vs := by
        rw [List.isSome_head?]
        constructor
        · intro some
          obtain ⟨vs, hv⟩ := List.exists_mem_of_ne_nil _ some
          exact ⟨vs, mem_cuts.1 hv⟩
        · rintro ⟨vs, hv⟩
          exact List.ne_nil_of_mem (mem_cuts.2 hv)
      refine ⟨matched.trans some_iff, fun h => ?_⟩
      obtain ⟨vs, hv⟩ := Option.isSome_iff_exists.1 (matched.1 h)
      exact ⟨vs, hv, mem_cuts.1 (List.mem_of_head? hv), captured vs hv⟩
    · cases hc

/-! ### Patterns that are too long -/

theorem exprsOf_literals {ts : List Token} {cs : List Char}
    (literal : ts.map Token.literal? = cs.map some) (slot : Nat) :
    Token.exprsOf slot ts = (cs.map Token.literalExpr).reverse := by
  induction ts generalizing cs slot with
  | nil =>
    obtain rfl := List.map_eq_nil_iff.1 literal.symm
    rfl
  | cons t ts ih =>
    obtain ⟨c, rest, rfl, of, later⟩ := List.map_eq_cons_iff.1 literal.symm
    have single : t.exprs slot = [Token.literalExpr c] := by
      cases t <;> cases of <;> rfl
    rw [Token.exprsOf, ih later.symm, single, List.map_cons, List.reverse_cons]

/-- The characters are sets of one member, and known to be. -/
def AreSingle (cs : List Char) : Prop :=
  ∀ c ∈ cs, (CharSet.single c).single?.isSome = true

theorem lower_literals {cs : List Char} (single : AreSingle cs) :
    ∃ a, (sequenceOfItems (cs.map Token.literalExpr)).lower (flagsOf ⟨true, true⟩) =
      .ok (a, flagsOf ⟨true, true⟩) ∧ a.isText = true ∧ a.letters = cs.length := by
  induction cs with
  | nil => exact ⟨.empty, rfl, rfl, rfl⟩
  | cons c cs ih =>
    obtain ⟨here, later⟩ := List.forall_mem_cons.1 single
    obtain ⟨a, lower, text, count⟩ := ih later
    have literal : (Token.literalExpr c).lower (flagsOf ⟨true, true⟩) =
        .ok (.set (.single c), flagsOf ⟨true, true⟩) := by
      have nonempty : (CharSet.single c).isEmpty = false := isEmpty_toSet ⟨true, true⟩ c
      have set : Literal.toSet (flagsOf ⟨true, true⟩) c = .single c := rfl
      simp [Token.literalExpr, Expr.lower, Literal.lower, bind, Except.bind, pure, Except.pure, set,
        ofSet_of_not_isEmpty nonempty]
    rcases lower_cons lower literal with whole | ⟨rfl, whole⟩
    · refine ⟨_, whole, ?_, ?_⟩
      · rw [Node.isText_append, text]
        exact here
      · rw [Node.letters_append, count]
        rfl
    · refine ⟨_, whole, here, ?_⟩
      rw [List.length_cons, ← count]
      rfl

theorem exprsOf_append (slot : Nat) (ts us : List Token) :
    Token.exprsOf slot (ts ++ us) = Token.exprsOf (slot + Token.slotsOf ts) us ++ Token.exprsOf slot ts := by
  induction ts generalizing slot with
  | nil => simp [Token.exprsOf, Token.slotsOf]
  | cons t ts ih =>
    rw [List.cons_append, Token.exprsOf, ih, Token.exprsOf, Token.slotsOf, List.append_assoc, Nat.add_assoc]

/-- The node of a sequence begins with the node of its first part. -/
theorem exists_of_lower_append {more before : List Expr} {f f' : Flags} {a : Node}
    (h : (sequenceOfItems (more ++ before)).lower f = .ok (a, f')) :
    ∃ first f₁ rest, (sequenceOfItems before).lower f = .ok (first, f₁) ∧ a = first.append rest := by
  induction more generalizing a f' with
  | nil => exact ⟨a, f', .empty, h, (Node.append_empty a).symm⟩
  | cons e more ih =>
    cases items : more ++ before with
    | nil =>
      rw [(List.append_eq_nil_iff.1 items).2]
      exact ⟨.empty, f, a, rfl, (Node.empty_append a).symm⟩
    | cons d items' =>
      rw [List.cons_append, items] at h
      simp only [sequenceOfItems, Expr.lower, bind, Except.bind] at h
      split at h
      · cases h
      · next lowered =>
        split at h
        · cases h
        · next o _ =>
          obtain ⟨rfl, -⟩ := Prod.mk.inj (Except.ok.inj h)
          obtain ⟨first, f₁, rest, here, same⟩ := @ih _ _ (items ▸ lowered)
          exact ⟨first, f₁, rest.append o.1, here, by rw [same, Node.append_assoc]⟩

/-- A pattern that begins with one character after another is refused once these alone take more than the
room that there is. -/
theorem compile_front {p : Plain} {cs : List Char} {ts us : List Token} (tokens : p.tokens = ts ++ us)
    (literal : ts.map Token.literal? = cs.map some) (single : AreSingle cs)
    (long : sizeLimit < 32 * cs.length) :
    compile ⟨true, true⟩ (.path p.source) =
      .error (.invalidPattern p.source (RegexError.sizeLimitExceeded sizeLimit).message) := by
  obtain ⟨a, lower, -, compiled⟩ := p.compile_eq ⟨true, true⟩
  have reversed : AreSingle cs.reverse := fun c hc => single c (List.mem_reverse.1 hc)
  obtain ⟨text, lower', isText, count⟩ := lower_literals reversed
  have expr : p.expr (closingOf ⟨true, true⟩) = sequenceOfItems
      (Token.exprsOf (0 + Token.slotsOf ts) us ++ cs.reverse.map Token.literalExpr) := by
    rw [expr, tokens, exprsOf_append, exprsOf_literals literal, List.map_reverse]
    rfl
  rw [expr] at lower
  obtain ⟨first, _, rest, here, same⟩ := exists_of_lower_append lower
  obtain rfl : text = first := (Prod.mk.inj (Except.ok.inj (lower'.symm.trans here))).1
  -- the anchor at the front is part of the text
  have whole : a.anchored = ((Node.look .start).append text).append (rest.append (.look .stop)) := by
    rw [Node.anchored, same, Node.append_assoc, Node.append_assoc]
  have fits : a.anchored.fits sizeLimit = false := by
    rw [whole]
    apply Node.fits_append_eq_false
    · rw [Node.isText_append, isText]
      rfl
    · rw [Node.letters_append, count, List.length_reverse]
      simpa [Node.letters] using long
  rw [compiled, fits]
  rfl

theorem compile_literals {p : Plain} {cs : List Char} (literal : p.tokens.map Token.literal? = cs.map some)
    (single : AreSingle cs) (long : sizeLimit < 32 * cs.length) :
    compile ⟨true, true⟩ (.path p.source) =
      .error (.invalidPattern p.source (RegexError.sizeLimitExceeded sizeLimit).message) :=
  compile_front (List.append_nil _).symm literal single long

theorem areSingle_replicate (n : Nat) : AreSingle (List.replicate n 'a') := by
  intro c hc
  rw [List.eq_of_mem_replicate hc]
  decide

/-- The pattern that repeats one letter. -/
def letters (n : Nat) : Plain where
  tokens := List.replicate n (.char 'a')
  plain := by simp [Token.isPlain, isWordChar, isNameChar]
  apart := List.isChain_replicate_of_rel n rfl

theorem literal?_letters (n : Nat) :
    (letters n).tokens.map Token.literal? = (List.replicate n 'a').map some := by
  simp [letters, Token.literal?]

theorem lower_letters (n slot : Nat) :
    ∃ a, (sequenceOfItems (Token.exprsOf slot (letters n).tokens)).lower (flagsOf ⟨true, true⟩) =
      .ok (a, flagsOf ⟨true, true⟩) ∧ a.isText = true ∧ a.letters = n := by
  obtain ⟨a, lower, text, count⟩ := lower_literals (areSingle_replicate n)
  refine ⟨a, ?_, text, by rw [count, List.length_replicate]⟩
  rwa [exprsOf_literals (literal?_letters n), ← List.map_reverse, List.reverse_replicate]

theorem compile_letters {n : Nat} (long : sizeLimit < 32 * n) :
    compile ⟨true, true⟩ (.path (letters n).source) =
      .error (.invalidPattern (letters n).source
        (RegexError.sizeLimitExceeded sizeLimit).message) := by
  have long : sizeLimit < 32 * (List.replicate n 'a').length := by rwa [List.length_replicate]
  exact compile_literals (literal?_letters n) (areSingle_replicate n) long

/-- Such a pattern exists. -/
theorem compile_letters_fails :
    ¬ ∃ c, compile ⟨true, true⟩ (.path (letters 330000).source) = .ok c := by
  rintro ⟨c, hc⟩
  rw [compile_letters (by decide)] at hc
  cases hc

end Plain

end Pattern

end Routing
