import Routing.Proofs.Pattern.Expression
import Routing.Proofs.Pattern.Values
import Routing.Proofs.Regex.Room
import Routing.Proofs.Unicode.Uncased

/-!
# Following a plain pattern

The ways through the expression of a plain pattern are the pieces of its tokens, one after the other
and in the same order.

* `Follows`: the ways through a node are the pieces of a list
* `Denotes`: the node of an expression follows a list
* `denotes_exprsOf`: the expressions of the tokens follow their pieces
-/
namespace Routing

open Regex Regex.Reader Unicode

namespace Pattern

/-! ## Parts -/

/-- What may be taken from the front of a path, with the values and the rest. -/
abbrev Pieces := List Char → List (Values × List Char)

def nothing : Pieces :=
  fun cs => [([], cs)]

def oneOf (allowed : Char → Bool) : Pieces
  | [] => []
  | c :: rest => if allowed c then [([], rest)] else []

def andThen (p q : Pieces) : Pieces :=
  fun cs => (p cs).flatMap fun x => (q x.2).map fun y => (x.1 ++ y.1, y.2)

/-- A part that may be left out, and its slots with it. -/
def orNothing (slots : Nat) (p : Pieces) : Pieces :=
  fun cs => p cs ++ [(List.replicate slots none, cs)]

theorem nothing_andThen (p : Pieces) : andThen nothing p = p := by
  funext cs
  simp [andThen, nothing]

theorem andThen_nothing (p : Pieces) : andThen p nothing = p := by
  funext cs
  simp [andThen, nothing]

theorem andThen_assoc (p q r : Pieces) : andThen (andThen p q) r = andThen p (andThen q r) := by
  funext cs
  simp [andThen, List.flatMap_assoc, List.flatMap_map, List.map_flatMap, List.append_assoc,
    Function.comp_def]

theorem map_andThen (p q : Pieces) (vs : Values) (cs : List Char) :
    (andThen p q cs).map (fun x => (vs ++ x.1, x.2)) =
      ((p cs).map fun x => (vs ++ x.1, x.2)).flatMap fun x => (q x.2).map fun y => (x.1 ++ y.1, y.2) := by
  simp [andThen, List.flatMap_map, List.map_flatMap, List.append_assoc, Function.comp_def]

/-- The ways through a node are the pieces of a list, in the same order; the node captures `count` slots
from `slot` on and takes no more room than it may. -/
structure Follows (slot count room : Nat) (a : Node) (p : Pieces) : Prop where
  ways : ∀ {path : List Char} {t : Thread} {vs : Values}, Agrees path slot t vs →
    List.Forall₂ (Outcome path (slot + count)) (a.ways t)
      ((p t.rest).map fun x => (vs ++ x.1, x.2))
  orderly : a.orderly = true
  groups : a.groups = (List.range' slot count).map fun i => (i + 1, some (Token.slotName i))
  noAlt : a.isAlt = false
  takes : count ≠ 0 → a.takesNothing = false
  room : a.roomBound ≤ room

namespace Follows

variable {slot count room : Nat} {a b : Node} {p q : Pieces}

theorem empty (slot : Nat) : Follows slot 0 64 .empty nothing where
  ways := by
    intro path t vs h
    exact .cons ⟨by simpa [nothing] using h, rfl⟩ .nil
  orderly := rfl
  groups := rfl
  noAlt := rfl
  takes h := absurd rfl h
  room := Nat.le_refl _

theorem append {more room' : Nat} (h : Follows slot count room a p)
    (h' : Follows (slot + count) more room' b q) :
    Follows slot (count + more) (room + room') (a.append b) (andThen p q) where
  ways := by
    intro path t vs agrees
    rw [Node.ways_append, map_andThen]
    refine List.rel_flatMap (h.ways agrees) fun u x outcome => ?_
    have further := h'.ways outcome.agrees
    rwa [outcome.rest, Nat.add_assoc] at further
  orderly := by rw [Node.orderly_append, h.orderly, h'.orderly]; rfl
  groups := by
    rw [Node.groups_append, h.groups, h'.groups, ← List.map_append, List.range'_append_1]
  noAlt := Node.isAlt_append h.noAlt h'.noAlt
  takes slots := by
    rw [Node.takesNothing_append, Bool.and_eq_false_iff]
    by_cases none : count = 0
    · exact .inr (h'.takes (by omega))
    · exact .inl (h.takes none)
  room := by
    have sum := Node.roomBound_append a b
    have first := h.room
    have second := h'.room
    omega

theorem set {s : CharSet} {allowed : Char → Bool} (slot : Nat) (members : s.contains = allowed)
    (hr : (Node.set s).roomBound ≤ room) : Follows slot 0 room (.set s) (oneOf allowed) where
  ways := by
    intro path t vs h
    rw [Node.ways]
    cases hs : t.step s with
    | none =>
      have stuck : oneOf allowed t.rest = [] := by
        cases hr : t.rest with
        | nil => rfl
        | cons c rest =>
          have closed := Thread.not_contains_of_step_eq_none hs hr
          simp [oneOf, ← members, closed]
      rw [stuck]
      exact .nil
    | some u =>
      obtain ⟨c, hr, member, same⟩ := Thread.step_eq_some hs
      have single : oneOf allowed t.rest = [([], u.rest)] := by
        simp [oneOf, hr, ← members, member]
      rw [single]
      exact .cons ⟨by simpa using h.of_bindings (h.inPath.step hs) same, rfl⟩ .nil
  orderly := rfl
  groups := rfl
  noAlt := rfl
  takes h := absurd rfl h
  room := hr

/-- A group captures for its slot what its body takes. -/
theorem capture {taken : List Char → List (List Char × List Char)} (slot : Nat)
    (ways : ∀ {path t}, t.In path → List.Forall₂ (Took path t) (a.ways t) (taken t.rest))
    (orderly : a.orderly = true) (noGroups : a.groups = []) (takes : a.takesNothing = false)
    (hr : a.roomBound + 128 ≤ room) :
    Follows slot 1 room (.group (slot + 1) (some (Token.slotName slot)) a)
      fun cs => (taken cs).map Token.valued where
  ways := by
    intro path t vs h
    rw [Node.ways, List.map_map, List.forall₂_map_left_iff, List.forall₂_map_right_iff]
    exact (ways h.inPath).imp fun u x took => ⟨h.bind took, took.rest⟩
  orderly := orderly
  groups := by rw [Node.groups, noGroups]; rfl
  noAlt := rfl
  takes _ := takes
  room := hr

/-- An optional part is there if it can be. -/
theorem optional (h : Follows slot count room a p) :
    Follows slot count (2 * (room + 64) + 128) (.rep 0 (some 1) true a) (orNothing count p) where
  ways := by
    intro path t vs agrees
    have ways : (Node.rep 0 (some 1) true a).ways t = a.ways t ++ [t] := by
      simp [Node.ways, roundsExactly, roundsUpTo, prefer]
    rw [ways, orNothing, List.map_append]
    exact List.rel_append (h.ways agrees) (.cons ⟨agrees.leaveOutAll count, rfl⟩ .nil)
  orderly := h.orderly
  groups := h.groups
  noAlt := rfl
  takes slots := by
    rw [Node.takesNothing, h.takes slots, Bool.and_false]
  room := by
    have room := h.room
    simp only [Node.roomBound, Option.getD_some, show max 0 1 + 1 = 2 from rfl]
    omega

end Follows

/-! ## Expressions -/

/-- The node of an expression follows a list, under flags that it leaves as they are. -/
def Denotes (f : Flags) (slot count room : Nat) (e : Expr) (p : Pieces) : Prop :=
  ∃ a, e.lower f = .ok (a, f) ∧ Follows slot count room a p

/-- To go on with an expression is to append its node, unless nothing stands before it. -/
theorem lower_cons {f : Flags} {before : List Expr} {e : Expr} {a b : Node}
    (h : (sequenceOfItems before).lower f = .ok (a, f)) (h' : e.lower f = .ok (b, f)) :
    (sequenceOfItems (e :: before)).lower f = .ok (a.append b, f) ∨
      a = .empty ∧ (sequenceOfItems (e :: before)).lower f = .ok (b, f) := by
  cases before with
  | nil =>
    simp only [sequenceOfItems, Expr.lower, Except.ok.injEq, Prod.mk.injEq] at h
    exact .inr ⟨h.1.symm, h'⟩
  | cons d before =>
    refine .inl ?_
    simp only [sequenceOfItems, Expr.lower] at h ⊢
    rw [h]
    simp only [bind, Except.bind, pure, Except.pure]
    rw [h']

section

variable {f : Flags} {slot count room : Nat} {e : Expr} {p : Pieces}

theorem denotes_nil (f : Flags) (slot : Nat) : Denotes f slot 0 64 (sequenceOfItems []) nothing :=
  ⟨.empty, rfl, .empty slot⟩

/-- An expression behind others. -/
theorem denotes_cons {before : List Expr} {more room' : Nat} {q : Pieces}
    (h : Denotes f slot count room (sequenceOfItems before) p)
    (h' : Denotes f (slot + count) more room' e q) :
    Denotes f slot (count + more) (room + room') (sequenceOfItems (e :: before)) (andThen p q) := by
  obtain ⟨a, ha, followsA⟩ := h
  obtain ⟨b, hb, followsB⟩ := h'
  have both := followsA.append followsB
  rcases lower_cons ha hb with whole | ⟨rfl, whole⟩
  · exact ⟨a.append b, whole, both⟩
  · refine ⟨b, whole, ?_, followsB.orderly, ?_, followsB.noAlt, ?_, ?_⟩
    · intro path t vs agrees
      have ways := both.ways agrees
      rwa [Node.ways_append, Node.ways, List.flatMap_singleton] at ways
    · have groups := both.groups
      rwa [Node.groups_append, Node.groups, List.nil_append] at groups
    · intro slots
      have takes := both.takes slots
      rwa [Node.takesNothing_append, Node.takesNothing, Bool.true_and] at takes
    · exact Nat.le_trans followsB.room (Nat.le_add_left _ _)

/-- A group that captures nothing stands for what is in it. -/
theorem Denotes.group (h : Denotes f slot count room e p) :
    Denotes f slot count room (.group (.plain []) e) p := by
  obtain ⟨a, ha, follows⟩ := h
  refine ⟨a, ?_, follows⟩
  have same : f.set [] = f := rfl
  simp only [Expr.lower, same, ha, bind, Except.bind, pure, Except.pure,
    Node.settled_of_not_alt follows.noAlt]

theorem Denotes.optional (slots : count ≠ 0) (greedy : f.swapGreed = false)
    (h : Denotes f slot count room e p) :
    Denotes f slot count (2 * (room + 64) + 128) (.repetition 0 (some 1) true e)
      (orNothing count p) := by
  obtain ⟨a, ha, follows⟩ := h
  refine ⟨.rep 0 (some 1) true a, ?_, follows.optional⟩
  simp [Expr.lower, ha, bind, Except.bind, pure, Except.pure, Node.repeated, follows.takes slots,
    greedy]

end

/-! ## Characters -/

/-- The flags that a pattern is compiled with. -/
def flagsOf (o : MatchOptions) : Flags :=
  { ignoreCase := !o.caseSensitive }

theorem ofSet_of_not_isEmpty {s : CharSet} (h : s.isEmpty = false) : Node.ofSet s = .set s := by
  rw [Node.ofSet, h]
  rfl

theorem isEmpty_toSet (o : MatchOptions) (c : Char) :
    (Literal.toSet (flagsOf o) c).isEmpty = false := by
  obtain ⟨caseSensitive, strict⟩ := o
  cases caseSensitive with
  | true => simp [Literal.toSet, flagsOf, CharSet.single, CharSet.isEmpty]
  | false => rfl

theorem contains_toSet (o : MatchOptions) (c : Char) :
    (Literal.toSet (flagsOf o) c).contains = o.same c := by
  funext d
  obtain ⟨caseSensitive, strict⟩ := o
  cases caseSensitive with
  | true => simp [Literal.toSet, flagsOf, MatchOptions.same, Bool.beq_eq_decide_eq]
  | false => rfl

theorem roomBound_toSet (o : MatchOptions) (c : Char) :
    (Node.set (Literal.toSet (flagsOf o) c)).roomBound ≤ 24064 := by
  obtain ⟨caseSensitive, strict⟩ := o
  cases caseSensitive with
  | true => exact Nat.le_of_ble_eq_true (n := 3000 * 1 + 64) rfl
  | false => exact Nat.le_refl (3000 * 8 + 64)

theorem denotes_literal (o : MatchOptions) (slot : Nat) (c : Char) :
    Denotes (flagsOf o) slot 0 24064 (Token.literalExpr c) (oneOf (o.same c)) := by
  refine ⟨.set (Literal.toSet (flagsOf o) c), ?_,
    .set slot (contains_toSet o c) (roomBound_toSet o c)⟩
  simp [Token.literalExpr, Expr.lower, Literal.lower, bind, Except.bind, pure, Except.pure,
    ofSet_of_not_isEmpty (isEmpty_toSet o c)]

/-- A separator has no other case. -/
theorem same_of_lt {o : MatchOptions} {c : Char} (hc : c.toNat < 0x41) : o.same c = (· == c) := by
  funext d
  obtain ⟨caseSensitive, strict⟩ := o
  cases caseSensitive with
  | true => rfl
  | false =>
    rw [Bool.eq_iff_iff]
    simp only [MatchOptions.same, Bool.false_eq_true, if_false, beq_iff_eq,
      foldPoint_eq_iff_of_lt hc, Char.toNat_inj]

/-- The characters that a segment may not hold. -/
def segmentEnds (dot : Bool) : CharSet :=
  if dot then .union (.single '/') (.single '.') else .single '/'

def segmentSet (o : MatchOptions) (dot : Bool) : CharSet :=
  .compl ((flagsOf o).fold (segmentEnds dot))

theorem contains_segmentSet (o : MatchOptions) (p : ParamToken) :
    (segmentSet o p.dot).contains = Token.ParamToken.allows p := by
  have low : ∀ n, (segmentEnds p.dot).containsPoint n = true → n < 0x41 := by
    intro n hn
    cases hd : p.dot with
    | true =>
      simp only [segmentEnds, hd, if_true, CharSet.containsPoint, Bool.or_eq_true,
        CharSet.containsPoint_single] at hn
      rcases hn with rfl | rfl <;> decide
    | false =>
      simp only [segmentEnds, hd, Bool.false_eq_true, if_false, CharSet.containsPoint_single] at hn
      rw [hn]
      decide
  have fold (c : Char) : ((flagsOf o).fold (segmentEnds p.dot)).contains c =
      (segmentEnds p.dot).contains c := by
    obtain ⟨caseSensitive, strict⟩ := o
    cases caseSensitive with
    | true => rfl
    | false => exact CharSet.contains_folded_of_lt low c
  funext c
  rw [segmentSet, CharSet.contains_compl, fold, Token.ParamToken.allows]
  cases p.dot <;> simp [segmentEnds, Bool.beq_eq_decide_eq, bne]

theorem denotes_segment (o : MatchOptions) (dot : Bool) :
    (Token.segmentExpr dot).lower (flagsOf o) = .ok (.set (segmentSet o dot), flagsOf o) := by
  have filled : (segmentSet o dot).isEmpty = false := by
    obtain ⟨caseSensitive, strict⟩ := o
    cases caseSensitive <;> cases dot <;> decide +revert +kernel
  have inner : (if dot then ClassExpr.union (.literal ⟨'/', false⟩) (.literal ⟨'.', false⟩)
      else .literal ⟨'/', false⟩).lower (flagsOf o) = .ok (segmentEnds dot) := by
    cases dot <;> rfl
  simp only [Token.segmentExpr, Expr.lower, inner, bind, Except.bind, pure, Except.pure, Flags.negate,
    if_true]
  rw [← ofSet_of_not_isEmpty filled]
  rfl

theorem roundBound_segmentSet (o : MatchOptions) (dot : Bool) :
    (Node.set (segmentSet o dot)).roomBound ≤ 33064 := by
  obtain ⟨caseSensitive, strict⟩ := o
  cases caseSensitive <;> cases dot <;> decide +revert +kernel

/-! ## Tokens -/

section

variable {o : MatchOptions} {slot : Nat}

/-- A capture of one or more characters of a segment, as few as possible. -/
theorem denotes_segments (o : MatchOptions) (slot : Nat) (p : ParamToken) :
    Denotes (flagsOf o) slot 1 66512
      (Token.captureExpr slot (.repetition 1 none false (Token.segmentExpr p.dot)))
      fun cs => (takesSome (Token.ParamToken.allows p) cs).map Token.valued := by
  refine ⟨.group (slot + 1) (some (Token.slotName slot))
    (.rep 1 none false (.set (segmentSet o p.dot))), ?_, .capture slot ?_ rfl rfl rfl ?_⟩
  · simp only [Token.captureExpr, Expr.lower, denotes_segment, bind, Except.bind, pure, Except.pure]
    rfl
  · intro path t ht
    rw [← contains_segmentSet o p]
    exact forall₂_ways_onceOrMore false ht
  · have room := roundBound_segmentSet o p.dot
    simp only [Node.roomBound] at room ⊢
    simp
    omega

theorem contains_dot : (CharSet.compl (.single '\n')).contains = Token.anyButNewline := by
  funext c
  simp [Token.anyButNewline, bne, Bool.beq_eq_decide_eq]

/-- A capture of characters of one line, as many as possible. -/
theorem denotes_anyNumber (o : MatchOptions) (slot : Nat) :
    Denotes (flagsOf o) slot 1 24064 (Token.captureExpr slot (.repetition 0 none true .dot))
      fun cs => (takes Token.anyButNewline cs).reverse.map Token.valued := by
  refine ⟨.group (slot + 1) (some (Token.slotName slot))
    (.rep 0 none true (.set (.compl (.single '\n')))), rfl, .capture slot ?_ rfl rfl rfl ?_⟩
  · intro path t ht
    rw [← contains_dot]
    exact forall₂_ways_anyNumber true ht
  · decide

theorem denotes_onceOrMore (o : MatchOptions) (slot : Nat) :
    Denotes (flagsOf o) slot 1 24064 (Token.captureExpr slot (.repetition 1 none true .dot))
      fun cs => (takesSome Token.anyButNewline cs).reverse.map Token.valued := by
  refine ⟨.group (slot + 1) (some (Token.slotName slot))
    (.rep 1 none true (.set (.compl (.single '\n')))), rfl, .capture slot ?_ rfl rfl rfl ?_⟩
  · intro path t ht
    rw [← contains_dot]
    exact forall₂_ways_onceOrMore true ht
  · decide

def separatorPieces (present : Bool) (c : Char) : Pieces :=
  if present then oneOf (· == c) else nothing

/-- A literal separator behind other expressions, if there is one. -/
theorem denotes_separator {count room : Nat} {before : List Expr} {p : Pieces}
    (h : Denotes (flagsOf o) slot count room (sequenceOfItems before) p) (present : Bool) {c : Char}
    (hc : c.toNat < 0x41) :
    Denotes (flagsOf o) slot count (room + 24064)
      (sequenceOfItems (Token.separatorExprs present c ++ before))
      (andThen p (separatorPieces present c)) := by
  cases present with
  | true =>
    have literal := denotes_literal o (slot + count) c
    rw [same_of_lt hc] at literal
    exact denotes_cons h literal
  | false =>
    obtain ⟨a, ha, follows⟩ := h
    refine ⟨a, ha, ?_⟩
    rw [separatorPieces, if_neg Bool.false_ne_true, andThen_nothing]
    exact { follows with room := Nat.le_trans follows.room (Nat.le_add_right _ _) }

/-- The pieces of a parameter that is there: its separators and its value. -/
def paramPieces (p : ParamToken) : Pieces :=
  andThen (separatorPieces p.slash '/') (andThen (separatorPieces p.dot '.')
    fun cs => (takesSome (Token.ParamToken.allows p) cs).map Token.valued)

theorem separatorPieces_andThen (present : Bool) (c : Char) (q : Pieces) :
    andThen (separatorPieces present c) q =
      fun cs => (behind? (if present then [c] else []) cs).toList.flatMap q := by
  funext cs
  cases present with
  | false =>
    rw [separatorPieces, if_neg Bool.false_ne_true, nothing_andThen]
    simp [behind?]
  | true =>
    cases cs with
    | nil => rfl
    | cons d rest =>
      by_cases h : d = c
      · simp [andThen, separatorPieces, oneOf, behind?, h]
      · simp [andThen, separatorPieces, oneOf, behind?, h, Ne.symm h]

theorem pieces_param (o : MatchOptions) (p : ParamToken) :
    (Token.param p).pieces o =
      if p.optional then orNothing 1 (paramPieces p) else paramPieces p := by
  have present : paramPieces p = fun cs =>
      (behind? (Token.ParamToken.separators p) cs).toList.flatMap fun rest =>
        (takesSome (Token.ParamToken.allows p) rest).map Token.valued := by
    funext cs
    rw [paramPieces, separatorPieces_andThen, separatorPieces_andThen, Token.ParamToken.separators,
      behind?_append]
    dsimp only
    cases behind? (if p.slash then ['/'] else []) cs <;> simp
  funext cs
  rw [Token.pieces, present]
  cases p.optional
  · simp
  · simp [orNothing]

/-- The value of a parameter behind its dot, behind other expressions. -/
theorem denotes_valueExprs {p : ParamToken} {room : Nat} {before : List Expr} {q : Pieces}
    (h : Denotes (flagsOf o) slot 0 room (sequenceOfItems before) q) :
    Denotes (flagsOf o) slot 1 (room + 90576)
      (sequenceOfItems (Token.ParamToken.valueExprs p slot ++ before))
      (andThen q (andThen (separatorPieces p.dot '.')
        fun cs => (takesSome (Token.ParamToken.allows p) cs).map Token.valued)) := by
  have dot := denotes_separator h p.dot (c := '.') (by decide)
  have value := denotes_cons dot (denotes_segments o slot p)
  rwa [andThen_assoc, Nat.zero_add, Nat.add_assoc] at value

end

/-- How much room a token takes, in units of a character that is compared without regard to case. -/
def Token.weight : Token → Nat
  | param _ => 10
  | _ => 1

def weightOf : List Token → Nat
  | [] => 0
  | t :: ts => t.weight + weightOf ts

theorem Denotes.mono {f : Flags} {slot count room room' : Nat} {e : Expr} {p : Pieces}
    (h : Denotes f slot count room e p) (le : room ≤ room') : Denotes f slot count room' e p := by
  obtain ⟨a, ha, follows⟩ := h
  exact ⟨a, ha, { follows with room := Nat.le_trans follows.room le }⟩

section

variable {o : MatchOptions} {slot count room : Nat} {before : List Expr} {q : Pieces}

theorem denotes_param (h : Denotes (flagsOf o) slot count room (sequenceOfItems before) q)
    (p : ParamToken) :
    Denotes (flagsOf o) slot (count + 1) (room + 240640)
      (sequenceOfItems (Token.ParamToken.exprs p (slot + count) ++ before))
      (andThen q ((Token.param p).pieces o)) := by
  rw [pieces_param, Token.ParamToken.exprs, paramPieces]
  cases p.optional with
  | false =>
    have slash := denotes_separator h p.slash (c := '/') (by decide)
    have value := denotes_valueExprs (p := p) (denotes_nil (flagsOf o) (slot + count))
    rw [nothing_andThen, List.append_nil] at value
    have both := denotes_cons slash value.group
    rw [andThen_assoc] at both
    exact both.mono (by omega)
  | true =>
    have slash := denotes_separator (denotes_nil (flagsOf o) (slot + count)) p.slash (c := '/')
      (by decide)
    rw [nothing_andThen, List.append_nil] at slash
    have value := denotes_valueExprs (p := p) slash
    have part := value.group.optional Nat.one_ne_zero rfl
    exact (denotes_cons h part).mono (by omega)

/-- A plain token behind other expressions. -/
theorem denotes_exprs (h : Denotes (flagsOf o) slot count room (sequenceOfItems before) q)
    {t : Token} (ht : t.isPlain = true) :
    Denotes (flagsOf o) slot (count + t.slotCount) (room + 24064 * t.weight)
      (sequenceOfItems (t.exprs (slot + count) ++ before)) (andThen q (t.pieces o)) := by
  have literal {c : Char} (of : t.literal? = some c) : oneOf (o.same c) = t.pieces o := by
    funext cs
    rw [Token.pieces_of_literal? of]
    cases cs <;> rfl
  cases t with
  | param p => exact denotes_param h p
  | plus => exact denotes_cons h (denotes_onceOrMore o _)
  | star => exact denotes_cons h (denotes_anyNumber o _)
  | slash => exact literal rfl ▸ denotes_cons h (denotes_literal o _ '/')
  | dot => exact literal rfl ▸ denotes_cons h (denotes_literal o _ '.')
  | char c => exact literal rfl ▸ denotes_cons h (denotes_literal o _ c)
  | slashGroup | escape | special | group | charClass => cases ht

/-- The pieces of tokens in a row. -/
def piecesOf (o : MatchOptions) : List Token → Pieces
  | [] => nothing
  | t :: ts => andThen (t.pieces o) (piecesOf o ts)

/-- The expressions of plain tokens follow the pieces of these tokens. -/
theorem denotes_exprsOf {ts : List Token} (plain : ts.all Token.isPlain = true)
    (h : Denotes (flagsOf o) slot count room (sequenceOfItems before) q) :
    Denotes (flagsOf o) slot (count + Token.slotsOf ts) (room + 24064 * weightOf ts)
      (sequenceOfItems (Token.exprsOf (slot + count) ts ++ before)) (andThen q (piecesOf o ts)) := by
  induction ts generalizing count room before q with
  | nil =>
    rw [piecesOf, andThen_nothing]
    exact h
  | cons t ts ih =>
    simp only [List.all_cons, Bool.and_eq_true] at plain
    have later := ih plain.2 (denotes_exprs h plain.1)
    rw [andThen_assoc, ← List.append_assoc, Nat.add_assoc room, ← Nat.mul_add] at later
    simpa [Token.exprsOf, Token.slotsOf, weightOf, piecesOf, Nat.add_assoc] using later

end

end Pattern

end Routing
