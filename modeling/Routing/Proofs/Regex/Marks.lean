import Routing.Proofs.Regex.Groups
import Routing.Proofs.Regex.Reading
import Routing.Proofs.Unicode.Named

/-!
# What a reader has met

Settings of flags, groups and properties leave marks in an expression. The reader keeps what it has met:
a mark is in its state from the part on that left it, and in the expression in the end.

* `Expr.marks`: the settings, groups and properties of an expression
* `Reader.marks_of_reads`, `Reader.marks_of_finish`: what was met once stays
* `Expr.groupNames`: the names of all capture groups
* `Expr.isCompact`: nowhere may blanks be left out
* `Expr.isPlain_of_lower`: the properties of an expression that can be lowered are known
-/
namespace Routing.Regex

open Routing.Unicode

inductive Mark where
  | settings (items : List FlagItem)
  | group (kind : GroupKind)
  | property (query : PropertyQuery)
  deriving DecidableEq, Repr

def ClassExpr.marks : ClassExpr → List Mark
  | property _ query => [.property query]
  | bracketed _ inner => inner.marks
  | union a b | op _ a b => a.marks ++ b.marks
  | _ => []

def Expr.marks : Expr → List Mark
  | flags items => [.settings items]
  | property _ query => [.property query]
  | bracketed _ inner => inner.marks
  | repetition _ _ _ a => a.marks
  | group kind a => .group kind :: a.marks
  | alternation a b | sequence a b => a.marks ++ b.marks
  | _ => []

namespace Reader

variable {m : Mark}

/-! ## Classes -/

def Primitive.marks (p : Primitive) : List Mark :=
  p.toExpr.marks

def itemMarks : List ClassExpr → List Mark
  | [] => []
  | item :: before => item.marks ++ itemMarks before

/-- What is still open of a class. Before its outermost bracket there is nothing of the class. -/
def openMarks : List ClassFrame → List Mark
  | [] | [.bracket ..] => []
  | .bracket before _ :: frames => itemMarks before ++ openMarks frames
  | .op _ left :: frames => left.marks ++ openMarks frames

theorem mem_marks_unionOfItems (items : List ClassExpr) :
    m ∈ (unionOfItems items).marks ↔ m ∈ itemMarks items := by
  fun_induction unionOfItems items <;> simp_all [itemMarks, ClassExpr.marks, or_comm]

theorem openMarks_bracket {frames : List ClassFrame} (opened : frames ≠ []) (before : List ClassExpr)
    (negated : Bool) : openMarks (.bracket before negated :: frames) =
      itemMarks before ++ openMarks frames := by
  cases frames with
  | nil => exact absurd rfl opened
  | cons f frames => rfl

theorem mem_openMarks_closeOp {frames frames' : List ClassFrame} {right inner : ClassExpr}
    (h : closeOp frames right = (frames', inner)) (hm : m ∈ openMarks frames ∨ m ∈ right.marks) :
    m ∈ openMarks frames' ∨ m ∈ inner.marks := by
  unfold closeOp at h
  split at h
  · cases h
    simpa [openMarks, ClassExpr.marks, or_assoc, or_comm, or_left_comm] using hm
  · cases h
    exact hm

theorem marks_of_toClassItem {p : Primitive} {item : ClassExpr} (h : p.toClassItem = .ok item) :
    item.marks = p.marks := by
  cases p <;> cases h <;> rfl

theorem marks_of_toRangeEnd {p : Primitive} {l : Literal} (h : p.toRangeEnd = .ok l) :
    p.marks = [] := by
  cases p with
  | literal l => rfl
  | _ => cases h

/-- What is open and what was read of a class, the class has in the end. -/
theorem marks_of_classRest {extended : Bool} {fuel : Nat} {frames : List ClassFrame}
    {items : List ClassExpr} {cs after : List Char} {result : Bool × ClassExpr} (opened : frames ≠ [])
    (h : classRest extended fuel frames items cs = .ok (result, after))
    (hm : m ∈ openMarks frames ∨ m ∈ itemMarks items) : m ∈ result.2.marks := by
  fun_induction classRest extended fuel frames items cs <;>
    grind [openMarks, itemMarks, ClassExpr.marks, → mem_openMarks_closeOp, mem_marks_unionOfItems,
      openMarks_bracket, List.isEmpty_iff]

/-! ## The state -/

def exprMarks : List Expr → List Mark
  | [] => []
  | e :: before => e.marks ++ exprMarks before

def Level.marks (l : Level) : List Mark :=
  exprMarks l.branches ++ exprMarks l.items

def groupMarks : List OpenGroup → List Mark
  | [] => []
  | g :: outer => .group g.kind :: g.outer.marks ++ groupMarks outer

def State.marks (s : State) : List Mark :=
  s.level.marks ++ groupMarks s.groups

theorem mem_marks_sequenceOfItems (items : List Expr) :
    m ∈ (sequenceOfItems items).marks ↔ m ∈ exprMarks items := by
  fun_induction sequenceOfItems items <;> grind [exprMarks, Expr.marks]

theorem mem_marks_alternationOfBranches (branches : List Expr) :
    m ∈ (alternationOfBranches branches).marks ↔ m ∈ exprMarks branches := by
  fun_induction alternationOfBranches branches <;> grind [exprMarks, Expr.marks]

namespace Level

theorem mem_marks_toExpr (l : Level) : m ∈ l.toExpr.marks ↔ m ∈ l.marks := by
  rw [toExpr, mem_marks_alternationOfBranches, exprMarks, List.mem_append, mem_marks_sequenceOfItems,
    marks, List.mem_append, or_comm]

theorem mem_marks_push (l : Level) (e : Expr) : m ∈ (l.push e).marks ↔ m ∈ e.marks ∨ m ∈ l.marks := by
  simp only [push, marks, exprMarks, List.mem_append, or_left_comm]

theorem mem_marks_branch (l : Level) : m ∈ l.branch.marks ↔ m ∈ l.marks := by
  simp only [branch, marks, exprMarks, List.append_nil, List.mem_append, mem_marks_sequenceOfItems,
    or_comm]

theorem mem_marks_of_popOperand {l l' : Level} {e : Expr} (h : l.popOperand = .ok (e, l')) :
    m ∈ l.marks ↔ m ∈ e.marks ∨ m ∈ l'.marks := by
  unfold popOperand at h
  split at h
  · cases h
  · cases h
  · cases h
  · rename_i before _ _ same
    cases h
    simp only [marks, same, exprMarks, List.mem_append, or_left_comm]

end Level

variable {s t : State} {cs after : List Char}

theorem mem_marks_push (e : Expr) : m ∈ (s.push e).marks ↔ m ∈ e.marks ∨ m ∈ s.marks := by
  simp only [State.push, State.marks, List.mem_append, Level.mem_marks_push, or_assoc]

theorem mem_marks_openGroup (kind : GroupKind) (extended : Bool) :
    m ∈ (s.openGroup kind extended).marks ↔ m = .group kind ∨ m ∈ s.marks := by
  simp [State.openGroup, State.marks, Level.marks, exprMarks, groupMarks]

/-- A repetition takes the place of the operand that was taken off for it. -/
theorem mem_marks_repetition {operand : Expr} {level : Level} {least : Nat} {most : Option Nat}
    {greedy : Bool} (popped : s.level.popOperand = .ok (operand, level)) :
    m ∈ { s with level := level.push (.repetition least most greedy operand) }.marks ↔ m ∈ s.marks := by
  simp only [State.marks, List.mem_append, Level.mem_marks_push, Level.mem_marks_of_popOperand popped,
    Expr.marks]

theorem marks_of_readOpening (h : readOpening s cs = .ok (t, after)) (hm : m ∈ s.marks) :
    m ∈ t.marks := by
  unfold readOpening at h
  split at h
  · cases h
  · cases h
    exact (mem_marks_push _).2 (.inr hm)
  · cases h
    exact (mem_marks_openGroup _ _).2 (.inr hm)
  · cases h
    exact (mem_marks_openGroup _ _).2 (.inr hm)
  · split at h
    · cases h
    · cases h
      exact (mem_marks_openGroup _ _).2 (.inr hm)

theorem marks_of_readClosing (h : readClosing s cs = .ok (t, after)) (hm : m ∈ s.marks) :
    m ∈ t.marks := by
  unfold readClosing at h
  split at h
  · cases h
  · rename_i g groups same
    cases h
    simp only [State.marks, List.mem_append, Level.mem_marks_push, Expr.marks, List.mem_cons,
      Level.mem_marks_toExpr, same, groupMarks] at hm ⊢
    tauto

theorem marks_of_readRepetition {least : Nat} {most : Option Nat}
    (h : readRepetition s least most cs = .ok (t, after)) (hm : m ∈ s.marks) : m ∈ t.marks := by
  unfold readRepetition at h
  split at h
  · cases h
  · rename_i operand level popped
    cases h
    exact (mem_marks_repetition popped).2 hm

theorem marks_of_readCounted (h : readCounted s cs = .ok (t, after)) (hm : m ∈ s.marks) :
    m ∈ t.marks := by
  unfold readCounted at h
  split at h
  · cases h
  · rename_i operand level popped
    have held {least : Nat} {most : Option Nat} {greedy : Bool} :
        m ∈ { s with level := level.push (.repetition least most greedy operand) }.marks :=
      (mem_marks_repetition popped).2 hm
    grind

/-- Reading goes on with all that was met. -/
theorem marks_of_readPart {c : Char} (h : readPart s c cs = .ok (t, after)) (hm : m ∈ s.marks) :
    m ∈ t.marks := by
  have pushed (e : Expr) : m ∈ (s.push e).marks := (mem_marks_push e).2 (.inr hm)
  unfold readPart at h
  split at h
  · exact marks_of_readOpening h hm
  · exact marks_of_readClosing h hm
  · cases h
    simpa only [State.marks, List.mem_append, Level.mem_marks_branch] using hm
  · split at h
    · cases h
    · cases h
      exact pushed _
  · exact marks_of_readRepetition h hm
  · exact marks_of_readRepetition h hm
  · exact marks_of_readRepetition h hm
  · exact marks_of_readCounted h hm
  · split at h
    · cases h
    · cases h
      exact pushed _
  all_goals
    cases h
    exact pushed _

theorem marks_of_finish {e : Expr} (h : finish s = .ok e) (hm : m ∈ s.marks) : m ∈ e.marks := by
  unfold finish at h
  split at h
  · cases h
  · rename_i closed
    dsimp only at h
    split at h
    · cases h
      simpa [State.marks, closed, groupMarks, Level.mem_marks_toExpr] using hm
    · cases h

/-- What was met once stays. -/
theorem marks_of_reads {left : List Char} (h : Reads s cs t left) (hm : m ∈ s.marks) :
    m ∈ t.marks := by
  induction h with
  | here => exact hm
  | part _ read _ ih => exact ih (marks_of_readPart read hm)

end Reader

/-! ## Groups -/

/-- The name that a mark gives to a capture group. -/
def Mark.name? : Mark → Option String
  | group (.capture _ name) => name
  | _ => none

namespace Expr

/-- The names of all capture groups. -/
def groupNames (e : Expr) : List String :=
  e.marks.filterMap Mark.name?

/-- No part is repeated no times. -/
def dropsNothing : Expr → Bool
  | repetition least most _ a => !(least == 0 && most == some 0) && a.dropsNothing
  | group _ a => a.dropsNothing
  | alternation a b | sequence a b => a.dropsNothing && b.dropsNothing
  | _ => true

theorem groupNames_bracketed (negated : Bool) (inner : ClassExpr) :
    (bracketed negated inner).groupNames = [] := by
  have nameless : inner.marks.filterMap Mark.name? = [] := by
    induction inner with
    | union a b ihA ihB | op _ a b ihA ihB =>
      rw [ClassExpr.marks, List.filterMap_append, ihA, ihB, List.nil_append]
    | bracketed _ inner ih => exact ih
    | _ => rfl
  exact nameless

/-- Where nothing is dropped, all capture groups are left. -/
theorem captures_eq_groupNames {e : Expr} (h : e.dropsNothing = true) : e.captures = e.groupNames := by
  induction e with
  | repetition least most greedy a ih =>
    simp only [dropsNothing, Bool.and_eq_true, Bool.not_eq_true', Bool.and_eq_false_iff,
      beq_eq_false_iff_ne] at h
    rw [captures, if_neg (by tauto), ih h.2]
    rfl
  | group kind a ih =>
    rw [dropsNothing] at h
    cases kind with
    | capture index name =>
      rw [captures, ih h]
      cases name <;> rfl
    | plain items => exact ih h
  | alternation a b ihA ihB | sequence a b ihA ihB =>
    obtain ⟨hA, hB⟩ := Bool.and_eq_true_iff.1 h
    rw [captures, ihA hA, ihB hB]
    exact (List.filterMap_append ..).symm
  | bracketed negated inner => exact (groupNames_bracketed negated inner).symm
  | _ => rfl

end Expr

/-! ## Flags -/

/-- The items do not turn on the mode in which blanks are left out. -/
def FlagItem.keepsCompact (items : List FlagItem) : Bool :=
  setting? .extended items true != some true

def Mark.isCompact : Mark → Bool
  | settings items | group (.plain items) => FlagItem.keepsCompact items
  | _ => true

/-- Blanks and comments may be left out nowhere in the expression. -/
def Expr.isCompact (e : Expr) : Bool :=
  e.marks.all Mark.isCompact

namespace Reader

/-- The reader is in compact mode, and returns to it from every open group. -/
def State.IsCompact (s : State) : Prop :=
  s.extended = false ∧ ∀ g ∈ s.groups, g.extended = false

theorem State.extendedAfter_eq_false {s : State} {items : List FlagItem} (compact : s.IsCompact)
    (kept : FlagItem.keepsCompact items = true) : s.extendedAfter items = false := by
  rw [FlagItem.keepsCompact, bne_iff_ne] at kept
  unfold State.extendedAfter
  cases h : FlagItem.setting? .extended items true with
  | none => exact compact.1
  | some on =>
    cases on with
    | false => rfl
    | true => exact absurd h kept

theorem State.IsCompact.openGroup {s : State} {kind : GroupKind} {extended : Bool}
    (compact : s.IsCompact) (plain : extended = false) : (s.openGroup kind extended).IsCompact := by
  refine ⟨plain, fun g hg => ?_⟩
  rcases List.mem_cons.1 hg with rfl | hg
  · exact compact.1
  · exact compact.2 g hg

theorem level_of_readRepetition {s t : State} {least : Nat} {most : Option Nat}
    {cs after : List Char} (h : readRepetition s least most cs = .ok (t, after)) :
    ∃ level, t = { s with level := level } := by
  unfold readRepetition at h
  split at h
  · cases h
  · cases h
    exact ⟨_, rfl⟩

theorem level_of_readCounted {s t : State} {cs after : List Char}
    (h : readCounted s cs = .ok (t, after)) : ∃ level, t = { s with level := level } := by
  unfold readCounted at h
  grind

/-- A part that leaves no mark of another mode leaves the reader in compact mode. -/
theorem isCompact_of_readPart {s t : State} {c : Char} {cs after : List Char} (compact : s.IsCompact)
    (h : readPart s c cs = .ok (t, after)) (marks : ∀ m ∈ t.marks, m.isCompact = true) :
    t.IsCompact := by
  unfold readPart at h
  split at h
  · unfold readOpening at h
    split at h
    · cases h
    · rename_i items after _
      cases h
      have kept := marks (.settings items) ((mem_marks_push _).2 (.inl List.mem_cons_self))
      exact ⟨State.extendedAfter_eq_false compact kept, compact.2⟩
    · rename_i items after _
      cases h
      have kept := marks (.group (.plain items)) ((mem_marks_openGroup _ _).2 (.inl rfl))
      exact compact.openGroup (State.extendedAfter_eq_false compact kept)
    · cases h
      exact compact.openGroup compact.1
    · split at h
      · cases h
      · cases h
        exact compact.openGroup compact.1
  · unfold readClosing at h
    split at h
    · cases h
    · rename_i g groups same
      cases h
      rw [State.IsCompact, same] at compact
      exact ⟨compact.2 g List.mem_cons_self, fun g' hg' => compact.2 g' (List.mem_cons_of_mem _ hg')⟩
  · cases h
    exact compact
  · split at h
    · cases h
    · cases h
      exact compact
  · obtain ⟨level, rfl⟩ := level_of_readRepetition h
    exact compact
  · obtain ⟨level, rfl⟩ := level_of_readRepetition h
    exact compact
  · obtain ⟨level, rfl⟩ := level_of_readRepetition h
    exact compact
  · obtain ⟨level, rfl⟩ := level_of_readCounted h
    exact compact
  · split at h
    · cases h
    · cases h
      exact compact
  all_goals
    cases h
    exact compact

end Reader

/-! ## Properties -/

theorem isPlain_of_lowerProperty {f : Flags} {negated : Bool} {query : PropertyQuery} {s : CharSet}
    (h : lowerProperty f negated query = .ok s) : query.isPlain = true := by
  unfold lowerProperty at h
  split at h
  · split at h
    · rename_i set found
      exact query.isPlain_of_resolve found
    · cases h
    · cases h
  · cases h

theorem ClassExpr.isPlain_of_lower {c : ClassExpr} {f : Flags} {s : CharSet} (h : c.lower f = .ok s)
    {query : PropertyQuery} (hq : .property query ∈ c.marks) : query.isPlain = true := by
  induction c generalizing s with
  | property negated q =>
    obtain rfl : query = q := by simpa [marks] using hq
    exact isPlain_of_lowerProperty h
  | bracketed negated inner ih =>
    obtain ⟨s, lowered, -⟩ := exists_of_bind h
    exact ih lowered hq
  | union a b ihA ihB | op kind a b ihA ihB =>
    obtain ⟨sa, loweredA, h⟩ := exists_of_bind h
    obtain ⟨sb, loweredB, -⟩ := exists_of_bind h
    exact (List.mem_append.1 hq).elim (ihA loweredA) (ihB loweredB)
  | _ => cases hq

/-- The properties of an expression that can be lowered are known, and known properties have plain
names. -/
theorem Expr.isPlain_of_lower {e : Expr} {f f' : Flags} {a : Node} (h : e.lower f = .ok (a, f'))
    {query : PropertyQuery} (hq : .property query ∈ e.marks) : query.isPlain = true := by
  induction e generalizing f f' a with
  | property negated q =>
    obtain ⟨s, lowered, -⟩ := exists_of_bind h
    obtain rfl : query = q := by simpa [marks] using hq
    exact isPlain_of_lowerProperty lowered
  | bracketed negated inner =>
    obtain ⟨s, lowered, -⟩ := exists_of_bind h
    exact inner.isPlain_of_lower lowered hq
  | repetition least most greedy b ih =>
    obtain ⟨lowered, inner, -⟩ := exists_of_bind h
    exact ih inner hq
  | group kind b ih =>
    have inside : .property query ∈ b.marks := by simpa [marks] using hq
    cases kind with
    | capture index name | plain items =>
      obtain ⟨lowered, inner, -⟩ := exists_of_bind h
      exact ih inner inside
  | alternation a b ihA ihB | sequence a b ihA ihB =>
    obtain ⟨loweredA, first, h⟩ := exists_of_bind h
    obtain ⟨loweredB, second, -⟩ := exists_of_bind h
    exact (List.mem_append.1 hq).elim (ihA first) (ihB second)
  | flags items => simp [marks] at hq
  | _ => cases hq

end Routing.Regex
