import Routing.Regex.Reader

/-!
# Reading part by part

No reader leaves more than it was given, so that reading an expression is a run of parts, each of
which takes a character or more.

* `Reader.length_readPart`: a part leaves no more than what stood behind its first character
* `Reader.Reads`: the runs of the reader
* `Expr.read_eq_ok_iff`: an expression is read if a run leads through the whole text
-/
namespace Routing.Regex

namespace Reader

/-! ## What is left -/

@[grind! .]
theorem length_skipExtended (inComment : Bool) (cs : List Char) :
    (skipExtended inComment cs).length ≤ cs.length := by
  fun_induction skipExtended inComment cs <;> grind

@[grind! .]
theorem length_skipBlanks (extended : Bool) (cs : List Char) :
    (skipBlanks extended cs).length ≤ cs.length := by
  grind [skipBlanks]

@[grind! .]
theorem length_digits (extended inComment : Bool) (cs : List Char) :
    (digits extended inComment cs).2.length ≤ cs.length := by
  fun_induction digits extended inComment cs <;> grind

@[grind! .]
theorem length_dropWhile (p : Char → Bool) (cs : List Char) : (cs.dropWhile p).length ≤ cs.length :=
  (List.dropWhile_suffix p).length_le

@[grind! .]
theorem length_decimal (extended : Bool) (cs : List Char) :
    (decimal extended cs).2.length ≤ cs.length := by
  have before := length_dropWhile isBlank cs
  have digits := length_digits extended false (cs.dropWhile isBlank)
  have behind := length_dropWhile isBlank (Reader.digits extended false (cs.dropWhile isBlank)).2
  exact Nat.le_trans behind (Nat.le_trans digits before)

@[grind →]
theorem length_hexFixed {extended : Bool} {n : Nat} {before values : List Nat}
    {cs after : List Char} (h : hexFixed extended n before cs = .ok (values, after)) :
    after.length ≤ cs.length := by
  fun_induction hexFixed extended n before cs <;> grind

@[grind →]
theorem length_hexBraced {extended : Bool} {fuel : Nat} {before values : List Nat}
    {cs after : List Char} (h : hexBraced extended fuel before cs = .ok (values, after)) :
    after.length ≤ cs.length := by
  fun_induction hexBraced extended fuel before cs <;> grind

@[grind →]
theorem length_hexLiteral {extended : Bool} {width : Nat} {cs after : List Char} {p : Primitive}
    (h : hexLiteral extended width cs = .ok (p, after)) : after.length ≤ cs.length := by
  unfold hexLiteral at h
  grind

@[grind →]
theorem length_propertyText {extended : Bool} {fuel : Nat} {cs name after : List Char}
    (h : propertyText extended fuel cs = .ok (name, after)) : after.length ≤ cs.length := by
  fun_induction propertyText extended fuel cs generalizing name <;> grind

@[grind →]
theorem length_propertyEscape {extended negated : Bool} {cs after : List Char} {p : Primitive}
    (h : propertyEscape extended negated cs = .ok (p, after)) : after.length ≤ cs.length := by
  unfold propertyEscape at h
  grind

@[grind! .]
theorem length_boundaryName (extended : Bool) (fuel : Nat) (cs : List Char) :
    (boundaryName extended fuel cs).2.length ≤ cs.length := by
  fun_induction boundaryName extended fuel cs <;> grind

@[grind →]
theorem length_boundary {extended : Bool} {cs after : List Char} {p : Primitive}
    (h : boundary extended cs = .ok (p, after)) : after.length ≤ cs.length := by
  unfold boundary at h
  grind

@[grind →]
theorem length_escape {extended : Bool} {cs after : List Char} {p : Primitive}
    (h : escape extended cs = .ok (p, after)) : after.length ≤ cs.length := by
  unfold escape at h
  grind

/-- A class of ASCII characters, read from its name on. -/
def asciiNamed? (negated : Bool) (body : List Char) : Option (ClassExpr × List Char) :=
  match body.dropWhile (· != ':') with
  | ':' :: ']' :: after =>
    (asciiKindOfName? (body.takeWhile (· != ':'))).map fun kind => (.ascii negated kind, after)
  | _ => none

theorem asciiClass?_plain {body : List Char} (h : body.head? ≠ some '^') :
    asciiClass? (':' :: body) = asciiNamed? false body := by
  cases body with
  | nil => rfl
  | cons c rest =>
    have other : c ≠ '^' := by simpa using h
    unfold asciiClass?
    simp only [List.cons.injEq, other, false_and, imp_false, not_false_eq_true, implies_true]
    rfl

@[grind →]
theorem length_asciiClass? {cs after : List Char} {item : ClassExpr}
    (h : asciiClass? cs = some (item, after)) : after.length ≤ cs.length := by
  unfold asciiClass? at h
  grind [Option.map_eq_some_iff]

@[grind →]
theorem length_openingHyphens {extended : Bool} {fuel : Nat} {before items : List ClassExpr}
    {cs after : List Char} (h : openingHyphens extended fuel before cs = .ok (items, after)) :
    after.length ≤ cs.length := by
  fun_induction openingHyphens extended fuel before cs <;> grind

@[grind →]
theorem length_openClass {extended : Bool} {cs after : List Char} {front : Bool × List ClassExpr}
    (h : openClass extended cs = .ok (front, after)) : after.length ≤ cs.length := by
  unfold openClass at h
  grind

@[grind →]
theorem length_classPrimitive {extended : Bool} {cs after : List Char} {p : Primitive}
    (h : classPrimitive extended cs = .ok (p, after)) : after.length < cs.length := by
  unfold classPrimitive at h
  grind

@[grind →]
theorem length_classItem {extended : Bool} {cs after : List Char} {item : ClassExpr}
    (h : classItem extended cs = .ok (item, after)) : after.length ≤ cs.length := by
  unfold classItem at h
  split at h
  · cases h
  · split at h
    · cases h
    · dsimp only at h
      split at h <;> grind

@[grind →]
theorem length_setOp? {cs after : List Char} {kind : SetOp} (h : setOp? cs = some (kind, after)) :
    after.length ≤ cs.length := by
  unfold setOp? at h
  grind

theorem length_classRest {extended : Bool} {fuel : Nat} {frames : List ClassFrame}
    {items : List ClassExpr} {cs after : List Char} {result : Bool × ClassExpr}
    (h : classRest extended fuel frames items cs = .ok (result, after)) :
    after.length ≤ cs.length := by
  fun_induction classRest extended fuel frames items cs <;> grind

@[grind →]
theorem length_classBody {extended : Bool} {cs after : List Char} {result : Bool × ClassExpr}
    (h : classBody extended cs = .ok (result, after)) : after.length ≤ cs.length := by
  unfold classBody at h
  split at h
  · cases h
  · rename_i opened
    exact Nat.le_trans (length_classRest h) (length_openClass opened)

@[grind →]
theorem length_flagItems {before items : List FlagItem} {cs after : List Char}
    (h : flagItems before cs = .ok (items, after)) : after.length ≤ cs.length := by
  fun_induction flagItems before cs <;> grind

@[grind →]
theorem length_nameRest {cs name after : List Char} (h : nameRest cs = .ok (name, after)) :
    after.length ≤ cs.length := by
  fun_induction nameRest cs generalizing name <;> grind

@[grind →]
theorem length_groupName {cs after : List Char} {name : String}
    (h : groupName cs = .ok (name, after)) : after.length ≤ cs.length := by
  unfold groupName at h
  grind

@[grind →]
theorem length_groupOpening {cs after : List Char} {o : Opening}
    (h : groupOpening cs = .ok (o, after)) : after.length ≤ cs.length := by
  unfold groupOpening at h
  grind

@[grind →]
theorem length_readBounds {extended : Bool} {cs after : List Char} {bounds : Nat × Option Nat}
    (h : readBounds extended cs = .ok (bounds, after)) : after.length ≤ cs.length := by
  unfold readBounds at h
  grind

@[grind →]
theorem length_readOpening {s s' : State} {cs after : List Char}
    (h : readOpening s cs = .ok (s', after)) : after.length ≤ cs.length := by
  unfold readOpening at h
  grind

@[grind →]
theorem length_readClosing {s s' : State} {cs after : List Char}
    (h : readClosing s cs = .ok (s', after)) : after.length ≤ cs.length := by
  unfold readClosing at h
  grind

@[grind →]
theorem length_readRepetition {s s' : State} {least : Nat} {most : Option Nat}
    {cs after : List Char} (h : readRepetition s least most cs = .ok (s', after)) :
    after.length ≤ cs.length := by
  unfold readRepetition at h
  grind

@[grind →]
theorem length_readCounted {s s' : State} {cs after : List Char}
    (h : readCounted s cs = .ok (s', after)) : after.length ≤ cs.length := by
  unfold readCounted at h
  grind

/-- A part leaves no more than what stands behind its first character. -/
theorem length_readPart {s s' : State} {c : Char} {rest after : List Char}
    (h : readPart s c rest = .ok (s', after)) : after.length ≤ rest.length := by
  unfold readPart at h
  grind

/-! ## Fronts -/

theorem skipBlanks_cons {c : Char} (blank : isBlank c = false) (plain : c ≠ '#') (extended : Bool)
    (rest : List Char) : skipBlanks extended (c :: rest) = c :: rest := by
  cases extended <;> simp [skipBlanks, skipExtended, blank, plain]

/-- What opens a group by flags is neither a name nor a look around. -/
theorem groupOpening_of_flag {c : Char} {rest : List Char} (hc : c ∉ ['P', '<', '=', '!']) :
    groupOpening ('?' :: c :: rest) =
      match flagItems [] (c :: rest) with
      | .error e => .error e
      | .ok (items, ')' :: after) =>
        if items.isEmpty then .error .repetitionMissing else .ok (.settings items, after)
      | .ok (items, after) => .ok (.plain items, after.drop 1) := by
  unfold groupOpening
  split <;> grind

/-! ## Runs -/

/-- The runs of the reader: part after part from one state to another, and what is left of the
text. -/
inductive Reads : State → List Char → State → List Char → Prop where
  | here (s : State) (cs : List Char) : Reads s cs s cs
  | part {s t u : State} {c : Char} {cs rest after left : List Char}
      (front : skipBlanks s.extended cs = c :: rest) (read : readPart s c rest = .ok (t, after))
      (further : Reads t after u left) : Reads s cs u left

theorem Reads.trans {s t u : State} {cs mid left : List Char} (h : Reads s cs t mid)
    (h' : Reads t mid u left) : Reads s cs u left := by
  induction h with
  | here => exact h'
  | part front read _ ih => exact .part front read (ih h')

/-- One part outside of extended mode, where nothing is skipped. -/
theorem Reads.one {s t : State} {c : Char} {rest after : List Char} (plain : s.extended = false)
    (read : readPart s c rest = .ok (t, after)) : Reads s (c :: rest) t after :=
  .part (by rw [plain]; rfl) read (.here t after)

theorem reads_of_readAll {fuel : Nat} {s : State} {cs : List Char} {e : Expr}
    (enough : cs.length < fuel) (h : readAll fuel s cs = .ok e) :
    ∃ t left, Reads s cs t left ∧ skipBlanks t.extended left = [] ∧ finish t = .ok e := by
  induction fuel generalizing s cs with
  | zero => omega
  | succ fuel ih =>
    rw [readAll] at h
    split at h
    · rename_i blank
      exact ⟨s, cs, .here s cs, blank, h⟩
    · rename_i c rest front
      split at h
      · cases h
      · rename_i t after read
        have shorter := length_readPart read
        have within := length_skipBlanks s.extended cs
        rw [front, List.length_cons] at within
        obtain ⟨u, left, further, blank, whole⟩ := ih (by omega) h
        exact ⟨u, left, .part front read further, blank, whole⟩

theorem Reads.readAll_eq {s t : State} {cs left : List Char} (h : Reads s cs t left)
    (blank : skipBlanks t.extended left = []) {fuel : Nat} (enough : cs.length < fuel) :
    readAll fuel s cs = finish t := by
  induction h generalizing fuel with
  | here s cs =>
    cases fuel with
    | zero => omega
    | succ fuel => rw [readAll, blank]
  | @part s t u c cs rest after left front read _ ih =>
    cases fuel with
    | zero => omega
    | succ fuel =>
      have shorter := length_readPart read
      have within := length_skipBlanks s.extended cs
      rw [front, List.length_cons] at within
      rw [readAll, front]
      simp only [read]
      exact ih blank (by omega)

/-- A part that cannot be read is the end of it. -/
theorem Reads.readAll_error {s t : State} {c : Char} {cs left rest : List Char} {e : RegexError}
    (h : Reads s cs t left) (front : skipBlanks t.extended left = c :: rest)
    (failed : readPart t c rest = .error e) {fuel : Nat} (enough : cs.length < fuel) :
    readAll fuel s cs = .error e := by
  induction h generalizing fuel with
  | here s cs =>
    cases fuel with
    | zero => omega
    | succ fuel => simp only [readAll, front, failed]
  | @part s t u c cs rest after left front' read _ ih =>
    cases fuel with
    | zero => omega
    | succ fuel =>
      have shorter := length_readPart read
      have within := length_skipBlanks s.extended cs
      rw [front', List.length_cons] at within
      rw [readAll, front']
      simp only [read]
      exact ih front failed (by omega)

end Reader

/-- An expression is read from a text exactly if a run of the reader leads through the whole text to a
state that stands for the expression. -/
theorem Expr.read_eq_ok_iff {text : List Char} {e : Expr} :
    Expr.read text = .ok e ↔ ∃ s left, Reader.Reads {} text s left ∧
      Reader.skipBlanks s.extended left = [] ∧ Reader.finish s = .ok e := by
  constructor
  · exact Reader.reads_of_readAll (Nat.lt_succ_self _)
  · rintro ⟨s, left, run, blank, whole⟩
    rw [Expr.read, run.readAll_eq blank (Nat.lt_succ_self _), whole]

end Routing.Regex
