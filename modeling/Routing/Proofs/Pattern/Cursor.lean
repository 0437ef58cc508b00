import Routing.Pattern.Expansion
import Routing.Proofs.Loops
import Routing.Proofs.Pattern.Tokens

/-!
# A pattern text read by positions

The text of a pattern can be read through positions in it, where each loop goes on from the position that the one
before came to. An escape takes two positions, also where the text ends behind the backslash, so a position may be one
beyond the end.

* `Cursor.read`, `Cursor.cut`, `Cursor.minus`: what is checked
* `Cursor.nameRound`, `Cursor.closingRound`, `Cursor.classRound`: the scans of names, captures and classes
* `Cursor.paramAt`: the parameter at a position
* `Cursor.nameRound_forward`, `Cursor.closingRound_forward`, `Cursor.classRound_forward`: each round of a scan goes
  forward, and the scan finds what a reader of the rest of the text finds
* `Cursor.exists_paramAt`: so does the reading of a parameter
-/
namespace Routing.Pattern.Cursor

/-! ## Checks -/

/-- The character at a position, which has to be in the text. -/
def read (cs : List Char) (i : Nat) : Checked Char :=
  match cs[i]? with
  | some c => .ok c
  | none => .error (.place i)

/-- The part of the text from one position to another. -/
def cut (cs : List Char) (i j : Nat) : Checked (List Char) :=
  if i ≤ j ∧ j ≤ cs.length then .ok ((cs.drop i).take (j - i)) else .error (.part i j)

def minus (a b : Nat) : Checked Nat :=
  if b ≤ a then .ok (a - b) else .error .shortage

/-! ## Loops -/

/-- Passes a character of a name. -/
def nameRound (cs : List Char) (i : Nat) : Checked (Onward Nat Nat) :=
  match cs[i]? with
  | some c => if isNameChar c then .ok (.again (i + 1)) else .ok (.leave i)
  | none => .ok (.leave i)

/-- Where the scan of a capture stands. `depth` counts the groups that are open. -/
structure Closing where
  position : Nat
  depth : Nat := 0
  inClass : Bool := false
  deriving DecidableEq, Repr

/-- Passes a character of a capture, or leaves at the parenthesis that closes it. -/
def Closing.pass (s : Closing) (c : Char) : Checked (Onward Closing (Option Nat)) :=
  if c = '\\' then return .again { s with position := s.position + 2 }
  else if c = '[' then return .again { s with position := s.position + 1, inClass := true }
  else if c = ']' then return .again { s with position := s.position + 1, inClass := false }
  else if c = '(' ∧ s.inClass = false then
    return .again { s with position := s.position + 1, depth := s.depth + 1 }
  else if c = ')' ∧ s.inClass = false then do
    let depth ← minus s.depth 1
    if depth = 0 then return .leave (some s.position)
    else return .again { s with position := s.position + 1, depth }
  else return .again { s with position := s.position + 1 }

def closingRound (cs : List Char) (s : Closing) : Checked (Onward Closing (Option Nat)) :=
  if s.position < cs.length then do
    let c ← read cs s.position
    s.pass c
  else return .leave none

/-- Where the copy of a class stands, and what was written. -/
structure Copying where
  position : Nat
  out : List Char
  deriving DecidableEq, Repr

/-- Copies a character of a class, an escape with the `next` one. The bracket that closes the class stands behind
the `first` position. -/
def Copying.pass (s : Copying) (first : Nat) (c : Char) (next : Option Char) : Checked (Onward Copying Copying) :=
  if c = '\\' then return .again ⟨s.position + 2, s.out ++ c :: next.toList⟩
  else if c = ']' then do
    let last ← minus (s.position + 1) 1
    if first < last then return .leave ⟨s.position + 1, s.out ++ [c]⟩
    else return .again ⟨s.position + 1, s.out ++ [c]⟩
  else return .again ⟨s.position + 1, s.out ++ [c]⟩

def classRound (cs : List Char) (first : Nat) (s : Copying) : Checked (Onward Copying Copying) :=
  if s.position < cs.length then do
    let c ← read cs s.position
    s.pass first c cs[s.position + 1]?
  else return .leave s

/-! ## Scans -/

/-- The parenthesis that closes the group which opens at `first`. -/
def closingAt (limit : Nat) (cs : List Char) (first : Nat) : Checked (Option Nat) :=
  loop (closingRound cs) limit { position := first }

/-- Copies the class that opens at `first`. -/
def classAt (limit : Nat) (cs : List Char) (first : Nat) (out : List Char) : Checked Copying :=
  loop (classRound cs first) limit ⟨first, out⟩

/-- Whether `c` stands at the position, and the position behind it. -/
def flagAt (c : Char) (cs : List Char) (i : Nat) : Bool × Nat :=
  if cs[i]? = some c then (true, i + 1) else (false, i)

/-- A capture in parentheses, and the position behind it. -/
def captureAt (limit : Nat) (cs : List Char) (i : Nat) : Checked (Option (List Char) × Nat) :=
  if cs[i]? = some '(' then do
    match ← closingAt limit cs i with
    | some close =>
      let body ← cut cs (i + 1) close
      return (some body, close + 1)
    | none => return (none, i)
  else return (none, i)

/-- A parameter, and the position behind it. -/
def paramAt (limit : Nat) (cs : List Char) (i : Nat) : Checked (Option (ParamToken × Nat)) :=
  let (slash, i) := flagAt '/' cs i
  let (dot, i) := flagAt '.' cs i
  if cs[i]? = some ':' then do
    let stop ← loop (nameRound cs) limit (i + 1)
    if stop = i + 1 then return none
    else
      let name ← cut cs (i + 1) stop
      let (capture, i) ← captureAt limit cs stop
      let (optional, i) := flagAt '?' cs i
      return some (⟨slash, dot, name, capture, optional⟩, i)
  else return none

open Token

variable {cs : List Char} {i limit : Nat} {c : Char}

/-! ## Positions -/

theorem drop_eq_cons (here : cs[i]? = some c) : cs.drop i = c :: cs.drop (i + 1) := by
  obtain ⟨inside, rfl⟩ := List.getElem?_eq_some_iff.1 here
  exact List.drop_eq_getElem_cons inside

theorem lt_length (here : cs[i]? = some c) : i < cs.length :=
  (List.getElem?_eq_some_iff.1 here).1

theorem drop_eq_nil {j : Nat} (beyond : cs[i]? = none) (later : i ≤ j) : cs.drop j = [] :=
  List.drop_eq_nil_iff.2 (Nat.le_trans (List.getElem?_eq_none_iff.1 beyond) later)

theorem read_eq (here : cs[i]? = some c) : read cs i = .ok c := by
  rw [read, here]

theorem cut_eq {j : Nat} (forward : i ≤ j) (inside : j ≤ cs.length) :
    cut cs i j = .ok ((cs.drop i).take (j - i)) :=
  if_pos ⟨forward, inside⟩

theorem flagAt_eq (c : Char) (cs : List Char) (i : Nat) :
    flag c (cs.drop i) = ((flagAt c cs i).1, cs.drop (flagAt c cs i).2) := by
  rw [flagAt]
  split
  · next here => rw [drop_eq_cons here, flag_cons_self]
  · next other => exact flag_of_head_ne (by rwa [List.head?_drop])

theorem le_flagAt (c : Char) (cs : List Char) (i : Nat) : i ≤ (flagAt c cs i).2 := by
  rw [flagAt]
  split
  · exact Nat.le_succ i
  · exact Nat.le_refl i

theorem flagAt_le_length (c : Char) (inside : i ≤ cs.length) : (flagAt c cs i).2 ≤ cs.length := by
  rw [flagAt]
  split
  · next here => exact lt_length here
  · exact inside

/-! ## Names -/

theorem nameRound_forward (cs : List Char) :
    Forward (fun i => i ≤ cs.length) id (cs.length + 1)
      (fun i stop => i ≤ stop ∧ stop ≤ cs.length ∧
        (cs.drop i).takeWhile isNameChar = (cs.drop i).take (stop - i) ∧
          (cs.drop i).dropWhile isNameChar = cs.drop stop) (nameRound cs) := by
  intro i inside
  cases here : cs[i]? with
  | none =>
    have nothing := drop_eq_nil here (Nat.le_refl i)
    exact .inl ⟨i, by rw [nameRound, here], Nat.le_refl i, inside, by simp [nothing]⟩
  | some c =>
    have front := drop_eq_cons here
    by_cases word : isNameChar c = true
    · refine .inr ⟨i + 1, by rw [nameRound, here]; simp [word], lt_length here, Nat.lt_succ_self i,
        Nat.succ_le_succ (Nat.le_of_lt (lt_length here)), ?_⟩
      rintro stop ⟨ahead, within, name, rest⟩
      have width : stop - i = stop - (i + 1) + 1 := by omega
      refine ⟨by omega, within, ?_, ?_⟩
      · rw [front, List.takeWhile_cons_of_pos word, name, width, List.take_succ_cons]
      · rw [front, List.dropWhile_cons_of_pos word, rest]
    · refine .inl ⟨i, by rw [nameRound, here]; simp [word], Nat.le_refl i, inside, ?_, ?_⟩
      · rw [front, List.takeWhile_cons_of_neg word, Nat.sub_self, List.take_zero]
      · rw [front, List.dropWhile_cons_of_neg word]

/-! ## Captures -/

/-- What the scan finds from here on: the parenthesis behind the balanced text that stands here. -/
def Closing.found? (cs : List Char) (s : Closing) : Option Nat :=
  (balanced (s.depth - 1) s.inClass (cs.drop s.position)).map fun found => s.position + found.1.length

/-- One state follows another in a scan: the scan goes forward, and finds the same. -/
structure Closing.Follows (cs : List Char) (s t : Closing) : Prop where
  inside : 1 ≤ t.depth
  ahead : s.position < t.position
  within : t.position ≤ cs.length + 1
  same : t.found? cs = s.found? cs

/-- A character that the scan of a balanced text passes. -/
theorem Closing.Follows.char {d d' : Nat} {k k' : Bool} (here : cs[i]? = some c)
    (passed : ∀ rest, balanced d k (c :: rest) = (balanced d' k' rest).map (prepend [c])) :
    Closing.Follows cs ⟨i, d + 1, k⟩ ⟨i + 1, d' + 1, k'⟩ where
  inside := Nat.le_add_left 1 d'
  ahead := Nat.lt_succ_self i
  within := Nat.succ_le_succ (Nat.le_of_lt (lt_length here))
  same := by
    change (balanced d' k' (cs.drop (i + 1))).map _ = (balanced d k (cs.drop i)).map _
    rw [drop_eq_cons here, passed, Option.map_map]
    congr 1
    funext found
    simp [prepend, Nat.add_assoc, Nat.add_comm 1]

/-- An escape is passed with the character behind it; where there is none, nothing is found. -/
theorem Closing.Follows.escape (d : Nat) (k : Bool) (here : cs[i]? = some '\\') :
    Closing.Follows cs ⟨i, d + 1, k⟩ ⟨i + 2, d + 1, k⟩ where
  inside := Nat.le_add_left 1 d
  ahead := Nat.lt_add_of_pos_right Nat.two_pos
  within := Nat.succ_le_succ (lt_length here)
  same := by
    change (balanced d k (cs.drop (i + 2))).map _ = (balanced d k (cs.drop i)).map _
    cases escaped : cs[i + 1]? with
    | none =>
      have last := drop_eq_nil escaped (Nat.le_refl (i + 1))
      have nothing := drop_eq_nil escaped (Nat.le_succ (i + 1))
      rw [drop_eq_cons here, last, nothing]
      simp [balanced]
    | some e =>
      rw [drop_eq_cons here, drop_eq_cons escaped, balanced_escape, Option.map_map]
      congr 1
      funext found
      simp [prepend, Nat.add_assoc, Nat.add_comm 2]

theorem closingRound_eq {s : Closing} (here : cs[s.position]? = some c) : closingRound cs s = s.pass c := by
  rw [closingRound, if_pos (lt_length here), read_eq here]
  rfl

/-- A round of the scan passes what stands here, or leaves at the parenthesis that is looked for. -/
theorem closingRound_cases {s : Closing} (open_ : 1 ≤ s.depth) :
    closingRound cs s = .ok (.leave (s.found? cs)) ∨
      ∃ t, closingRound cs s = .ok (.again t) ∧ Closing.Follows cs s t := by
  obtain ⟨i, depth, k⟩ := s
  obtain ⟨d, rfl⟩ : ∃ d, depth = d + 1 := ⟨depth - 1, (Nat.sub_add_cancel open_).symm⟩
  cases here : cs[i]? with
  | none =>
    have beyond := List.getElem?_eq_none_iff.1 here
    have nothing := drop_eq_nil here (Nat.le_refl i)
    have found : Closing.found? cs ⟨i, d + 1, k⟩ = none := by simp [Closing.found?, nothing, balanced]
    rw [found]
    exact .inl (if_neg (Nat.not_lt_of_le beyond))
  | some c =>
    rw [closingRound_eq here]
    by_cases escape : c = '\\'
    · subst escape
      exact .inr ⟨⟨i + 2, d + 1, k⟩, rfl, .escape d k here⟩
    by_cases bracket : c = '['
    · subst bracket
      exact .inr ⟨⟨i + 1, d + 1, true⟩, rfl, .char here (balanced_bracket d k)⟩
    by_cases closing : c = ']'
    · subst closing
      exact .inr ⟨⟨i + 1, d + 1, false⟩, rfl, .char here (balanced_closing_bracket d k)⟩
    have other := balanced_other (k := k) escape ⟨bracket, closing⟩
    cases k with
    | true =>
      refine .inr ⟨⟨i + 1, d + 1, true⟩, ?_, .char here (other (by simp) d)⟩
      simp [Closing.pass, pure, Except.pure, escape, bracket, closing]
    | false =>
      by_cases paren : c = '('
      · subst paren
        exact .inr ⟨⟨i + 1, d + 2, false⟩, rfl, .char here (balanced_paren d)⟩
      by_cases closes : c = ')'
      · subst closes
        cases d with
        | zero =>
          have found : Closing.found? cs ⟨i, 1, false⟩ = some i := by
            simp [Closing.found?, drop_eq_cons here, balanced_closing_zero]
          rw [found]
          exact .inl rfl
        | succ d => exact .inr ⟨⟨i + 1, d + 1, false⟩, rfl, .char here (balanced_closing_succ d)⟩
      · refine .inr ⟨⟨i + 1, d + 1, false⟩, ?_, .char here (other (fun _ => ⟨paren, closes⟩) d)⟩
        simp [Closing.pass, pure, Except.pure, escape, bracket, closing, paren, closes]

theorem closingRound_forward (cs : List Char) :
    Forward (fun s => 1 ≤ s.depth) Closing.position (cs.length + 1) (fun s found => found = s.found? cs)
      (closingRound cs) := by
  intro s open_
  rcases closingRound_cases open_ with last | ⟨t, next, follows⟩
  · exact .inl ⟨_, last, rfl⟩
  · exact .inr ⟨t, next, follows.inside, follows.ahead, follows.within, fun _ found => found.trans follows.same⟩

/-- The parenthesis that opens a capture is counted first. -/
theorem closingRound_open (here : cs[i]? = some '(') :
    closingRound cs { position := i } = .ok (.again ⟨i + 1, 1, false⟩) :=
  closingRound_eq (s := { position := i }) here

/-- From an opening parenthesis the scan finds the one behind the balanced text that follows. -/
theorem closingAt_eq (here : cs[i]? = some '(') (enough : cs.length + 1 < limit) :
    closingAt limit cs i =
      .ok ((balanced 0 false (cs.drop (i + 1))).map fun found => i + 1 + found.1.length) := by
  obtain ⟨limit, rfl⟩ := Nat.exists_eq_succ_of_ne_zero (Nat.ne_zero_of_lt enough)
  obtain ⟨_, rfl, ends⟩ := (closingRound_forward cs).exists_loop (s := ⟨i + 1, 1, false⟩) (Nat.le_refl 1)
  rw [closingAt, loop_succ_of_again (closingRound_open here)]
  exact ends limit (by dsimp only; omega)

/-- The scan goes forward from an opening parenthesis on, and has a group to close wherever it closes one. -/
theorem closingRound_progresses (here : cs[i]? = some '(') :
    Progresses Closing.position (cs.length + 1) (closingRound cs) { position := i } ∧
      ∀ s, Reaches (closingRound cs) { position := i } s → cs[s.position]? = some ')' → s.inClass = false →
        1 ≤ s.depth := by
  have first := closingRound_open here
  have later := closingRound_forward cs
  refine ⟨?_, fun s reached closes _ => ?_⟩
  · exact .of_again first (Nat.lt_succ_self i) (Nat.succ_le_succ (Nat.le_of_lt (lt_length here)))
      (later.progresses (Nat.le_refl 1))
  · rcases reached.cases_head with rfl | ⟨t, next, reached⟩
    · cases here.symm.trans closes
    · cases first.symm.trans next
      exact later.invariant (Nat.le_refl 1) reached

/-- What is found is a parenthesis behind the one that opens. -/
theorem exists_closingAt (here : cs[i]? = some '(') (enough : cs.length + 1 < limit) :
    ∃ found, closingAt limit cs i = .ok found ∧ ∀ close, found = some close → i < close ∧ cs[close]? = some ')' := by
  refine ⟨_, closingAt_eq here enough, fun close same => ?_⟩
  obtain ⟨⟨body, rest⟩, found, rfl⟩ := Option.map_eq_some_iff.1 same
  obtain ⟨-, whole⟩ := balanced_eq_some_iff.1 found
  refine ⟨by dsimp only; omega, ?_⟩
  rw [← List.getElem?_drop, whole, List.getElem?_append_right (Nat.le_refl _), Nat.sub_self]
  rfl

theorem exists_captureAt (enough : cs.length + 1 < limit) (inside : i ≤ cs.length) :
    ∃ j, captureAt limit cs i = .ok ((capture? (cs.drop i)).1, j) ∧ (capture? (cs.drop i)).2 = cs.drop j ∧
      i ≤ j ∧ j ≤ cs.length := by
  by_cases here : cs[i]? = some '('
  · have front := drop_eq_cons here
    rw [captureAt, if_pos here, closingAt_eq here enough]
    cases found : balanced 0 false (cs.drop (i + 1)) with
    | none =>
      refine ⟨i, ?_, ?_, Nat.le_refl i, inside⟩ <;> rw [front, capture?, found]
      rfl
    | some result =>
      obtain ⟨body, rest⟩ := result
      obtain ⟨-, whole⟩ := balanced_eq_some_iff.1 found
      have long := congrArg List.length whole
      simp only [List.length_drop, List.length_append, List.length_cons] at long
      have piece : (cs.drop (i + 1)).take (i + 1 + body.length - (i + 1)) = body := by
        rw [whole, Nat.add_sub_cancel_left, List.take_left]
      have behind : cs.drop (i + 1 + body.length + 1) = rest := by
        rw [Nat.add_assoc, ← List.drop_drop, whole, ← List.drop_drop, List.drop_left]
        rfl
      refine ⟨i + 1 + body.length + 1, ?_, ?_, by omega, by omega⟩ <;> rw [front, capture?, found]
      · change (cut cs (i + 1) (i + 1 + body.length) >>= _) = _
        rw [cut_eq (Nat.le_add_right ..) (by omega), piece]
        rfl
      · exact behind.symm
  · have plain : capture? (cs.drop i) = (none, cs.drop i) := capture?_of_head_ne (by rwa [List.head?_drop])
    rw [captureAt, if_neg here, plain]
    exact ⟨i, rfl, rfl, Nat.le_refl i, inside⟩

/-! ## Parameters -/

/-- The parameter at a position is the one that the rest of the text begins with. -/
theorem exists_paramAt (enough : cs.length + 1 < limit) (i : Nat) :
    (param? (cs.drop i) = none ∧ paramAt limit cs i = .ok none) ∨
      ∃ p j, param? (cs.drop i) = some (p, cs.drop j) ∧ paramAt limit cs i = .ok (some (p, j)) ∧
        i < j ∧ j ≤ cs.length := by
  have slash := flagAt_eq '/' cs i
  have dot := flagAt_eq '.' cs (flagAt '/' cs i).2
  have start := Nat.le_trans (le_flagAt '/' cs i) (le_flagAt '.' cs _)
  rw [param?, paramAt]
  simp only [slash, dot]
  generalize flagAt '/' cs i = s at *
  generalize flagAt '.' cs s.2 = d at *
  by_cases colon : cs[d.2]? = some ':'
  · obtain ⟨stop, ⟨ahead, within, name, rest⟩, ends⟩ :=
      (nameRound_forward cs).exists_loop (s := d.2 + 1) (lt_length colon)
    rw [if_pos colon, drop_eq_cons colon, ends limit (by dsimp only [id]; omega)]
    simp only [name, rest]
    by_cases empty : stop = d.2 + 1
    · subst empty
      exact .inl ⟨by simp, if_pos rfl⟩
    · have some_ : ¬ ((cs.drop (d.2 + 1)).take (stop - (d.2 + 1))).isEmpty = true := by
        rw [List.isEmpty_iff_length_eq_zero, List.length_take, List.length_drop]
        omega
      obtain ⟨j, capture, behind, forward, last⟩ := exists_captureAt enough within
      rw [if_neg some_, behind, flagAt_eq]
      refine .inr ⟨_, (flagAt '?' cs j).2, rfl, ?_, ?_, flagAt_le_length '?' last⟩
      · rw [Checked.ok_bind, if_neg empty, cut_eq ahead within, Checked.ok_bind, capture]
        rfl
      · have mark := le_flagAt '?' cs j
        omega
  · refine .inl ⟨?_, if_neg colon⟩
    split
    · next rest same => exact absurd (by rw [← List.head?_drop, same]; rfl) colon
    · rfl

/-! ## Classes -/

/-- What the copy of a class is left with: it wrote the rest of the class, and stands behind it. -/
structure Copying.Ends (cs : List Char) (s t : Copying) : Prop where
  ahead : s.position ≤ t.position
  within : t.position ≤ cs.length + 1
  written : t.out = s.out ++ (classBody (cs.drop s.position)).1
  rest : cs.drop t.position = (classBody (cs.drop s.position)).2

/-- A piece that belongs to the class is written as it stands. -/
theorem Copying.Ends.of_piece {s t u : Copying} {piece : List Char} (ahead : s.position ≤ t.position)
    (written : t.out = s.out ++ piece) (passed : classBody (cs.drop s.position) =
      (piece ++ (classBody (cs.drop t.position)).1, (classBody (cs.drop t.position)).2))
    (ends : Copying.Ends cs t u) : Copying.Ends cs s u where
  ahead := Nat.le_trans ahead ends.ahead
  within := ends.within
  written := by rw [ends.written, written, passed, List.append_assoc]
  rest := by rw [ends.rest, passed]

/-- An escape in a class goes with the character behind it, if there is one. -/
theorem classBody_escape (here : cs[i]? = some '\\') : classBody (cs.drop i) =
    ('\\' :: cs[i + 1]?.toList ++ (classBody (cs.drop (i + 2))).1, (classBody (cs.drop (i + 2))).2) := by
  rw [drop_eq_cons here]
  cases escaped : cs[i + 1]? with
  | none =>
    have last := drop_eq_nil escaped (Nat.le_refl (i + 1))
    have nothing := drop_eq_nil escaped (Nat.le_succ (i + 1))
    rw [last, nothing]
    rfl
  | some e =>
    rw [drop_eq_cons escaped]
    rfl

theorem classRound_eq {first : Nat} {s : Copying} (here : cs[s.position]? = some c) :
    classRound cs first s = s.pass first c cs[s.position + 1]? := by
  rw [classRound, if_pos (lt_length here), read_eq here]
  rfl

theorem classRound_forward (cs : List Char) (first : Nat) :
    Forward (fun s => first < s.position ∧ s.position ≤ cs.length + 1) Copying.position (cs.length + 1)
      (Copying.Ends cs) (classRound cs first) := by
  rintro ⟨i, out⟩ ⟨behind, within⟩
  cases here : cs[i]? with
  | none =>
    have beyond := List.getElem?_eq_none_iff.1 here
    have nothing := drop_eq_nil here (Nat.le_refl i)
    refine .inl ⟨⟨i, out⟩, if_neg (Nat.not_lt_of_le beyond), Nat.le_refl i, within, ?_, ?_⟩ <;>
      simp [nothing, classBody]
  | some c =>
    have inside := lt_length here
    have front := drop_eq_cons here
    have later : i + 1 ≤ cs.length + 1 := Nat.le_succ_of_le inside
    rw [classRound_eq here]
    by_cases escape : c = '\\'
    · subst escape
      refine .inr ⟨_, rfl, ⟨Nat.lt_add_right 2 behind, Nat.succ_le_succ inside⟩, Nat.lt_add_of_pos_right Nat.two_pos,
        Nat.succ_le_succ inside, fun u ends => ?_⟩
      exact ends.of_piece (Nat.le_add_right i 2) rfl (classBody_escape here)
    by_cases closing : c = ']'
    · subst closing
      refine .inl ⟨⟨i + 1, out ++ [']']⟩, if_pos behind, Nat.le_succ i, later, ?_, ?_⟩ <;> rw [front] <;> rfl
    · refine .inr ⟨⟨i + 1, out ++ [c]⟩, ?_, ⟨Nat.lt_succ_of_lt behind, later⟩, Nat.lt_succ_self i, later,
        fun u ends => ?_⟩
      · simp [Copying.pass, pure, Except.pure, escape, closing]
      · refine ends.of_piece (Nat.le_succ i) rfl ?_
        rw [front, classBody_cons escape closing]
        rfl

/-- The bracket that opens a class is copied first. -/
theorem classRound_open (here : cs[i]? = some '[') (out : List Char) :
    classRound cs i ⟨i, out⟩ = .ok (.again ⟨i + 1, out ++ ['[']⟩) :=
  classRound_eq (s := ⟨i, out⟩) here

theorem classRound_progresses (here : cs[i]? = some '[') (out : List Char) :
    Progresses Copying.position (cs.length + 1) (classRound cs i) ⟨i, out⟩ := by
  have within : i + 1 ≤ cs.length + 1 := Nat.succ_le_succ (Nat.le_of_lt (lt_length here))
  exact .of_again (classRound_open here out) (Nat.lt_succ_self i) within
    ((classRound_forward cs i).progresses ⟨Nat.lt_succ_self i, within⟩)

theorem exists_classAt (here : cs[i]? = some '[') (enough : cs.length + 1 < limit) (out : List Char) :
    ∃ t, classAt limit cs i out = .ok t ∧ Copying.Ends cs ⟨i + 1, out ++ ['[']⟩ t := by
  obtain ⟨limit, rfl⟩ := Nat.exists_eq_succ_of_ne_zero (Nat.ne_zero_of_lt enough)
  obtain ⟨t, ended, ends⟩ := (classRound_forward cs i).exists_loop (s := ⟨i + 1, out ++ ['[']⟩)
    ⟨Nat.lt_succ_self i, Nat.succ_le_succ (Nat.le_of_lt (lt_length here))⟩
  refine ⟨t, ?_, ended⟩
  rw [classAt, loop_succ_of_again (classRound_open here out)]
  exact ends limit (by dsimp only; omega)

end Routing.Pattern.Cursor
