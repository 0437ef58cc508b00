import Routing.Proofs.Pattern.Cursor

/-!
# A pattern text translated by positions

The text of a pattern is translated in one loop over its positions, from which the scans start. No text whatsoever makes
it go wrong, and it comes to the expansion of the text.

* `Cursor.Translation.round`, `Cursor.translate`: the loop
* `Cursor.Translation.exists_round`: a round translates the first token of what is left
* `Cursor.translation_progresses`: what holds of all these loops, for every text
-/
namespace Routing.Pattern.Cursor

open Token

/-! ## The loop -/

/-- How far a translation has come: what it wrote, the slots it declared, and how many of these go by position. -/
structure Translation where
  position : Nat := 0
  out : List Char := []
  keys : List ParamSpec := []
  unnamed : Nat := 0
  deriving DecidableEq, Repr

namespace Translation

/-- Writes a piece for what stands in front of `stop`. -/
def write (s : Translation) (piece : List Char) (stop : Nat) : Translation :=
  { s with position := stop, out := s.out ++ piece }

/-- Writes a piece for one character, and declares a slot that goes by its position. -/
def declare (s : Translation) (piece : List Char) : Translation :=
  { position := s.position + 1
    out := s.out ++ piece
    keys := s.keys ++ [⟨.index s.unnamed, false⟩]
    unnamed := s.unnamed + 1 }

def parameter (s : Translation) (p : ParamToken) (stop : Nat) : Translation :=
  { s with
    position := stop
    out := s.out ++ ParamToken.expansion p s.keys.length
    keys := s.keys ++ [⟨.name (String.ofList p.name), p.optional⟩] }

/-- Translates what begins with `c` and is no parameter. -/
def plain (limit : Nat) (cs : List Char) (s : Translation) (c : Char) : Checked Translation :=
  let i := s.position
  if c = '/' then
    if cs[i + 1]? = some '(' ∧ cs[i + 2]? ≠ some '?' then return s.write "(?:/".toList (i + 2)
    else return s.write ['/'] (i + 1)
  else if c = '.' then return s.write ['\\', '.'] (i + 1)
  else if c = '+' then return s.declare (slotGroup s.keys.length ['.', '+'])
  else if c = '*' then return s.declare (slotGroup s.keys.length ['.', '*'])
  else if c = '\\' then return s.write ('\\' :: cs[i + 1]?.toList) (i + 2)
  else if c = '(' then
    if cs[i + 1]? = some '?' then
      if cs[i + 2]? = some ':' then return s.write ['(', '?', ':'] (i + 3)
      else return s.write ['(', '?'] (i + 2)
    else return s.declare (slotOpening s.keys.length)
  else if c = '[' then do
    let copied ← classAt limit cs i s.out
    return { s with position := copied.position, out := copied.out }
  else return s.write [c] (i + 1)

def round (limit : Nat) (cs : List Char) (s : Translation) : Checked (Onward Translation Expansion) :=
  if s.position < cs.length then do
    match ← paramAt limit cs s.position with
    | some (p, stop) => return .again (s.parameter p stop)
    | none =>
      let c ← read cs s.position
      let t ← s.plain limit cs c
      return .again t
  else return .leave ⟨s.out, s.keys⟩

end Translation

def translate (limit : Nat) (cs : List Char) : Checked Expansion :=
  loop (Translation.round limit cs) limit {}

/-! ## One token after the other -/

namespace Translation

variable {cs : List Char} {limit : Nat} {c : Char}

/-- The translation goes on behind a token. -/
def after (s : Translation) (t : Token) (stop : Nat) : Translation where
  position := stop
  out := s.out ++ t.expansion s.keys.length
  keys := s.keys ++ (t.spec? s.unnamed).toList
  unnamed := s.unnamed + if t.isPositional then 1 else 0

theorem after_of_slotless {t : Token} (slotless : t.slotCount = 0) (s : Translation) (stop : Nat) :
    s.after t stop = s.write (t.expansion s.keys.length) stop := by
  cases t with
  | param | plus | star | group => cases slotless
  | _ => simp [after, write, spec?, isPositional]

/-- What stands here is translated as the token that it begins with, and the translation goes on behind that. -/
structure Takes (limit : Nat) (cs : List Char) (s : Translation) (c : Char) (t : Token) (stop : Nat) : Prop where
  first : nextPlain? (cs.drop s.position) = some (t, cs.drop stop)
  round : s.plain limit cs c = .ok (s.after t stop)
  ahead : s.position < stop
  within : stop ≤ cs.length + 1

variable {s : Translation}

theorem Takes.of_text {t : Token} {rest : List Char} (whole : cs.drop s.position = t.text ++ rest)
    (first : nextPlain? (cs.drop s.position) = some (t, rest)) (some_ : 0 < t.text.length)
    (round : s.plain limit cs c = .ok (s.after t (s.position + t.text.length))) :
    Takes limit cs s c t (s.position + t.text.length) := by
  have behind : rest = cs.drop (s.position + t.text.length) := by
    rw [← List.drop_drop, whole, List.drop_left]
  have long := congrArg List.length whole
  rw [List.length_drop, List.length_append] at long
  exact ⟨behind ▸ first, round, Nat.lt_add_of_pos_right some_, by omega⟩

/-- An escape is taken with the character behind it. Where there is none, the translation goes beyond the end. -/
theorem exists_takes_escape (here : cs[s.position]? = some '\\') : ∃ t stop, Takes limit cs s '\\' t stop := by
  have round : s.plain limit cs '\\' = .ok (s.write ('\\' :: cs[s.position + 1]?.toList) (s.position + 2)) := rfl
  have inside := lt_length here
  refine ⟨escape cs[s.position + 1]?, s.position + 2, ?_, ?_, by omega, by omega⟩
  · cases escaped : cs[s.position + 1]? with
    | none =>
      have last := drop_eq_nil escaped (Nat.le_refl (s.position + 1))
      have nothing := drop_eq_nil escaped (Nat.le_succ (s.position + 1))
      rw [drop_eq_cons here, last, nothing]
      rfl
    | some d =>
      rw [drop_eq_cons here, drop_eq_cons escaped]
      rfl
  · rw [round, after_of_slotless rfl]
    cases cs[s.position + 1]? <;> rfl

/-- A class is taken as the copy that is made of it. -/
theorem exists_takes_class (enough : cs.length + 1 < limit) (here : cs[s.position]? = some '[') :
    ∃ t stop, Takes limit cs s '[' t stop := by
  obtain ⟨copied, round, ends⟩ := exists_classAt here enough s.out
  refine ⟨charClass (classBody (cs.drop (s.position + 1))).1, copied.position, ?_, ?_, ends.ahead, ends.within⟩
  · rw [drop_eq_cons here, ends.rest]
    rfl
  · rw [after_of_slotless rfl]
    change (classAt limit cs s.position s.out >>= _) = _
    rw [round, Checked.ok_bind, ends.written, List.append_assoc]
    rfl

/-- What is no parameter is translated as the token that it is. -/
theorem exists_takes (enough : cs.length + 1 < limit) (single : ¬ StartsParam (cs.drop s.position))
    (here : cs[s.position]? = some c) : ∃ t stop, Takes limit cs s c t stop := by
  obtain ⟨t, rest, first⟩ := exists_next? (by rw [drop_eq_cons here]; simp : cs.drop s.position ≠ [])
  rw [next?_of_not single] at first
  obtain ⟨whole, formed, stops⟩ := nextPlain?_sound single first
  have head : (t.text ++ rest).head? = some c := by rw [← whole, List.head?_drop, here]
  have peek (k : Nat) : cs[s.position + k]? = (t.text ++ rest)[k]? := by rw [← whole, List.getElem?_drop]
  have taken (some_ : 0 < t.text.length)
      (round : s.plain limit cs c = .ok (s.after t (s.position + t.text.length))) :
      ∃ t stop, Takes limit cs s c t stop := ⟨t, _, .of_text whole first some_ round⟩
  cases t with
  | param p =>
    have found : param? (cs.drop s.position) = some (p, rest) := whole ▸ param?_text formed stops
    cases (param?_eq_none_iff.2 single).symm.trans found
  | slashGroup =>
    obtain rfl : '/' = c := Option.some.inj head
    have mark : cs[s.position + 2]? ≠ some '?' := (peek 2).trans List.head?_eq_getElem?.symm ▸ stops
    refine taken Nat.two_pos ?_
    rw [after_of_slotless rfl]
    exact if_pos ⟨peek 1, mark⟩
  | slash =>
    obtain rfl : '/' = c := Option.some.inj head
    have next : cs[s.position + 1]? = rest.head? := (peek 1).trans List.head?_eq_getElem?.symm
    have later : cs[s.position + 2]? = rest.tail.head? := (peek 2).trans (List.head?_tail ..).symm
    have group : ¬ (cs[s.position + 1]? = some '(' ∧ cs[s.position + 2]? ≠ some '?') := by
      rintro ⟨paren, mark⟩
      exact mark (later.trans (stops.2 (next.symm.trans paren)))
    refine taken Nat.one_pos ?_
    rw [after_of_slotless rfl]
    exact if_neg group
  | dot =>
    obtain rfl : '.' = c := Option.some.inj head
    refine taken Nat.one_pos ?_
    rw [after_of_slotless rfl]
    rfl
  | plus =>
    obtain rfl : '+' = c := Option.some.inj head
    exact taken Nat.one_pos rfl
  | star =>
    obtain rfl : '*' = c := Option.some.inj head
    exact taken Nat.one_pos rfl
  | escape d =>
    obtain rfl : '\\' = c := by cases d <;> exact Option.some.inj head
    exact exists_takes_escape here
  | special colon =>
    obtain rfl : '(' = c := by cases colon <;> exact Option.some.inj head
    have mark : cs[s.position + 1]? = some '?' := by cases colon <;> exact peek 1
    cases colon with
    | true =>
      refine taken (Nat.zero_lt_succ 2) ?_
      rw [after_of_slotless rfl]
      exact (if_pos mark).trans (if_pos (peek 2))
    | false =>
      have colon : cs[s.position + 2]? ≠ some ':' := (peek 2).trans List.head?_eq_getElem?.symm ▸ stops
      refine taken Nat.two_pos ?_
      rw [after_of_slotless rfl]
      exact (if_pos mark).trans (if_neg colon)
  | group =>
    obtain rfl : '(' = c := Option.some.inj head
    have mark : cs[s.position + 1]? ≠ some '?' := (peek 1).trans List.head?_eq_getElem?.symm ▸ stops
    exact taken Nat.one_pos (if_neg mark)
  | charClass body =>
    obtain rfl : '[' = c := Option.some.inj head
    exact exists_takes_class enough here
  | char d =>
    obtain rfl : d = c := Option.some.inj head
    refine taken Nat.one_pos ?_
    simp only [WellFormed, List.mem_cons, List.not_mem_nil, or_false, not_or] at formed
    simp [plain, formed, after_of_slotless (t := char d) rfl, Token.expansion, text, pure, Except.pure]

/-- A round translates the first token of what is left. -/
theorem exists_round (enough : cs.length + 1 < limit) (inside : s.position < cs.length) :
    ∃ t stop, next? (cs.drop s.position) = some (t, cs.drop stop) ∧
      round limit cs s = .ok (.again (s.after t stop)) ∧ s.position < stop ∧ stop ≤ cs.length + 1 := by
  rcases exists_paramAt enough s.position with ⟨none_, read_⟩ | ⟨p, stop, found, read_, ahead, within⟩
  · have here := List.getElem?_eq_getElem inside
    have single := param?_eq_none_iff.1 none_
    obtain ⟨t, stop, taken⟩ := exists_takes enough single here
    refine ⟨t, stop, (next?_of_not single).trans taken.first, ?_, taken.ahead, taken.within⟩
    rw [round, if_pos inside, read_, Checked.ok_bind]
    dsimp only
    rw [read_eq here, Checked.ok_bind, taken.round]
    rfl
  · refine ⟨param p, stop, by rw [next?, found], ?_, ahead, Nat.le_succ_of_le within⟩
    rw [round, if_pos inside, read_]
    rfl

/-- What the translation comes to: the rest of the text is expanded behind what was written. -/
def whole (cs : List Char) (s : Translation) : Expansion :=
  let rest := Expansion.ofTokens s.keys.length s.unnamed (lex (cs.drop s.position))
  ⟨s.out ++ rest.body, s.keys ++ rest.keys⟩

theorem whole_after {t : Token} {stop : Nat}
    (first : next? (cs.drop s.position) = some (t, cs.drop stop)) : (s.after t stop).whole cs = s.whole cs := by
  have slots : s.keys.length + t.slotCount = (s.after t stop).keys.length := by
    rw [after, List.length_append, length_spec?]
  rw [whole, whole, lex_of_next? first, ofTokens_cons, slots]
  simp only [after, List.append_assoc]

theorem round_forward (enough : cs.length + 1 < limit) :
    Forward (fun _ => True) position (cs.length + 1) (fun s e => e = s.whole cs) (round limit cs) := by
  intro s _
  by_cases inside : s.position < cs.length
  · obtain ⟨t, stop, first, next, ahead, within⟩ := exists_round enough inside
    exact .inr ⟨s.after t stop, next, trivial, ahead, within, fun e same => same.trans (whole_after first)⟩
  · have nothing : cs.drop s.position = [] := List.drop_eq_nil_iff.2 (Nat.le_of_not_lt inside)
    have done : s.whole cs = ⟨s.out, s.keys⟩ := by simp [whole, nothing, lex, lexFrom, Expansion.ofTokens]
    exact .inl ⟨_, if_neg inside, done.symm⟩

end Translation

/-! ## The whole text -/

/-- No text makes the translation go wrong or go on for ever. Each loop goes forward in every round, up to one position
behind the end, and reads and cuts only what is there; the scan of a capture has a group to close wherever it closes
one; classes and parameters end behind the position where they begin; and what comes out is the expansion of the
text. -/
theorem translation_progresses (cs : List Char) (limit : Nat) (enough : cs.length + 1 < limit) :
    (∀ i, i ≤ cs.length → Progresses id (cs.length + 1) (nameRound cs) i) ∧
    (∀ i, cs[i]? = some '(' →
      (Progresses Closing.position (cs.length + 1) (closingRound cs) { position := i } ∧
        ∀ s, Reaches (closingRound cs) { position := i } s → cs[s.position]? = some ')' → s.inClass = false →
          1 ≤ s.depth) ∧
      ∃ found, closingAt limit cs i = .ok found ∧
        ∀ close, found = some close → i < close ∧ cs[close]? = some ')') ∧
    (∀ i out, cs[i]? = some '[' →
      Progresses Copying.position (cs.length + 1) (classRound cs i) ⟨i, out⟩ ∧
      ∃ s, classAt limit cs i out = .ok s ∧ i < s.position ∧ s.position ≤ cs.length + 1) ∧
    (∀ i, ∃ found, paramAt limit cs i = .ok found ∧
      ∀ p stop, found = some (p, stop) → i < stop ∧ stop ≤ cs.length) ∧
    Progresses Translation.position (cs.length + 1) (Translation.round limit cs) {} ∧
    translate limit cs = .ok (.ofText cs) := by
  refine ⟨fun i inside => (nameRound_forward cs).progresses inside,
    fun i here => ⟨closingRound_progresses here, exists_closingAt here enough⟩, fun i out here => ?_, fun i => ?_,
    (Translation.round_forward enough).progresses trivial, ?_⟩
  · obtain ⟨s, copied, ends⟩ := exists_classAt here enough out
    exact ⟨classRound_progresses here out, s, copied, ends.ahead, ends.within⟩
  · rcases exists_paramAt enough i with ⟨-, read_⟩ | ⟨p, stop, -, read_, ahead, within⟩
    · exact ⟨none, read_, fun p stop same => by cases same⟩
    · exact ⟨some (p, stop), read_, fun q last same => by cases same; exact ⟨ahead, within⟩⟩
  · obtain ⟨_, rfl, ends⟩ := (Translation.round_forward enough).exists_loop (s := {}) trivial
    exact ends limit (by dsimp only; omega)

/-- A text in which a capture, a class and an escape are left open. The copy of the class ends one position behind the
end of the text. -/
theorem translation_progresses_open :
    let cs := "/:a([)\\".toList
    cs.length = 7 ∧ Progresses Closing.position 8 (closingRound cs) { position := 3 } ∧
      closingAt 9 cs 3 = .ok none ∧ Progresses Copying.position 8 (classRound cs 4) ⟨4, []⟩ ∧
      classAt 9 cs 4 [] = .ok ⟨8, "[)\\".toList⟩ ∧ translate 9 cs = .ok (.ofText cs) := by
  intro cs
  obtain ⟨-, closing, class_, -, -, whole⟩ := translation_progresses cs 9 (by decide)
  exact ⟨rfl, (closing 3 rfl).1.1, rfl, (class_ 4 [] rfl).1, rfl, whole⟩

end Routing.Pattern.Cursor
