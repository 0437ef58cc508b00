import Routing.Proofs.Pattern.Captures
import Routing.Proofs.Pattern.Slots

/-!
# Texts made of tokens

A text is cut into tokens in one way only, in which no token goes on in the text of the next. Each token goes into
the regular expression as one piece, with the number of its slot.

* `Token.WellFormed`, `Token.StopsAt`, `Token.Separated`: tokens strung together so that none goes on in the next
* `Token.next?_eq_some_iff`: the first token of a text
* `Token.lex_eq_iff`: a text is cut into the separated tokens that it is made of
* `Token.Translated`: what tokens come to, one after the other
* `Token.translates_by_token`: separated tokens come to their expansions
-/
namespace Routing.Pattern

open Regex

namespace Token

/-! ## Tokens strung together -/

/-- A class that ends with the bracket that closes it. -/
def IsClosed (body : List Char) : Prop :=
  ∃ inside, ClassText inside ∧ body = inside ++ [']']

/-- A class that nothing closes. -/
def IsOpen (body : List Char) : Prop :=
  ∃ inside, ClassText inside ∧ (body = inside ∨ body = inside ++ ['\\'])

/-- A parameter begins here: a colon in front of a name, maybe behind a slash or a dot. -/
def StartsParam (cs : List Char) : Prop :=
  ∃ (slash dot : Bool) (c : Char) (rest : List Char), isNameChar c = true ∧
    cs = (if slash then ['/'] else []) ++ ((if dot then ['.'] else []) ++ ':' :: c :: rest)

/-- A token as it can be written. -/
def WellFormed : Token → Prop
  | param p => ParamToken.WellFormed p
  | charClass body => IsClosed body ∨ IsOpen body
  | char c => c ∉ ['/', '.', '+', '*', '\\', '(', '[']
  | _ => True

/-- The token does not go on in the text behind it. -/
def StopsAt (rest : List Char) : Token → Prop
  | param p => ParamToken.StopsAt p rest
  | slashGroup | group => rest.head? ≠ some '?'
  | slash => ¬ StartsParam ('/' :: rest) ∧ (rest.head? = some '(' → rest.tail.head? = some '?')
  | dot => ¬ StartsParam ('.' :: rest)
  | char c => ¬ StartsParam (c :: rest)
  | special false => rest.head? ≠ some ':'
  | charClass body => IsClosed body ∨ rest = []
  | escape none => rest = []
  | _ => True

/-- Tokens strung together so that none goes on in the next. A class that is not closed and a backslash in front of
nothing can only come last. -/
inductive Separated : List Token → Prop where
  | nil : Separated []
  | cons {t : Token} {ts : List Token} (formed : t.WellFormed) (stops : t.StopsAt (ts.flatMap text))
    (later : Separated ts) : Separated (t :: ts)

/-! ## Parameters -/

/-- A character in front is taken if it is there. -/
theorem flag_cases (c : Char) (cs : List Char) :
    (∃ rest, cs = c :: rest ∧ flag c cs = (true, rest)) ∨ cs.head? ≠ some c ∧ flag c cs = (false, cs) := by
  by_cases front : cs.head? = some c
  · obtain ⟨rest, rfl⟩ := List.head?_eq_some_iff.1 front
    exact .inl ⟨rest, rfl, flag_cons_self c rest⟩
  · exact .inr ⟨front, flag_of_head_ne front⟩

theorem flag_append_rest (c : Char) (cs : List Char) :
    (if (flag c cs).1 then [c] else []) ++ (flag c cs).2 = cs := by
  rcases flag_cases c cs with ⟨rest, rfl, taken⟩ | ⟨-, taken⟩ <;> rw [taken] <;> rfl

/-- A capture is the balanced text in parentheses that stands here, if there is one. -/
theorem capture?_cases (cs : List Char) :
    (∃ body rest, Balanced body ∧ cs = '(' :: (body ++ ')' :: rest) ∧ capture? cs = (some body, rest)) ∨
      ¬ OpensCapture cs ∧ capture? cs = (none, cs) := by
  by_cases opens : OpensCapture cs
  · obtain ⟨body, rest, closed, rfl⟩ := opens
    exact .inl ⟨body, rest, closed, rfl, capture?_of_balanced closed rest⟩
  · exact .inr ⟨opens, capture?_of_not opens⟩

/-- What stands behind the name of a parameter that was found. -/
theorem ending_of_capture (slash dot : Bool) {name cs : List Char} (named : name ≠ [])
    (word : ∀ c ∈ name, isNameChar c = true) (noName : ∀ c ∈ cs.head?, isNameChar c = false) :
    let p : ParamToken := ⟨slash, dot, name, (capture? cs).1, (flag '?' (capture? cs).2).1⟩
    let rest := (flag '?' (capture? cs).2).2
    cs = ParamToken.ending p ++ rest ∧ ParamToken.WellFormed p ∧ ParamToken.StopsAt p rest := by
  intro p rest
  have marked := flag_append_rest '?' (capture? cs).2
  have stops : (flag '?' (capture? cs).2).1 = false → rest.head? ≠ some '?' ∧ rest = (capture? cs).2 := by
    intro required
    rcases flag_cases '?' (capture? cs).2 with ⟨_, -, taken⟩ | ⟨other, taken⟩
    · rw [taken] at required
      cases required
    · have same : rest = (capture? cs).2 := congrArg Prod.snd taken
      exact ⟨same ▸ other, same⟩
  rcases capture?_cases cs with ⟨body, after, closed, whole, found⟩ | ⟨single, found⟩
  · have capture : p.capture = some body := congrArg Prod.fst found
    refine ⟨?_, ⟨named, word, fun b same => ?_⟩, fun required => ⟨(stops required).1, fun none_ => ?_⟩⟩
    · rw [ParamToken.ending, capture, List.append_assoc, marked, found, whole]
      simp
    · rw [capture] at same
      exact Option.some.inj same ▸ closed
    · rw [capture] at none_
      cases none_
  · have capture : p.capture = none := congrArg Prod.fst found
    refine ⟨?_, ⟨named, word, fun b same => ?_⟩, fun required => ⟨(stops required).1, fun _ => ?_⟩⟩
    · rw [ParamToken.ending, capture, List.nil_append, marked, found]
    · rw [capture] at same
      cases same
    · rw [(stops required).2, found]
      exact ⟨noName, single⟩

/-- A parameter that is found is the text that was taken for it, and does not go on behind it. -/
theorem param?_eq_some_iff {cs rest : List Char} {p : ParamToken} : param? cs = some (p, rest) ↔
    cs = ParamToken.text p ++ rest ∧ ParamToken.WellFormed p ∧ ParamToken.StopsAt p rest := by
  refine ⟨fun found => ?_, fun ⟨whole, formed, stops⟩ => whole ▸ param?_text formed stops⟩
  unfold param? at found
  dsimp only at found
  split at found
  · next after colon =>
    split at found
    · cases found
    · next named =>
      cases found
      have word : ∀ c ∈ after.takeWhile isNameChar, isNameChar c = true :=
        List.all_eq_true.1 List.all_takeWhile
      have noName : ∀ c ∈ (after.dropWhile isNameChar).head?, isNameChar c = false := by
        intro c front
        have := List.head?_dropWhile_not isNameChar after
        rw [Option.mem_def.1 front] at this
        simpa using this
      obtain ⟨ending, formed, stops⟩ := ending_of_capture (flag '/' cs).1
        (flag '.' (flag '/' cs).2).1 (by simpa using named) word noName
      refine ⟨?_, formed, stops⟩
      rw [ParamToken.text_eq]
      simp only [List.append_assoc, List.cons_append]
      rw [← ending, List.takeWhile_append_dropWhile, ← colon, flag_append_rest, flag_append_rest]
  · cases found

/-- There is no parameter exactly if none begins here. -/
theorem param?_eq_none_iff {cs : List Char} : param? cs = none ↔ ¬ StartsParam cs := by
  constructor
  · rintro none_ ⟨slash, dot, c, rest, word, rfl⟩
    cases slash <;> cases dot <;> simp [param?, flag, word] at none_
  · intro single
    cases found : param? cs with
    | none => rfl
    | some result =>
      obtain ⟨whole, ⟨named, word, -⟩, -⟩ := param?_eq_some_iff.1 found
      obtain ⟨c, name, same⟩ := List.exists_cons_of_ne_nil named
      refine absurd ⟨result.1.slash, result.1.dot, c, name ++ (ParamToken.ending result.1 ++ result.2), ?_, ?_⟩ single
      · exact word c (same ▸ List.mem_cons_self)
      · rw [whole, ParamToken.text_eq, same]
        simp

/-! ## Classes -/

theorem classBody_cons {c : Char} (unescaped : c ≠ '\\') (open_ : c ≠ ']') (rest : List Char) :
    classBody (c :: rest) = (c :: (classBody rest).1, (classBody rest).2) := by
  rw [classBody.eq_4 c rest (fun same _ => unescaped same) (fun _ _ same _ => unescaped same), if_neg open_]

theorem classBody_append_of {inside : List Char} (text : ClassText inside) (rest : List Char) :
    classBody (inside ++ rest) = (inside ++ (classBody rest).1, (classBody rest).2) := by
  induction text with
  | nil => rfl
  | escape c later ih => simp [classBody, ih]
  | char unescaped open_ later ih => simp [classBody_cons unescaped open_, ih]

/-- The rest of a class is the text up to the first bracket that closes it, or all of the text. -/
theorem classBody_eq_iff {cs body rest : List Char} : classBody cs = (body, rest) ↔
    cs = body ++ rest ∧ (IsClosed body ∨ IsOpen body ∧ rest = []) := by
  constructor
  · intro found
    fun_induction classBody cs generalizing body with
    | case1 =>
      cases found
      exact ⟨rfl, .inr ⟨⟨[], .nil, .inl rfl⟩, rfl⟩⟩
    | case2 =>
      cases found
      exact ⟨rfl, .inr ⟨⟨[], .nil, .inr rfl⟩, rfl⟩⟩
    | case3 c behind b r there ih =>
      cases found
      obtain ⟨rfl, ends⟩ := ih there
      refine ⟨rfl, ends.imp ?_ (And.imp_left ?_)⟩
      · rintro ⟨inside, text, rfl⟩
        exact ⟨_, text.escape c, rfl⟩
      · rintro ⟨inside, text, same⟩
        exact ⟨_, text.escape c, same.imp (by rintro rfl; rfl) (by rintro rfl; rfl)⟩
    | case4 behind =>
      cases found
      exact ⟨rfl, .inl ⟨[], .nil, rfl⟩⟩
    | case5 c behind single paired open_ b r there ih =>
      cases found
      have unescaped := ne_escape single paired
      obtain ⟨rfl, ends⟩ := ih there
      refine ⟨rfl, ends.imp ?_ (And.imp_left ?_)⟩
      · rintro ⟨inside, text, rfl⟩
        exact ⟨_, text.char unescaped open_, rfl⟩
      · rintro ⟨inside, text, same⟩
        exact ⟨_, text.char unescaped open_, same.imp (by rintro rfl; rfl) (by rintro rfl; rfl)⟩
  · rintro ⟨rfl, ⟨inside, text, rfl⟩ | ⟨⟨inside, text, same⟩, rfl⟩⟩
    · rw [List.append_assoc, classBody_append_of text]
      rfl
    · rw [List.append_nil]
      rcases same with rfl | rfl
      · simpa [classBody] using classBody_append_of text []
      · exact classBody_append_of text _

/-! ## The first token -/

theorem next?_of_not {cs : List Char} (single : ¬ StartsParam cs) : next? cs = nextPlain? cs := by
  rw [next?, param?_eq_none_iff.2 single]

/-- No parameter begins with a character that is none of its separators. -/
theorem not_startsParam {c : Char} (other : c ∉ ['/', '.', ':']) (rest : List Char) :
    ¬ StartsParam (c :: rest) := by
  rintro ⟨slash, dot, d, behind, -, same⟩
  cases slash <;> cases dot <;> simp_all

/-- A token is read back from its text. -/
theorem next?_text {t : Token} (formed : t.WellFormed) {rest : List Char} (stops : t.StopsAt rest) :
    next? (t.text ++ rest) = some (t, rest) := by
  cases t with
  | param p =>
    have found : param? ((param p).text ++ rest) = some (p, rest) := param?_text formed stops
    rw [next?, found]
  | slashGroup =>
    have single : ¬ StartsParam ('/' :: '(' :: rest) := by
      rintro ⟨slash, dot, d, behind, -, same⟩
      cases slash <;> cases dot <;> simp_all
    refine (next?_of_not single).trans (nextPlain?.eq_3 rest fun behind same => stops ?_)
    rw [same]
    rfl
  | slash =>
    obtain ⟨single, group⟩ := stops
    refine (next?_of_not single).trans ?_
    cases rest with
    | nil => rfl
    | cons d rest =>
      by_cases paren : d = '('
      · subst paren
        obtain ⟨behind, rfl⟩ := List.head?_eq_some_iff.1 (group rfl)
        rfl
      · exact nextPlain?.eq_4 _ (fun _ same => paren (List.cons.inj same).1)
          fun _ same => paren (List.cons.inj same).1
  | dot => exact next?_of_not stops
  | plus | star => exact next?_of_not (not_startsParam (by decide) rest)
  | escape c =>
    cases c with
    | none =>
      obtain rfl : rest = [] := stops
      rfl
    | some c => exact next?_of_not (not_startsParam (by decide) (c :: rest))
  | special colon =>
    cases colon with
    | true => rfl
    | false =>
      refine (next?_of_not (not_startsParam (by decide) _)).trans (nextPlain?.eq_11 rest fun behind same => stops ?_)
      rw [same]
      rfl
  | group => exact next?_group stops
  | charClass body =>
    have taken : classBody (body ++ rest) = (body, rest) :=
      classBody_eq_iff.2 ⟨rfl, formed.elim .inl fun open_ => stops.imp_right fun last => ⟨open_, last⟩⟩
    refine (next?_of_not (not_startsParam (by decide) _)).trans ?_
    change nextPlain? ('[' :: (body ++ rest)) = some (charClass body, rest)
    rw [nextPlain?, taken]
  | char c =>
    refine (next?_of_not stops).trans ?_
    simp only [WellFormed, List.mem_cons, List.not_mem_nil, or_false, not_or] at formed
    obtain ⟨slash, dot, plus, star, escape, paren, bracket⟩ := formed
    exact nextPlain?.eq_14 c rest (fun _ same => absurd same slash) (fun _ same => absurd same slash) slash dot plus
      star (absurd · escape) (fun _ _ => (absurd · escape)) (fun _ => (absurd · paren)) (fun _ => (absurd · paren))
      paren bracket

theorem nextPlain?_sound {cs rest : List Char} {t : Token} (single : ¬ StartsParam cs)
    (found : nextPlain? cs = some (t, rest)) :
    cs = t.text ++ rest ∧ t.WellFormed ∧ t.StopsAt rest := by
  unfold nextPlain? at found
  split at found
  case h_1 => cases found
  case h_2 =>
    cases found
    exact ⟨rfl, trivial, single, fun _ => rfl⟩
  case h_3 behind plain =>
    cases found
    refine ⟨rfl, trivial, fun mark => ?_⟩
    obtain ⟨_, same⟩ := List.head?_eq_some_iff.1 mark
    exact plain _ same
  case h_4 behind special group =>
    cases found
    refine ⟨rfl, trivial, single, fun paren => ?_⟩
    obtain ⟨_, same⟩ := List.head?_eq_some_iff.1 paren
    exact absurd same (group _)
  case h_5 =>
    cases found
    exact ⟨rfl, trivial, single⟩
  case h_6 | h_7 | h_9 | h_10 =>
    cases found
    exact ⟨rfl, trivial, trivial⟩
  case h_8 =>
    cases found
    exact ⟨rfl, trivial, rfl⟩
  case h_11 behind plain =>
    cases found
    refine ⟨rfl, trivial, fun colon => ?_⟩
    obtain ⟨_, same⟩ := List.head?_eq_some_iff.1 colon
    exact plain _ same
  case h_12 behind special plain =>
    cases found
    refine ⟨rfl, trivial, fun mark => ?_⟩
    obtain ⟨_, same⟩ := List.head?_eq_some_iff.1 mark
    exact plain _ same
  case h_13 behind =>
    cases found
    obtain ⟨whole, ends⟩ := classBody_eq_iff.1 (Prod.eta (classBody behind)).symm
    exact ⟨congrArg _ whole, ends.imp_right And.left, ends.imp_right And.right⟩
  case h_14 c behind _ _ slash dot plus star lone paired _ _ paren bracket =>
    cases found
    have escape := ne_escape lone paired
    refine ⟨rfl, ?_, single⟩
    simpa [WellFormed] using And.intro slash ⟨dot, plus, star, escape, paren, bracket⟩

/-- The first token of a text is the one that the text starts with and that does not go on behind it. -/
theorem next?_eq_some_iff {cs rest : List Char} {t : Token} :
    next? cs = some (t, rest) ↔ cs = t.text ++ rest ∧ t.WellFormed ∧ t.StopsAt rest := by
  refine ⟨fun found => ?_, fun ⟨whole, formed, stops⟩ => whole ▸ next?_text formed stops⟩
  cases parameter : param? cs with
  | some result =>
    rw [next?, parameter] at found
    cases found
    exact param?_eq_some_iff.1 parameter
  | none =>
    have single := param?_eq_none_iff.1 parameter
    exact nextPlain?_sound single ((next?_of_not single).symm.trans found)

/-! ## All tokens -/

/-- A text is cut into the separated tokens that it is made of, and there is one such list only. -/
theorem lex_eq_iff {cs : List Char} {ts : List Token} :
    lex cs = ts ↔ Separated ts ∧ cs = ts.flatMap text := by
  constructor
  · intro lexed
    induction ts generalizing cs with
    | nil =>
      by_cases empty : cs = []
      · exact ⟨.nil, empty⟩
      · obtain ⟨t, rest, first⟩ := exists_next? empty
        rw [lex_of_next? first] at lexed
        cases lexed
    | cons t ts ih =>
      by_cases empty : cs = []
      · rw [empty] at lexed
        cases lexed
      · obtain ⟨t', rest, first⟩ := exists_next? empty
        rw [lex_of_next? first] at lexed
        cases lexed
        obtain ⟨whole, formed, stops⟩ := next?_eq_some_iff.1 first
        obtain ⟨separated, later⟩ := ih rfl
        exact ⟨.cons formed (later ▸ stops) separated, by rw [whole, List.flatMap_cons, ← later]⟩
  · rintro ⟨separated, rfl⟩
    induction separated with
    | nil => rfl
    | cons formed stops later ih =>
      rw [List.flatMap_cons, lex_of_next? (next?_text formed stops), ih]

/-! ## Numbers -/

/-- The token declares a slot that goes by its position. -/
def isPositional : Token → Bool
  | plus | star | group => true
  | _ => false

/-- How many slots of the tokens go by their position. -/
def positionsOf (ts : List Token) : Nat :=
  ts.countP isPositional

/-- How many slots are declared in front of a place, and so the number of the slot that is declared there. -/
def slotAt (ts : List Token) (i : Nat) : Nat :=
  slotsOf (ts.take i)

/-- How many slots in front of a place go by their position, and so the position of one that is declared there. -/
def positionAt (ts : List Token) (i : Nat) : Nat :=
  positionsOf (ts.take i)

theorem positionsOf_cons (t : Token) (ts : List Token) :
    positionsOf (t :: ts) = (if t.isPositional then 1 else 0) + positionsOf ts := by
  rw [positionsOf, List.countP_cons, Nat.add_comm]
  rfl

theorem ofTokens_cons (slots unnamed : Nat) (t : Token) (ts : List Token) :
    Expansion.ofTokens slots unnamed (t :: ts) =
      let later := Expansion.ofTokens (slots + t.slotCount) (unnamed + if t.isPositional then 1 else 0) ts
      ⟨t.expansion slots ++ later.body, (t.spec? unnamed).toList ++ later.keys⟩ := by
  cases t <;> rfl

theorem keys_append (slots unnamed : Nat) (ts us : List Token) :
    (Expansion.ofTokens slots unnamed (ts ++ us)).keys = (Expansion.ofTokens slots unnamed ts).keys ++
      (Expansion.ofTokens (slots + slotsOf ts) (unnamed + positionsOf ts) us).keys := by
  induction ts generalizing slots unnamed with
  | nil => rfl
  | cons t ts ih =>
    simp only [List.cons_append, ofTokens_cons, ih, slotsOf, positionsOf_cons, List.append_assoc, Nat.add_assoc]

theorem expansions_eq_flatten (slot : Nat) (ts : List Token) :
    expansions slot ts = (ts.mapIdx fun i t => t.expansion (slot + slotAt ts i)).flatten := by
  induction ts generalizing slot with
  | nil => rfl
  | cons t ts ih =>
    rw [expansions, ih, List.mapIdx_cons, List.flatten_cons]
    simp only [slotAt, List.take_succ_cons, List.take_zero, slotsOf, Nat.add_assoc, Nat.add_zero]

theorem keys_eq_flatten (slots unnamed : Nat) (ts : List Token) :
    (Expansion.ofTokens slots unnamed ts).keys =
      (ts.mapIdx fun i t => (t.spec? (unnamed + positionAt ts i)).toList).flatten := by
  induction ts generalizing slots unnamed with
  | nil => rfl
  | cons t ts ih =>
    rw [ofTokens_cons, List.mapIdx_cons, List.flatten_cons]
    simp only [ih, positionAt, List.take_succ_cons, List.take_zero, positionsOf_cons, Nat.add_assoc]
    rfl

/-- The positions are given out in order. -/
theorem positions_keys (slots unnamed : Nat) (ts : List Token) :
    (Expansion.ofTokens slots unnamed ts).keys.filterMap (·.key.index?) =
      List.range' unnamed (positionsOf ts) := by
  induction ts generalizing slots unnamed with
  | nil => rfl
  | cons t ts ih =>
    rw [ofTokens_cons, List.filterMap_append, ih, positionsOf_cons]
    cases t <;> simp [spec?, isPositional, ParamKey.index?, Nat.add_comm 1, List.range'_succ]

/-! ## Expansions -/

/-- What tokens come to, one after the other. -/
structure Translated (ts : List Token) (e : Expansion) : Prop where
  /-- Each token is expanded once, with the number of its slot, and nothing else is written. -/
  body : e.body = (ts.mapIdx fun i t => t.expansion (slotAt ts i)).flatten
  keys : e.keys = (ts.mapIdx fun i t => (t.spec? (positionAt ts i)).toList).flatten
  count : e.keys.length = slotsOf ts
  named : ∀ i p, ts[i]? = some (param p) →
    e.keys[slotAt ts i]? = some ⟨.name (String.ofList p.name), p.optional⟩
  positional : ∀ i t, ts[i]? = some t → t.isPositional = true →
    e.keys[slotAt ts i]? = some ⟨.index (positionAt ts i), false⟩
  positions : e.keys.filterMap (·.key.index?) = List.range (positionsOf ts)
  /-- A slot is a group that has its number. A capture is copied into it. -/
  group : ∀ i t, ts[i]? = some t → t.slotCount = 1 → ∃ front behind,
    t.expansion (slotAt ts i) = front ++ ("(?P<__wp" ++ toString (slotAt ts i) ++ ">").toList ++ behind ∧
      ∀ p body, t = param p → p.capture = some body → ∃ more, behind = body ++ ')' :: more
  /-- All that declares no slot is copied, but for the dot and for the slash in a group. -/
  copied : ∀ i t, ts[i]? = some t → t.slotCount = 0 → t ≠ dot → t ≠ slashGroup →
    t.expansion (slotAt ts i) = t.text

theorem key_of_slot {ts : List Token} {i : Nat} {t : Token} (here : ts[i]? = some t) (slot : t.slotCount = 1) :
    (Expansion.ofTokens 0 0 ts).keys[slotAt ts i]? = t.spec? (positionAt ts i) := by
  obtain ⟨bound, rfl⟩ := List.getElem?_eq_some_iff.1 here
  have split : ts = ts.take i ++ ts[i] :: ts.drop (i + 1) := by
    rw [← List.drop_eq_getElem_cons bound, List.take_append_drop]
  have keys := keys_append 0 0 (ts.take i) (ts[i] :: ts.drop (i + 1))
  rw [← split, Nat.zero_add, Nat.zero_add, ofTokens_cons] at keys
  have size : (Expansion.ofTokens 0 0 (ts.take i)).keys.length = slotAt ts i := length_keys_ofTokens 0 0 _
  rw [keys, List.getElem?_append_right (Nat.le_of_eq size), size, Nat.sub_self]
  have one := length_spec? ts[i] (positionAt ts i)
  rw [slot] at one
  change ((ts[i].spec? (positionAt ts i)).toList ++ _)[0]? = _
  cases spec : ts[i].spec? (positionAt ts i) with
  | none => rw [spec] at one; cases one
  | some spec => rfl

theorem spec?_of_isPositional {t : Token} (positional : t.isPositional = true) (unnamed : Nat) :
    t.slotCount = 1 ∧ t.spec? unnamed = some ⟨.index unnamed, false⟩ := by
  cases t with
  | plus | star | group => exact ⟨rfl, rfl⟩
  | _ => cases positional

theorem expansion_of_slotless {t : Token} (slotless : t.slotCount = 0) (noDot : t ≠ dot)
    (noGroup : t ≠ slashGroup) (slot : Nat) : t.expansion slot = t.text := by
  cases t with
  | dot => exact absurd rfl noDot
  | slashGroup => exact absurd rfl noGroup
  | param | plus | star | group => cases slotless
  | _ => rfl

theorem exists_group {t : Token} (slot : t.slotCount = 1) (k : Nat) : ∃ front behind,
    t.expansion k = front ++ ("(?P<__wp" ++ toString k ++ ">").toList ++ behind ∧
      ∀ p body, t = param p → p.capture = some body → ∃ more, behind = body ++ ')' :: more := by
  have opening : ("(?P<__wp" ++ toString k ++ ">").toList = slotOpening k := by
    simp [slotOpening, slotName]
  rw [opening]
  cases t with
  | param p =>
    refine ⟨ParamToken.front p, ParamToken.body p ++ ')' :: if p.optional then [')', '?'] else [')'], ?_, ?_⟩
    · change ParamToken.expansion p k = _
      simp only [ParamToken.expansion_eq, slotGroup, List.append_assoc, List.cons_append, List.nil_append]
    · intro q body same captured
      obtain rfl := Token.param.inj same
      exact ⟨_, by rw [ParamToken.body, captured]⟩
  | plus | star => exact ⟨[], _, List.append_assoc .., fun p body same => by cases same⟩
  | group => exact ⟨[], [], (List.append_nil _).symm, fun p body same => by cases same⟩
  | _ => cases slot

/-- Separated tokens come to their expansions, in a row: each is expanded once, with the number of its slot, and
declares the key of that number. -/
theorem translates_by_token {ts : List Token} (separated : Separated ts) :
    Translated ts (Expansion.ofText (ts.flatMap text)) := by
  have lexed : lex (ts.flatMap text) = ts := lex_eq_iff.2 ⟨separated, rfl⟩
  rw [Expansion.ofText, lexed]
  exact
    { body := by simpa only [Nat.zero_add] using (body_ofTokens 0 0 ts).trans (expansions_eq_flatten 0 ts)
      keys := by simpa only [Nat.zero_add] using keys_eq_flatten 0 0 ts
      count := length_keys_ofTokens 0 0 ts
      named := fun i p here => key_of_slot here rfl
      positional := fun i t here positional => by
        obtain ⟨slot, spec⟩ := spec?_of_isPositional positional (positionAt ts i)
        exact (key_of_slot here slot).trans spec
      positions := by rw [positions_keys, List.range_eq_range']
      group := fun i t _ slot => exists_group slot _
      copied := fun i t _ slotless noDot noGroup => expansion_of_slotless slotless noDot noGroup _ }

/-- Separators, wildcards and parentheses mean nothing in classes and captures, and nothing in an expansion is read
again. -/
theorem translates_by_token_mixed :
    let id : ParamToken := ⟨true, false, ['i', 'd'], some "\\d+[)]?".toList, true⟩
    let y : ParamToken := ⟨false, true, ['y'], none, false⟩
    let ts := [param id, slashGroup, slash, star, charClass "(:x]".toList, param y, plus, char ')']
    Separated ts ∧ ts.flatMap text = "/:id(\\d+[)]?)?/(/*[(:x].:y+)".toList ∧
      (Expansion.ofText (ts.flatMap text)).body =
        ("(?:/(?P<__wp0>\\d+[)]?))?(?:/" ++ "/(?P<__wp1>.*)[(:x](?:\\.(?P<__wp2>[^/.]+?))(?P<__wp3>.+))").toList ∧
      (Expansion.ofText (ts.flatMap text)).keys =
        [⟨.name "id", true⟩, ⟨.index 0, false⟩, ⟨.name "y", false⟩, ⟨.index 1, false⟩] := by
  intro id y ts
  have separated : Separated ts := (lex_eq_iff.1 (show lex "/:id(\\d+[)]?)?/(/*[(:x].:y+)".toList = ts by decide)).1
  have translated := translates_by_token separated
  exact ⟨separated, by decide, translated.body.trans (by decide), translated.keys.trans (by decide)⟩

end Token

end Routing.Pattern
