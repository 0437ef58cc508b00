import Routing.Proofs.Pattern.Choice
import Routing.Proofs.Pattern.Printing
import Routing.Proofs.Pattern.Rows

/-!
# Alternatives

Alternatives match what one of their members matches. The captures are the whole path and those of the first
member that does; the slots of the other members have no value.

* `leading_choice`: the member that leads on
* `Branches.parse_of_compile`: what parsing does with alternatives
* `Printing.alternatives_take_first`: alternatives and their members
-/
namespace Routing

open Regex

namespace Pattern

/-! ## The member that leads on -/

section

variable {o : MatchOptions} {cs : List Char}

theorem leading_cons (p : Plain) (ps : List Plain) :
    leading o (choice o (p :: ps)) cs =
      ((leading o (piecesOf o p.tokens) cs).map fun x =>
        (x.1 ++ List.replicate (slotsOfAll ps) none, x.2)).or
      ((leading o (choice o ps) cs).map fun x => (List.replicate p.slots none ++ x.1, x.2)) := by
  rw [leading, choice, List.find?_append, List.find?_map, List.find?_map]
  rfl

theorem isSome_leading_choice {ps : List Plain} :
    (leading o (choice o ps) cs).isSome = true ↔
      ∃ p ∈ ps, (leading o (piecesOf o p.tokens) cs).isSome = true := by
  induction ps with
  | nil => simp [leading, choice]
  | cons p ps ih =>
    rw [leading_cons, Option.isSome_or, Bool.or_eq_true, Option.isSome_map, Option.isSome_map]
    simp only [List.mem_cons, exists_eq_or_imp]
    exact or_congr .rfl ih

/-- The first member that leads on gives its values; the slots of the other members have none. -/
theorem leading_choice {before after : List Plain} {p : Plain} {x : Values × List Char}
    (none_ : ∀ q ∈ before, leading o (piecesOf o q.tokens) cs = none)
    (here : leading o (piecesOf o p.tokens) cs = some x) :
    leading o (choice o (before ++ p :: after)) cs =
      some (List.replicate (slotsOfAll before) none ++
        (x.1 ++ List.replicate (slotsOfAll after) none), x.2) := by
  induction before with
  | nil =>
    rw [List.nil_append, leading_cons, here]
    rfl
  | cons q before ih =>
    obtain ⟨first, others⟩ := List.forall_mem_cons.1 none_
    rw [List.cons_append, leading_cons, first, ih others]
    simp [slotsOfAll, Plain.slots, ← List.replicate_append_replicate]

end

theorem leading_captured (o : MatchOptions) (q : Pieces) (cs : List Char) :
    leading o (captured q) cs =
      (leading o q cs).map fun x => (some (cs.take (cs.length - x.2.length)) :: x.1, x.2) := by
  rw [leading, captured, List.find?_map]
  rfl

/-- What pieces leave is the end of the path. -/
theorem exists_front {o : MatchOptions} {ts : List Token} {cs : List Char} {x : Values × List Char}
    (hx : x ∈ piecesOf o ts cs) : ∃ front, cs = front ++ x.2 := by
  induction ts generalizing cs x with
  | nil =>
    obtain rfl := List.mem_singleton.1 hx
    exact ⟨[], rfl⟩
  | cons t ts ih =>
    obtain ⟨y, hy, hx⟩ := List.mem_flatMap.1 hx
    obtain ⟨z, hz, rfl⟩ := List.mem_map.1 hx
    obtain ⟨front, same, -⟩ := Token.mem_pieces.1 hy
    obtain ⟨more, left⟩ := ih hz
    exact ⟨front ++ more, by rw [same, left, List.append_assoc]⟩

/-- What the leading piece takes is the path, or the path without the slash that closes it. -/
theorem exists_whole {o : MatchOptions} {ts : List Token} {path : String} {x : Values × List Char}
    (h : leading o (piecesOf o ts) path.toList = some x) :
    ∃ whole, (path = whole ∨ o.strict = false ∧ path = whole ++ "/") ∧
      String.ofList (path.toList.take (path.toList.length - x.2.length)) = whole := by
  rw [leading] at h
  obtain ⟨front, same⟩ := exists_front (List.mem_of_find?_eq_some h)
  have closes := List.find?_some h
  refine ⟨String.ofList front, ?_, ?_⟩
  · rcases of_decide_eq_true closes with rest | ⟨lax, rest⟩
    · exact .inl (String.toList_inj.1 (by rw [same, rest, List.append_nil, String.toList_ofList]))
    · refine .inr ⟨lax, String.toList_inj.1 ?_⟩
      rw [same, rest, String.toList_append, String.toList_ofList]
      rfl
  · rw [same, List.length_append, Nat.add_sub_cancel, List.take_left]

/-! ## Parsing -/

namespace Branches

/-- The text of alternatives is the joined text of their members. -/
theorem source_alternatives (b : Branches) :
    (Pattern.alternatives (b.all.map Plain.source)).source = String.ofList b.text := by
  have along (p : Plain) (ps : List Plain) : ['|'].intercalate ((p :: ps).map Plain.text) =
      p.text ++ ps.flatMap fun p => '|' :: p.text := by
    induction ps generalizing p with
    | nil => simp
    | cons q ps ih =>
      have later := ih q
      rw [List.map_cons] at later
      rw [List.map_cons, List.map_cons, List.intercalate_cons_cons, later]
      simp
  have texts : (b.all.map Plain.source).map String.toList = b.all.map Plain.text := by
    rw [List.map_map]
    exact List.map_congr_left fun p _ => String.toList_ofList
  apply String.toList_inj.1
  rw [String.toList_ofList, Pattern.source, joined, String.toList_append, String.toList_append,
    String.toList_intercalate, texts, text]
  change ['('] ++ ['|'].intercalate ((b.first :: b.others).map Plain.text) ++ [')'] = _
  rw [along, List.singleton_append, List.cons_append, List.append_assoc]

/-- What alternatives compile to, and what parsing does with it. -/
theorem parse_of_compile {b : Branches} {o : MatchOptions} {c : CompiledPattern}
    (compiled : compile o (.alternatives (b.all.map Plain.source)) = .ok c) (path : String) :
    c.keys = (Expansion.ofText b.text).keys ∧
      ((c.parse path).matched = true ↔
        (leading o (choice o b.all) path.toList).isSome = true) ∧
      ∀ x ∈ leading o (choice o b.all) path.toList,
        (c.parse path).captures =
          some (String.ofList (path.toList.take (path.toList.length - x.2.length))) ::
            x.1.map (·.map String.ofList) := by
  obtain ⟨n, leads, -, program⟩ := b.exists_program o b.source_alternatives
  have result := compile_of_program? rfl program
  rw [compiled] at result
  split at result
  · have same := Except.ok.inj result
    have keys : c.keys = (Expansion.ofText b.text).keys := by
      rw [same, source_alternatives, expansion, String.toList_ofList, ← closingOf,
        b.ofText_closing (isClosing_closingOf o)]
    obtain ⟨matched, captures⟩ := leads.parse (by rw [same]) (by rw [same])
      (keys ▸ b.length_keys_ofText) path
    rw [find?_closing, leading_captured, Option.isSome_map, Option.isSome_map] at matched
    rw [find?_closing, leading_captured] at captures
    refine ⟨keys, matched, fun x hx => ?_⟩
    exact captures _ (Option.map_eq_some_iff.2 ⟨_, Option.map_eq_some_iff.2 ⟨x, hx, rfl⟩, rfl⟩)
  · cases result

/-- Alternatives are refused for their room alone. -/
theorem error_of_compile {b : Branches} {o : MatchOptions} {e : RouterError}
    (refused : compile o (.alternatives (b.all.map Plain.source)) = .error e) :
    400 < weightOfAll b.all ∧
      e = .invalidPattern (Pattern.alternatives (b.all.map Plain.source)).source
        (RegexError.sizeLimitExceeded sizeLimit).message := by
  obtain ⟨n, -, room, program⟩ := b.exists_program o b.source_alternatives
  have result := compile_of_program? rfl program
  rw [refused] at result
  split at result
  · cases result
  · next tooLarge =>
    refine ⟨?_, Except.error.inj result⟩
    by_contra small
    exact tooLarge (fits_anchored (by omega))

end Branches

/-! ## The slots of members -/

/-- The names of the slots that tokens declare, where there is one. -/
def Token.names (ts : List Token) : List (Option String) :=
  ts.flatMap fun t => (t.spec? 0).toList.map (·.key.name?)

theorem names_ofTokens (slots unnamed : Nat) (ts : List Token) :
    (Expansion.ofTokens slots unnamed ts).keys.map (·.key.name?) = Token.names ts := by
  induction ts generalizing slots unnamed with
  | nil => rfl
  | cons t ts ih =>
    have here : (t.spec? unnamed).toList.map (·.key.name?) = (t.spec? 0).toList.map (·.key.name?) := by
      cases t <;> rfl
    rw [Expansion.ofTokens, List.map_append, here, ih, Token.names, Token.names, List.flatMap_cons]

namespace Plain

theorem exists_of_light (p : Plain) (o : MatchOptions) (light : p.weight ≤ 400) :
    ∃ d, compile o (.path p.source) = .ok d := by
  cases compiled : compile o (.path p.source) with
  | ok d => exact ⟨d, rfl⟩
  | error e => exact absurd (error_of_compile compiled).1 (Nat.not_lt.2 light)

/-- What a member does on its own. -/
theorem parse_alone {p : Plain} {o : MatchOptions} {d : CompiledPattern}
    (compiled : compile o (.path p.source) = .ok d) (path : String) :
    ((d.parse path).matched = true ↔
        (leading o (piecesOf o p.tokens) path.toList).isSome = true) ∧
      ∀ x ∈ leading o (piecesOf o p.tokens) path.toList,
        (d.parse path).captures = x.1.map (·.map String.ofList) := by
  obtain ⟨-, matched, captured⟩ := parse_of_compile compiled path
  rw [head?_cuts, Option.isSome_map] at matched
  rw [head?_cuts] at captured
  exact ⟨matched, fun x hx => captured x.1 (Option.map_eq_some_iff.2 ⟨x, hx, rfl⟩)⟩

theorem keys_of_compile {p : Plain} {o : MatchOptions} {d : CompiledPattern}
    (compiled : compile o (.path p.source) = .ok d) :
    d.keys.length = p.slots ∧ d.keys.map (·.key.name?) = Token.names p.tokens := by
  obtain ⟨keys, -⟩ := parse_of_compile compiled ""
  rw [keys, expansion_source]
  refine ⟨p.length_keys_ofText (isClosing_closingOf o), ?_⟩
  rw [Expansion.ofText, p.lex_text (isClosing_closingOf o), names_ofTokens, Token.names, List.flatMap_append]
  cases closingOf o <;> simp [Token.names, Token.closingTokens, Token.spec?]

end Plain

theorem Branches.names_of_compile {b : Branches} {o : MatchOptions} {c : CompiledPattern}
    (compiled : compile o (.alternatives (b.all.map Plain.source)) = .ok c) :
    c.keys.map (·.key.name?) = none :: b.all.flatMap fun p => Token.names p.tokens := by
  obtain ⟨keys, -⟩ := parse_of_compile compiled ""
  rw [keys, Expansion.ofText, lex_text, names_ofTokens, tokens, all, List.flatMap_cons]
  simp only [Token.names, List.flatMap_cons, List.flatMap_append, List.flatMap_assoc, barTokens]
  simp [Token.spec?, ParamKey.name?]

/-! ## Members one by one -/

section

variable {α β : Type} {R : α → β → Prop}

theorem exists_mem_iff_of_forall₂ {P : α → Prop} {Q : β → Prop} (same : ∀ a b, R a b → (P a ↔ Q b))
    {as : List α} {bs : List β} (h : List.Forall₂ R as bs) : (∃ a ∈ as, P a) ↔ ∃ b ∈ bs, Q b := by
  induction h with
  | nil => simp
  | cons here _ ih =>
    simp only [List.mem_cons, exists_eq_or_imp]
    exact or_congr (same _ _ here) ih

theorem exists_of_forall₂_append {as : List α} {before after : List β} {b : β}
    (h : List.Forall₂ R as (before ++ b :: after)) :
    ∃ front a behind, as = front ++ a :: behind ∧ List.Forall₂ R front before ∧ R a b ∧
      List.Forall₂ R behind after := by
  induction before generalizing as with
  | nil =>
    obtain ⟨a, behind, here, later, rfl⟩ := List.forall₂_cons_right_iff.1 h
    exact ⟨[], a, behind, rfl, .nil, here, later⟩
  | cons d before ih =>
    obtain ⟨e, as, first, later, rfl⟩ := List.forall₂_cons_right_iff.1 h
    obtain ⟨front, a, behind, rfl, others, here, rest⟩ := ih later
    exact ⟨e :: front, a, behind, rfl, .cons first others, here, rest⟩

end

/-- The slots of patterns that take no part in a match. -/
def absent (ds : List CompiledPattern) : List (Option String) :=
  ds.flatMap fun d => List.replicate d.keys.length none

section

variable {o : MatchOptions} {ps : List Plain} {ds : List CompiledPattern}

theorem absent_eq (h : List.Forall₂ (fun p d => compile o (.path p.source) = .ok d) ps ds) :
    absent ds = List.replicate (slotsOfAll ps) none := by
  induction h with
  | nil => rfl
  | @cons p d ps ds here _ ih =>
    have both : slotsOfAll (p :: ps) = p.slots + slotsOfAll ps := rfl
    rw [both, ← List.replicate_append_replicate, ← ih, ← (Plain.keys_of_compile here).1]
    rfl

theorem flatMap_names (h : List.Forall₂ (fun p d => compile o (.path p.source) = .ok d) ps ds) :
    ps.flatMap (fun p => Token.names p.tokens) = ds.flatMap fun d => d.keys.map (·.key.name?) := by
  induction h with
  | nil => rfl
  | cons here _ ih => rw [List.flatMap_cons, List.flatMap_cons, ih, (Plain.keys_of_compile here).2]

end

/-- Alternatives of plain patterns, and what these do on their own. -/
theorem Branches.parse_members {b : Branches} {o : MatchOptions} {c : CompiledPattern}
    (compiled : compile o (.alternatives (b.all.map Plain.source)) = .ok c) {alone : List CompiledPattern}
    (each : List.Forall₂ (fun p d => compile o (.path p.source) = .ok d) b.all alone) (path : String) :
    ((c.parse path).matched = true ↔ ∃ d ∈ alone, (d.parse path).matched = true) ∧
      ∀ before first after, alone = before ++ first :: after →
        (∀ d ∈ before, (d.parse path).matched = false) → (first.parse path).matched = true →
        ∃ whole, (path = whole ∨ o.strict = false ∧ path = whole ++ "/") ∧
          (c.parse path).captures =
            some whole :: (absent before ++ ((first.parse path).captures ++ absent after)) := by
  obtain ⟨-, matched, captures⟩ := parse_of_compile compiled path
  have member (p : Plain) (d : CompiledPattern) (h : compile o (.path p.source) = .ok d) :
      (leading o (piecesOf o p.tokens) path.toList).isSome = true ↔ (d.parse path).matched = true :=
    (Plain.parse_alone h path).1.symm
  constructor
  · rw [matched, isSome_leading_choice]
    exact exists_mem_iff_of_forall₂ member each
  · rintro before first after rfl none_ here
    obtain ⟨front, p, behind, members, earlier, this, later⟩ := exists_of_forall₂_append each
    obtain ⟨x, found⟩ := Option.isSome_iff_exists.1 ((member p first this).2 here)
    have unmatched : ∀ q ∈ front, leading o (piecesOf o q.tokens) path.toList = none := by
      intro q hq
      by_contra some_
      obtain ⟨d, hd, matched⟩ := (exists_mem_iff_of_forall₂ member earlier).1
        ⟨q, hq, Option.isSome_iff_ne_none.2 some_⟩
      rw [none_ d hd] at matched
      cases matched
    have all : leading o (choice o (front ++ p :: behind)) path.toList = _ := leading_choice unmatched found
    rw [← members] at all
    obtain ⟨whole, ends, taken⟩ := exists_whole found
    refine ⟨whole, ends, ?_⟩
    rw [captures _ all, taken, (Plain.parse_alone this path).2 x found, absent_eq earlier, absent_eq later]
    simp

/-! ## Members as written -/

namespace Printing

/-- What the weights of members add up to, with one more for each of them. -/
def weightOfAll : List Printing → Nat
  | [] => 0
  | p :: members => p.weight + 1 + weightOfAll members

/-- The texts of members are those of plain patterns. -/
theorem exists_plains (members : List Printing) : ∃ ps : List Plain,
    members.map text = ps.map Plain.source ∧
      Pattern.weightOfAll ps ≤ weightOfAll members := by
  induction members with
  | nil => exact ⟨[], rfl, Nat.le_refl 0⟩
  | cons p members ih =>
    obtain ⟨q, source, light⟩ := p.exists_plain
    obtain ⟨ps, texts, weights⟩ := ih
    refine ⟨q :: ps, by rw [List.map_cons, List.map_cons, source, texts], ?_⟩
    rw [weightOfAll, Pattern.weightOfAll]
    omega

/-- Alternatives, and each of their members, are accepted exactly if their program keeps to the limit, which that of
a moderate one does. If none is refused, the alternatives match what one of the members matches. The captures are the
path, perhaps without the slash that closes it, and then those of the first member that matches; the slots of the
other members have no value. -/
theorem alternatives_take_first (members : List Printing) (some_ : members ≠ []) (o : MatchOptions) :
    IsDecidedBySize o (.alternatives (members.map text)) ∧
    (∀ p ∈ members, IsDecidedBySize o (.path p.text)) ∧
    (∀ e, compile o (.alternatives (members.map text)) = .error e →
      400 < weightOfAll members ∧
        e = .invalidPattern (Pattern.alternatives (members.map text)).source
          (RegexError.sizeLimitExceeded sizeLimit).message) ∧
    (∀ p ∈ members, ∀ e, compile o (.path p.text) = .error e → 400 < p.weight ∧
      e = .invalidPattern p.text (RegexError.sizeLimitExceeded sizeLimit).message) ∧
    ∀ c alone, compile o (.alternatives (members.map text)) = .ok c →
      List.Forall₂ (fun p d => compile o (.path p.text) = .ok d) members alone →
      c.keys.map (·.key.name?) = none :: alone.flatMap (fun d => d.keys.map (·.key.name?)) ∧
      ∀ path : String,
        ((c.parse path).matched = true ↔ ∃ d ∈ alone, (d.parse path).matched = true) ∧
        ∀ before first after, alone = before ++ first :: after →
          (∀ d ∈ before, (d.parse path).matched = false) → (first.parse path).matched = true →
          ∃ whole, (path = whole ∨ o.strict = false ∧ path = whole ++ "/") ∧
            (c.parse path).captures =
              some whole :: (absent before ++ ((first.parse path).captures ++ absent after)) := by
  obtain ⟨ps, texts, weights⟩ := exists_plains members
  obtain ⟨b, rfl⟩ : ∃ b : Branches, ps = b.all := by
    cases ps with
    | nil => exact absurd (List.map_eq_nil_iff.1 texts) some_
    | cons q ps => exact ⟨⟨q, ps⟩, rfl⟩
  rw [texts]
  refine ⟨?_, fun p _ => ?_, fun e refused => ?_, fun p _ e refused => ?_, fun c alone compiled each => ?_⟩
  · obtain ⟨n, -, -, program⟩ := b.exists_program o b.source_alternatives
    exact isDecidedBySize_of_program? rfl program
  · obtain ⟨q, source, -⟩ := p.exists_plain
    exact source ▸ q.isDecidedBySize o
  · obtain ⟨heavy, same⟩ := Branches.error_of_compile refused
    exact ⟨Nat.lt_of_lt_of_le heavy weights, same⟩
  · obtain ⟨q, source, light⟩ := p.exists_plain
    rw [← source] at refused ⊢
    obtain ⟨heavy, same⟩ := Plain.error_of_compile refused
    exact ⟨Nat.lt_of_lt_of_le heavy light, same⟩
  · have plain : List.Forall₂ (fun p d => compile o (.path p.source) = .ok d) b.all alone := by
      have written : List.Forall₂ (fun s d => compile o (.path s) = .ok d) (members.map text) alone :=
        List.forall₂_map_left_iff.2 each
      rw [texts] at written
      exact List.forall₂_map_left_iff.1 written
    refine ⟨?_, b.parse_members compiled plain⟩
    rw [Branches.names_of_compile compiled, flatMap_names plain]

/-- The first member needs another word, so that its slot has no value. -/
theorem alternatives_take_first_team :
    ∃ c, compile ⟨true, false⟩ (.alternatives ["/user/:id", "/:kind/:id?"]) = .ok c ∧
      (c.parse "/team/7").captures = [some "/team/7", none, some "team", some "7"] := by
  let o : MatchOptions := ⟨true, false⟩
  let id : ParamToken := ⟨true, false, ['i', 'd'], none, false⟩
  let user : Plain := ⟨[.slash, .char 'u', .char 's', .char 'e', .char 'r', .param id], by decide, by decide⟩
  let kind : Plain :=
    ⟨[.param ⟨true, false, ['k', 'i', 'n', 'd'], none, false⟩, .param { id with optional := true }],
      by decide, by decide⟩
  let members : List Printing := [⟨user.tokens, user.plain⟩, ⟨kind.tokens, kind.plain⟩]
  obtain ⟨-, -, refused, -, parsed⟩ := alternatives_take_first members (by simp [members]) o
  obtain ⟨d, first⟩ := user.exists_of_light o (by decide)
  obtain ⟨d', second⟩ := kind.exists_of_light o (by decide)
  have source : members.map text = ["/user/:id", "/:kind/:id?"] := by decide
  cases compiled : compile o (.alternatives (members.map text)) with
  | error e => exact absurd (refused e compiled).1 (by decide)
  | ok c =>
    have unmatched : (d.parse "/team/7").matched = false := by
      rw [← Bool.not_eq_true, (Plain.parse_alone first "/team/7").1]
      decide
    have found : leading o (piecesOf o kind.tokens) "/team/7".toList =
        some ([some ['t', 'e', 'a', 'm'], some ['7']], []) := by decide +kernel
    obtain ⟨matched, captures⟩ := Plain.parse_alone second "/team/7"
    rw [found] at matched captures
    have values := captures _ rfl
    obtain ⟨-, taken⟩ := parsed c [d, d'] compiled (.cons first (.cons second .nil))
    obtain ⟨whole, path, all⟩ := (taken "/team/7").2 [d] d' [] rfl (by simpa using unmatched)
      (matched.2 rfl)
    have same : whole = "/team/7" := by
      obtain same | ⟨-, longer⟩ := path
      · exact same.symm
      · have last := congrArg (fun s : String => s.toList.getLast?) longer
        simp at last
    have slots : d.keys.length = 1 := (Plain.keys_of_compile first).1
    refine ⟨c, by rw [← source, compiled], ?_⟩
    rw [all, same, values]
    simp [absent, slots]

/-! ### Members that are too long -/

/-- A parameter, or one letter that is repeated. -/
def nameOrLetters (n : Nat) : List Printing :=
  [⟨[.param ⟨false, false, ['x'], none, false⟩], rfl⟩,
    ⟨(Plain.letters n).tokens, (Plain.letters n).plain⟩]

theorem compile_nameOrLetters {n : Nat} (long : sizeLimit < 32 * n) :
    compile ⟨true, true⟩ (.alternatives ((nameOrLetters n).map text)) =
      .error (.invalidPattern (Pattern.alternatives ((nameOrLetters n).map text)).source
        (RegexError.sizeLimitExceeded sizeLimit).message) := by
  let o : MatchOptions := ⟨true, true⟩
  let name : Plain := ⟨[.param ⟨false, false, ['x'], none, false⟩], rfl, .singleton _⟩
  let b : Branches := ⟨name, [Plain.letters n]⟩
  have texts : (nameOrLetters n).map text = b.all.map Plain.source := rfl
  let value : Node := .rep 1 none false (.set (segmentSet o false))
  have first : (Reader.sequenceOfItems (Token.exprsOf 1 name.tokens)).lower (flagsOf o) =
      .ok (.group 2 (some (Token.slotName 1)) value, flagsOf o) := by
    have segment := denotes_segment o false
    have same : (flagsOf o).set [] = flagsOf o := rfl
    simp only [name, Token.exprsOf, Token.exprs, Token.ParamToken.exprs, Token.ParamToken.valueExprs,
      Token.separatorExprs, Token.captureExpr, Bool.false_eq_true, if_false, List.nil_append,
      Reader.sequenceOfItems, Expr.lower, same, segment, bind, Except.bind, pure, Except.pure]
    rfl
  obtain ⟨a, second, isText, count⟩ := Plain.lower_letters n 2
  have noAlt : a.isAlt = false := by cases a <;> first | rfl | cases isText
  have settled : (Node.ofBranches [.group 2 (some (Token.slotName 1)) value, a]).settled =
      .alt (.group 2 (some (Token.slotName 1)) value) a := Node.settled_alt_group _ _ noAlt
  have lower := b.lower_group o (.cons first (.cons second .nil))
  rw [settled] at lower
  have refused : (Node.group 1 (some (Token.slotName 0))
      (.alt (.group 2 (some (Token.slotName 1)) value) a)).anchored.fits sizeLimit = false := by
    refine Node.fits_chosen_eq_false 1 2 _ _ isText ?_
    rwa [count]
  rw [texts, compile_of_program? rfl (b.program?_of_lower o b.source_alternatives lower rfl), refused]
  rfl

/-- A parameter alone matches every segment, but not beside a text that is too long. -/
theorem alternatives_refused_beside_long :
    ¬ ((∃ c, compile ⟨true, true⟩ (.alternatives ((nameOrLetters 330000).map text)) = .ok c ∧
        (c.parse "b").matched = true) ↔
      ∃ p ∈ nameOrLetters 330000, ∃ d, compile ⟨true, true⟩ (.path p.text) = .ok d ∧
        (d.parse "b").matched = true) := by
  intro same
  let name : Plain := ⟨[.param ⟨false, false, ['x'], none, false⟩], rfl, .singleton _⟩
  obtain ⟨d, compiled⟩ := name.exists_of_light ⟨true, true⟩ (by decide)
  have matched := (Plain.parse_alone compiled "b").1.2 (by decide)
  obtain ⟨c, compiled, -⟩ := same.2 ⟨_, List.mem_cons_self, d, compiled, matched⟩
  rw [compile_nameOrLetters (by decide)] at compiled
  cases compiled

end Printing

end Pattern

end Routing
