import Routing.Proofs.Pattern.Appending
import Routing.Proofs.Pattern.Covering
import Routing.Proofs.Regex.Finding
import Routing.Proofs.Regex.Trailing
import Routing.Proofs.Unicode.Uncased

/-!
# Patterns that admit a slash at the end

Unless it is strict, a pattern admits a slash behind what it matches. The slash is put behind the text of
the pattern, so that it belongs to the last alternative alone where one stands outside of all groups.

* `read_slashed`: how a text is read with the slash behind it
* `Node.takes_slashed`: what a node takes with the slash behind it
* `match_slash`: when the slash makes no other difference than the one intended
* `slash_refused`: a path that is not matched with a slash behind it
-/
namespace Routing

open Regex Regex.Reader Unicode Pattern

namespace Regex

/-! ## The slash -/

theorem isEmpty_toSet_slash (f : Flags) : (Literal.toSet f '/').isEmpty = false := by
  obtain ⟨ignoreCase, multiLine, dotAll, swapGreed, unicode, crlf⟩ := f
  cases ignoreCase <;> cases unicode <;> rfl

/-- A slash has no other case. -/
theorem contains_toSet_slash (f : Flags) (c : Char) :
    (Literal.toSet f '/').contains c = true ↔ c = '/' := by
  have folded : (CharSet.foldsAs '/').contains c = true ↔ c = '/' := by
    simp only [CharSet.contains, CharSet.containsPoint, beq_iff_eq]
    rw [foldPoint_eq_iff_of_lt (by decide), Char.toNat_inj]
  have swapped : (CharSet.asciiFolded (.single '/')).contains c = true ↔ c = '/' := by
    have point : '/'.toNat = 47 := rfl
    simp only [CharSet.contains, CharSet.containsPoint, Bool.or_eq_true, CharSet.containsPoint_single,
      CharSet.asciiSwap, ← Char.toNat_inj, point]
    split_ifs <;> omega
  unfold Literal.toSet
  split_ifs
  · exact folded
  · exact swapped
  · simp

namespace Node

variable {text : List Char} {a : Node} {greedy : Bool} {i j : Nat}

theorem takes_optional : (rep 0 (some 1) greedy a).Takes text i j ↔ i = j ∨ a.Takes text i j := by
  constructor
  · rintro ⟨n, ⟨-, limit⟩, times⟩
    have few : n ≤ 1 := limit 1 rfl
    match n, few with
    | 0, _ => exact .inl times
    | 1, _ => exact .inr (times_one.1 times)
  · rintro (rfl | once)
    · exact ⟨0, ⟨Nat.zero_le _, fun _ _ => Nat.zero_le _⟩, rfl⟩
    · refine ⟨1, ⟨Nat.zero_le _, fun m hm => ?_⟩, times_one.2 once⟩
      obtain rfl := Option.mem_some.1 hm
      exact Nat.le_refl _

/-- With a slash behind it that may be left out, a node takes what it takes by itself, and that with a
slash at its end. -/
theorem takes_slashed {slash : CharSet} (members : ∀ c, slash.contains c = true ↔ c = '/') :
    (a.append (rep 0 (some 1) greedy (set slash))).Takes text 0 text.length ↔
      a.Takes text 0 text.length ∨ ∃ front, text = front ++ ['/'] ∧ a.Takes text 0 front.length := by
  have optional (k : Nat) : (rep 0 (some 1) greedy (set slash)).Takes text k text.length ↔
      k = text.length ∨ text.length = k + 1 ∧ text[k]? = some '/' := by
    rw [takes_optional]
    simp [Takes, members]
  simp only [takes_append, optional]
  constructor
  · rintro ⟨k, leads, rfl | ⟨last, found⟩⟩
    · exact .inl leads
    · have slash : text.getLast? = some '/' := by
        rw [List.getLast?_eq_getElem?, last]
        exact found
      obtain ⟨front, rfl⟩ := List.getLast?_eq_some_iff.1 slash
      obtain rfl : front.length = k := by simpa using last
      exact .inr ⟨front, rfl, leads⟩
  · rintro (leads | ⟨front, rfl, leads⟩)
    · exact ⟨_, leads, .inl rfl⟩
    · exact ⟨_, leads, .inr ⟨by simp, by simp⟩⟩

end Node

/-! ## Reading and lowering -/

/-- The slash that may be left out. -/
def slashExpr : Expr :=
  .repetition 0 (some 1) true (Token.literalExpr '/')

theorem lower_slashExpr (f : Flags) :
    slashExpr.lower f = .ok (.rep 0 (some 1) (true != f.swapGreed) (.set (Literal.toSet f '/')), f) := by
  simp [slashExpr, Token.literalExpr, Expr.lower, Literal.lower, bind, Except.bind, pure, Except.pure,
    Node.ofSet, isEmpty_toSet_slash, Node.repeated, Node.takesNothing]

/-- To go on with the slash is to append its node. -/
theorem lower_slashed {items : List Expr} {f g : Flags} {a : Node}
    (h : (sequenceOfItems items).lower f = .ok (a, g)) :
    (sequenceOfItems (slashExpr :: items)).lower f =
      .ok (a.append (.rep 0 (some 1) (true != g.swapGreed) (.set (Literal.toSet g '/'))), g) := by
  cases items with
  | nil =>
    cases h
    exact lower_slashExpr f
  | cons item items =>
    change (Expr.sequence (sequenceOfItems (item :: items)) slashExpr).lower f = _
    rw [Expr.lower, h]
    simp only [bind, Except.bind, lower_slashExpr]
    rfl

theorem isGrouped_toExpr {l : Level} (grouped : l.toExpr.isGrouped = true) :
    l.branches = [] ∧ l.toExpr = sequenceOfItems l.items := by
  obtain ⟨branches, items⟩ := l
  cases branches with
  | nil => exact ⟨rfl, rfl⟩
  | cons branch branches => cases grouped

/-- A mark behind a slash makes it one that may be left out, whatever the mode. -/
theorem reads_slashExpr {s : State} {cs rest : List Char}
    (front : skipBlanks s.extended cs = '/' :: '?' :: rest) (next : rest.head? ≠ some '?') :
    Reads s cs (s.push slashExpr) rest := by
  have slash : readPart s '/' ('?' :: rest) = .ok (s.push (Token.literalExpr '/'), '?' :: rest) :=
    readPart_literal (by decide) _ _
  have mark : readPart (s.push (Token.literalExpr '/')) '?' rest = .ok (s.push slashExpr, rest) := by
    change readRepetition (s.push (Token.literalExpr '/')) 0 (some 1) rest = _
    cases rest with
    | nil => rfl
    | cons c rest =>
      have greedy : c ≠ '?' := fun same => next (congrArg some same)
      simp [readRepetition, Level.popOperand, State.push, Level.push, Token.literalExpr, greedy, slashExpr]
  have blank : isBlank '?' = false := by decide +kernel
  exact .part front slash (.part (skipBlanks_cons blank (by decide) _ _) mark (.here _ _))

end Regex

namespace Pattern

/-- How a text is read with the slash behind it, if no alternative stands outside of its groups. -/
theorem read_slashed {x y : Expansion} {a e : Expr} (behind : y.body = x.body ++ optionalSlash)
    (inner : Expr.read x.body = .ok a) (grouped : a.isGrouped = true)
    (outer : Expr.read (anchored y).toList = .ok e) :
    ∃ items, a = sequenceOfItems items ∧ e = anchoredExpr (sequenceOfItems (slashExpr :: items)) := by
  have text : (anchored y).toList = "^(?:".toList ++ (x.body ++ closing true) := by
    simp [toList_anchored, behind, optionalSlash, closing]
  rw [text] at outer
  obtain ⟨s, left, groups, rfl, run, closed⟩ := exists_inside true inner outer
  obtain ⟨branches, alone⟩ := isGrouped_toExpr grouped
  refine ⟨s.level.items, alone, ?_⟩
  have slash : Reads (s.inside anchorGroup) left ((s.inside anchorGroup).push slashExpr) [')', '$'] :=
    reads_slashExpr closed (by decide)
  have inside : ((s.inside anchorGroup).push slashExpr).groups = [anchorGroup] := by
    rw [State.push, State.inside, groups, List.nil_append]
  have level : ((s.inside anchorGroup).push slashExpr).level.toExpr =
      sequenceOfItems (slashExpr :: s.level.items) := by
    simp only [State.push, State.inside, Level.toExpr, Level.push, branches, alternationOfBranches]
  have mark := skipBlanks_cons isBlank_closing (by decide) s.extended ['$']
  rw [← level]
  exact eq_anchoredExpr inside (run.trans slash) mark outer

/-! ## Matching -/

theorem isMatch_iff_takes {c : CompiledPattern} {a : Node} (node : c.regex.node = a.anchored)
    (path : String) : c.isMatch path = true ↔ a.Takes path.toList 0 path.toList.length := by
  rw [CompiledPattern.isMatch, Regex.isMatch, Regex.find?, Option.isSome_map, node]
  exact Node.anchored_search_isSome_iff

/-- The matchers of a text that is an expression by itself, in which no alternative stands outside of its
groups: they differ by the slash. -/
theorem exists_node_slashed {caseSensitive : Bool} {p : Pattern} {text : String} {c c' : CompiledPattern}
    {e : Expr} (ht : p.text? = some text) (strict : compile ⟨caseSensitive, true⟩ p = .ok c)
    (loose : compile ⟨caseSensitive, false⟩ p = .ok c')
    (whole : Expr.read (expansion ⟨caseSensitive, true⟩ text).body = .ok e)
    (grouped : e.isGrouped = true) :
    ∃ (a : Node) (greedy : Bool) (slash : CharSet), c.regex.node = a.anchored ∧
      c'.regex.node = (a.append (.rep 0 (some 1) greedy (.set slash))).anchored ∧
      (∀ x, slash.contains x = true ↔ x = '/') ∧ (e.seesEnd = false → a.seesEnd = false) := by
  obtain ⟨e₁, node, f, read, lower, settled, -⟩ := exists_of_compile ht strict
  obtain ⟨e₂, node', f', read', lower', settled', -⟩ := exists_of_compile ht loose
  have behind : (expansion ⟨caseSensitive, false⟩ text).body =
      (expansion ⟨caseSensitive, true⟩ text).body ++ optionalSlash := by
    have longer := congrArg Expansion.body (Expansion.ofText_append text.toList)
    simpa [expansion, optionalSlash] using longer
  obtain rfl := read_anchored whole read
  obtain ⟨items, rfl, rfl⟩ := read_slashed behind whole grouped read'
  obtain ⟨a, after, lowered, rfl⟩ := exists_lower_of_anchored rfl lower
  obtain ⟨b, g, lowered', rfl⟩ := exists_lower_of_anchored rfl lower'
  obtain ⟨rfl, rfl⟩ := Prod.mk.inj (Except.ok.inj (lowered'.symm.trans (lower_slashed lowered)))
  have form := Expr.settled_of_lower lowered grouped
  refine ⟨a, true != g.swapGreed, Literal.toSet g '/', ?_, ?_, contains_toSet_slash g,
    Expr.seesEnd_of_lower lowered⟩
  · rw [settled, Node.settled_anchored, form]
  · rw [settled', Node.settled_anchored, Node.settled_append form rfl]

/-- If the text of a pattern is an expression by itself in which no alternative stands outside of the
groups, the matcher that is not strict accepts what the strict one accepts, and nothing else but that with
a slash at its end. It accepts all of that if no assertion asks for an end. -/
theorem match_slash {caseSensitive : Bool} {p : Pattern} {text : String} {c c' : CompiledPattern}
    {e : Expr} (ht : p.text? = some text) (strict : compile ⟨caseSensitive, true⟩ p = .ok c)
    (loose : compile ⟨caseSensitive, false⟩ p = .ok c')
    (whole : Expr.read (expansion ⟨caseSensitive, true⟩ text).body = .ok e)
    (grouped : e.isGrouped = true) (path : String) :
    (c.isMatch path = true → c'.isMatch path = true) ∧
      (c'.isMatch path = true →
        c.isMatch path = true ∨ ∃ front, path = front ++ "/" ∧ c.isMatch front = true) ∧
      (e.seesEnd = false → (c'.isMatch path = true ↔
        c.isMatch path = true ∨ ∃ front, path = front ++ "/" ∧ c.isMatch front = true)) := by
  obtain ⟨a, greedy, slash, node, node', members, noEnd⟩ := exists_node_slashed ht strict loose whole grouped
  have loosely : c'.isMatch path = true ↔ c.isMatch path = true ∨
      ∃ front, path.toList = front ++ ['/'] ∧ a.Takes path.toList 0 front.length := by
    rw [isMatch_iff_takes node', isMatch_iff_takes node]
    exact Node.takes_slashed members
  have further : c'.isMatch path = true →
      c.isMatch path = true ∨ ∃ front, path = front ++ "/" ∧ c.isMatch front = true := by
    intro accepted
    rcases loosely.1 accepted with accepted | ⟨front, split, leads⟩
    · exact .inl accepted
    · refine .inr ⟨String.ofList front, ?_, ?_⟩
      · rw [← String.toList_inj, String.toList_append, String.toList_ofList, split]
        rfl
      · rw [isMatch_iff_takes node, String.toList_ofList]
        exact Node.Takes.without_slash (split ▸ leads) (Nat.le_refl _)
  refine ⟨fun accepted => loosely.2 (.inl accepted), further, fun none_ => ⟨further, ?_⟩⟩
  rintro (accepted | ⟨front, rfl, accepted⟩)
  · exact loosely.2 (.inl accepted)
  · have split : (front ++ "/").toList = front.toList ++ ['/'] := String.toList_append
    have leads := (isMatch_iff_takes node front).1 accepted
    exact loosely.2 (.inr ⟨front.toList, split, split ▸ leads.with_slash (noEnd none_) (Nat.le_refl _)⟩)

theorem match_slash_user :
    ∃ c c', compile ⟨false, true⟩ (.path "/user/:id") = .ok c ∧
      compile ⟨false, false⟩ (.path "/user/:id") = .ok c' ∧
      c.isMatch "/user/7" = true ∧ c.isMatch "/user/7/" = false ∧ c'.isMatch "/user/7/" = true := by
  have compiled : (compile ⟨false, true⟩ (.path "/user/:id")).toOption.map (fun c =>
      (c.isMatch "/user/7", c.isMatch "/user/7/")) = some (true, false) := by decide +kernel
  have compiled' : (compile ⟨false, false⟩ (.path "/user/:id")).toOption.map (fun _ => ()) =
      some () := by decide +kernel
  have read : (Expr.read (expansion ⟨false, true⟩ "/user/:id").body).toOption.map
      (fun e => (e.isGrouped, e.seesEnd)) = some (true, false) := by decide +kernel
  obtain ⟨c, strict, outcome⟩ := exists_ok compiled
  obtain ⟨c', loose, -⟩ := exists_ok compiled'
  obtain ⟨e, whole, form⟩ := exists_ok read
  obtain ⟨accepted, refused⟩ := Prod.mk.inj outcome
  obtain ⟨grouped, noEnd⟩ := Prod.mk.inj form
  have slash := match_slash rfl strict loose whole grouped "/user/7/"
  exact ⟨c, c', strict, loose, accepted, refused, (slash.2.2 noEnd).2 (.inr ⟨"/user/7", rfl, accepted⟩)⟩

/-- The slash belongs to the last alternative, so that no other one is matched with a slash behind it. -/
theorem slash_refused :
    ∃ c c', compile ⟨false, true⟩ (.path "/a|/b") = .ok c ∧
      compile ⟨false, false⟩ (.path "/a|/b") = .ok c' ∧
      ¬ (c'.isMatch "/a/" = true ↔
        c.isMatch "/a/" = true ∨ ∃ front, "/a/" = front ++ "/" ∧ c.isMatch front = true) := by
  have compiled : (compile ⟨false, true⟩ (.path "/a|/b")).toOption.map (·.isMatch "/a") =
      some true := by decide +kernel
  have compiled' : (compile ⟨false, false⟩ (.path "/a|/b")).toOption.map (·.isMatch "/a/") =
      some false := by decide +kernel
  obtain ⟨c, strict, accepted⟩ := exists_ok compiled
  obtain ⟨c', loose, refused⟩ := exists_ok compiled'
  refine ⟨c, c', strict, loose, fun law => ?_⟩
  have admitted := law.2 (.inr ⟨"/a", rfl, accepted⟩)
  rw [refused] at admitted
  cases admitted

end Pattern

end Routing
