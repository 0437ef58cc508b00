import Routing.Proofs.Pattern.Expression
import Routing.Proofs.Regex.Anchored
import Routing.Proofs.Regex.Closing
import Routing.Proofs.Regex.Tied
import Routing.Request

/-!
# Matches that cover the whole path

The anchors stand around the text of a pattern. They hold for all of it if the text is an expression by
itself, or if no way through the expression leads past one of them.

* `exists_of_compile`: what an accepted pattern was read and lowered to
* `read_anchored`: a text that is an expression by itself is one group between the anchors
* `match_covers`: when every match covers the whole path
-/
namespace Routing

open Regex Regex.Reader

namespace Regex.Node

theorem startsAtStart_append (a b : Node) :
    (a.append b).startsAtStart = (a.startsAtStart || (a.takesNothing && b.startsAtStart)) := by
  fun_induction append a b with
  | case1 a => simp [startsAtStart]
  | case2 a b c ih =>
    simp only [startsAtStart, ih, takesNothing_append]
    cases a.startsAtStart <;> cases a.takesNothing <;> simp
  | case3 b => simp [startsAtStart, takesNothing]
  | case4 => rfl

theorem stopsAtStop_append (a b : Node) :
    (a.append b).stopsAtStop = (b.stopsAtStop || (b.takesNothing && a.stopsAtStop)) := by
  fun_induction append a b with
  | case1 a => simp [stopsAtStop, takesNothing]
  | case2 a b c ih =>
    simp only [stopsAtStop, ih, takesNothing]
    cases c.stopsAtStop <;> cases c.takesNothing <;> simp
  | case3 b => simp [stopsAtStop]
  | case4 => rfl

/-- Every match is tied to both ends of the text, as far as assertions tell. -/
def isTied (a : Node) : Bool :=
  a.startsAtStart && a.stopsAtStop

theorem isTied_anchored (a : Node) : a.anchored.isTied = true := by
  simp [isTied, anchored, startsAtStart_append, stopsAtStop_append, startsAtStart, stopsAtStop]

end Regex.Node

namespace Pattern

/-! ## Accepted patterns -/

theorem layout_of_compile {o : MatchOptions} {p : Pattern} {text : String} {c : CompiledPattern}
    (ht : p.text? = some text) (hc : compile o p = .ok c) : c.layout = .named := by
  cases p with
  | regex r => cases ht
  | path _ | alternatives _ =>
    unfold compile at hc
    dsimp only at hc
    split at hc
    · cases hc
      rfl
    · cases hc

/-- What an accepted pattern was read and lowered to. -/
theorem exists_of_compile {o : MatchOptions} {p : Pattern} {text : String} {c : CompiledPattern}
    (ht : p.text? = some text) (hc : compile o p = .ok c) :
    ∃ e node f, Expr.read (anchored (expansion o text)).toList = .ok e ∧
      e.lower { ignoreCase := !o.caseSensitive } = .ok (node, f) ∧ c.regex.node = node.settled ∧
      c.keys = (expansion o text).keys := by
  obtain ⟨r, compiled, rfl, keys⟩ : ∃ r,
      Regex.compile (anchored (expansion o text)) (!o.caseSensitive) = .ok r ∧ c.regex = r ∧
        c.keys = (expansion o text).keys := by
    cases compiled : Regex.compile (anchored (expansion o text)) (!o.caseSensitive) with
    | error fault =>
      cases p with
      | path | alternatives =>
        obtain rfl := Option.some.inj ht
        simp only [source] at compiled
        simp only [compile, source, compiled] at hc
        cases hc
      | regex r => cases ht
    | ok r =>
      cases p with
      | path | alternatives =>
        obtain rfl := Option.some.inj ht
        simp only [source] at compiled
        simp only [compile, source, compiled] at hc
        cases hc
        exact ⟨r, rfl, rfl, rfl⟩
      | regex r => cases ht
  unfold Regex.compile at compiled
  cases read : Expr.read (anchored (expansion o text)).toList with
  | error fault =>
    rw [read] at compiled
    cases compiled
  | ok e =>
    cases lower : e.lower { ignoreCase := !o.caseSensitive } with
    | error fault =>
      simp only [read, lower, bind, Except.bind] at compiled
      cases compiled
    | ok result =>
      simp only [read, lower, bind, Except.bind] at compiled
      split at compiled
      · obtain node := congrArg Regex.node (Except.ok.inj compiled)
        exact ⟨e, result.1, result.2, rfl, lower, node.symm, keys⟩
      · cases compiled

/-! ## The anchors -/

/-- The text of a pattern is an expression by itself: whatever it opens, it closes, and it closes nothing
else. -/
def IsWhole (o : MatchOptions) (text : String) : Prop :=
  ∃ e, Expr.read (expansion o text).body = .ok e

/-- The group that the anchors stand around. -/
def anchorGroup : OpenGroup where
  kind := .plain []
  outer := { items := [.assertion .startLine] }
  extended := false

/-- A text that is an expression by itself stays one in the group of the anchors, unless it is refused. -/
theorem exists_inside {body : List Char} {a e : Expr} (slash : Bool) (inner : Expr.read body = .ok a)
    (outer : Expr.read ("^(?:".toList ++ (body ++ closing slash)) = .ok e) :
    ∃ (s : State) (behind : List Char), s.groups = [] ∧ s.level.toExpr = a ∧
      Reads {} ("^(?:".toList ++ (body ++ closing slash)) (s.inside anchorGroup) behind ∧
      skipBlanks s.extended behind = closing slash := by
  obtain ⟨s, left, run, blank, done⟩ := Expr.read_eq_ok_iff.1 inner
  have groups : s.groups = [] := by
    unfold finish at done
    split at done
    · cases done
    · assumption
  obtain rfl : s.level.toExpr = a := by
    unfold finish at done
    rw [groups] at done
    dsimp only at done
    split at done
    · exact Except.ok.inj done
    · cases done
  -- the run goes on inside the group that the anchors open
  have before : Before slash body (body ++ closing slash) := .closing body
  obtain ⟨behind, further, hb⟩ := run.inside anchorGroup before
  have opening : Reads {} ("^(?:".toList ++ (body ++ closing slash)) (State.inside {} anchorGroup)
      (body ++ closing slash) :=
    .part rfl rfl (.one rfl rfl)
  have blanks : Before slash [] (skipBlanks s.extended behind) := blank ▸ skipBlanks_before hb
  rcases blanks.nil with swallowed | closed
  · -- a comment has swallowed the closing, so that the group stays open
    have inside : (s.inside anchorGroup).groups = [anchorGroup] := by
      rw [State.inside, groups, List.nil_append]
    have whole := (opening.trans further).readAll_eq swallowed (Nat.lt_succ_self _)
    rw [Expr.read, whole, finish, inside] at outer
    cases outer
  · exact ⟨s, behind, groups, rfl, opening.trans further, closed⟩

/-- Where the group of the anchors is closed, the expression ends. -/
theorem eq_anchoredExpr {s : State} {text behind : List Char} {e : Expr} (inside : s.groups = [anchorGroup])
    (run : Reads {} text s behind) (closed : skipBlanks s.extended behind = [')', '$'])
    (outer : Expr.read text = .ok e) : e = anchoredExpr s.level.toExpr := by
  let t : State := ⟨⟨[], [.group (.plain []) s.level.toExpr, .assertion .startLine]⟩, [], false,
    s.count, s.names⟩
  have close : readPart s ')' ['$'] = .ok (t, ['$']) := by
    change readClosing s ['$'] = _
    rw [readClosing, inside]
    rfl
  have stop : Reads t ['$'] (t.push (.assertion .endLine)) [] := .one rfl rfl
  have whole := (run.trans (.part closed close stop)).readAll_eq rfl (Nat.lt_succ_self _)
  rw [Expr.read, whole] at outer
  unfold finish at outer
  dsimp only [t, State.push] at outer
  split at outer
  · exact (Except.ok.inj outer).symm
  · cases outer

/-- A text that is an expression by itself is one group between the anchors, unless it is refused. -/
theorem read_anchored {x : Expansion} {a e : Expr} (inner : Expr.read x.body = .ok a)
    (outer : Expr.read (anchored x).toList = .ok e) : e = anchoredExpr a := by
  rw [toList_anchored, List.append_assoc] at outer
  obtain ⟨s, behind, groups, rfl, run, closed⟩ := exists_inside false inner outer
  refine eq_anchoredExpr (s := s.inside anchorGroup) ?_ run closed outer
  rw [State.inside, groups, List.nil_append]

theorem exists_lower_of_anchored {a : Expr} {f f' : Flags} {node : Node} (plain : f.multiLine = false)
    (h : (anchoredExpr a).lower f = .ok (node, f')) :
    ∃ b after, a.lower f = .ok (b, after) ∧ node = b.settled.anchored := by
  have same : f.set [] = f := rfl
  cases lower : a.lower f with
  | error e =>
    simp only [anchoredExpr, Expr.lower, same, lower, bind, Except.bind] at h
    cases h
  | ok result =>
    simp only [anchoredExpr, Expr.lower, same, lower, bind, Except.bind, pure, Except.pure,
      Assertion.lower, plain, Bool.false_eq_true, if_false, Except.ok.injEq, Prod.mk.injEq] at h
    exact ⟨result.1, result.2, rfl, h.1.symm⟩

theorem exists_anchored_of_lower {a : Expr} {f f' : Flags} {node : Node} (plain : f.multiLine = false)
    (h : (anchoredExpr a).lower f = .ok (node, f')) : ∃ b : Node, node = b.anchored := by
  obtain ⟨b, -, -, rfl⟩ := exists_lower_of_anchored plain h
  exact ⟨b.settled, rfl⟩

/-! ## Matches -/

/-- What is known of an outcome, an outcome has. -/
theorem exists_ok {ε α β : Type} {x : Except ε α} {f : α → β} {b : β}
    (h : x.toOption.map f = some b) : ∃ a, x = .ok a ∧ f a = b := by
  cases x with
  | error e => cases h
  | ok a => exact ⟨a, rfl, Option.some.inj h⟩

theorem isSome_of_matched {c : CompiledPattern} {path : String}
    (h : (c.parse path).matched = true ∨ c.isMatch path = true) :
    ∃ m, c.regex.find? path = some m := by
  rcases h with h | h
  · unfold CompiledPattern.parse at h
    split at h
    · cases h
    · exact ⟨_, ‹_›⟩
  · exact Option.isSome_iff_exists.1 h

/-- If no way through the expression leads past the anchors, every match covers the whole path. This is
so for each text that is an expression by itself. -/
theorem match_covers {o : MatchOptions} {p : Pattern} {text : String} {c : CompiledPattern}
    (ht : p.text? = some text) (hc : compile o p = .ok c) :
    (IsWhole o text → c.regex.node.isTied = true) ∧
      (c.regex.node.isTied = true → ∀ path : String,
        (c.parse path).matched = true ∨ c.isMatch path = true →
        ∃ m, c.regex.find? path = some m ∧ m.start = 0 ∧ m.stop = path.length) := by
  obtain ⟨e, node, f, read, lower, settled, -⟩ := exists_of_compile ht hc
  constructor
  · rintro ⟨a, inner⟩
    obtain rfl := read_anchored inner read
    obtain ⟨b, rfl⟩ := exists_anchored_of_lower rfl lower
    rw [settled, Node.settled_anchored, Node.isTied_anchored]
  · intro tied path matched
    obtain ⟨m, hm⟩ := isSome_of_matched matched
    refine ⟨m, hm, ?_⟩
    rw [Node.isTied, Bool.and_eq_true] at tied
    obtain ⟨⟨start, u⟩, hu, rfl⟩ := Option.map_eq_some_iff.1 hm
    have covers := Node.search_of_tied tied.1 tied.2 hu
    rwa [String.length_toList] at covers

theorem match_covers_name :
    ∃ c, compile ⟨false, true⟩ (.path "/:name") = .ok c ∧ IsWhole ⟨false, true⟩ "/:name" ∧
      c.isMatch "/anna" = true ∧
      ∃ m, c.regex.find? "/anna" = some m ∧ m.start = 0 ∧ m.stop = "/anna".length := by
  have matched : (compile ⟨false, true⟩ (.path "/:name")).toOption.map (·.isMatch "/anna") =
      some true := by decide +kernel
  have read : ((Expr.read (expansion ⟨false, true⟩ "/:name").body).toOption.map fun _ => ()) =
      some () := by decide +kernel
  obtain ⟨c, hc, hm⟩ := exists_ok matched
  obtain ⟨e, he, -⟩ := exists_ok read
  have covers := match_covers rfl hc
  exact ⟨c, hc, ⟨e, he⟩, hm, covers.2 (covers.1 ⟨e, he⟩) "/anna" (.inr hm)⟩

/-- A text that closes the group of the anchors and opens one of its own leaves each anchor to a branch of
its own. -/
theorem match_beginning :
    ∃ c m, compile ⟨false, true⟩ (.path "a)|(?:b") = .ok c ∧ (c.parse "axyz").matched = true ∧
      c.isMatch "axyz" = true ∧ c.regex.find? "axyz" = some m ∧ m.stop ≠ "axyz".length := by
  have found : ((compile ⟨false, true⟩ (.path "a)|(?:b")).toOption.map fun c =>
      ((c.parse "axyz").matched, c.isMatch "axyz", c.regex.find? "axyz")) =
      some (true, true, some ⟨0, 1, []⟩) := by decide +kernel
  obtain ⟨c, hc, outcome⟩ := exists_ok found
  simp only [Prod.mk.injEq] at outcome
  exact ⟨c, _, hc, outcome.1, outcome.2.1, outcome.2.2, by decide⟩

end Pattern

end Routing
