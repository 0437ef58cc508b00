import Routing.Proofs.Pattern.Joined
import Routing.Proofs.Pattern.Keying
import Routing.Proofs.Pattern.Language

/-!
# Choosing between plain patterns

A group of alternatives tries its members one after the other. What the first of them takes that leads on is
captured by the group, and the slots of the others have no value.

* `choice`: the pieces of members, those of the first member first
* `Members`: nodes that follow members, the slots of one behind those of the other
* `Leads.capture`: a group around other slots
* `Branches.exists_program`: what alternatives are lowered to
-/
namespace Routing

open Regex Regex.Reader Unicode

namespace Pattern

/-! ## The pieces of members -/

/-- What the weights of members add up to, with one more for each of them. -/
def weightOfAll : List Plain → Nat
  | [] => 0
  | p :: ps => p.weight + 1 + weightOfAll ps

theorem length_le_weightOfAll (ps : List Plain) : ps.length ≤ weightOfAll ps := by
  induction ps with
  | nil => exact Nat.le_refl 0
  | cons p ps ih =>
    rw [weightOfAll, List.length_cons]
    omega

/-- The pieces of one member after the other. The slots of the other members have no value. -/
def choice (o : MatchOptions) : List Plain → Pieces
  | [] => fun _ => []
  | p :: ps => fun cs =>
    (piecesOf o p.tokens cs).map (fun x => (x.1 ++ List.replicate (slotsOfAll ps) none, x.2)) ++
      (choice o ps cs).map fun x => (List.replicate p.slots none ++ x.1, x.2)

/-- Nodes that follow members, the first of which has its slots from `slot` on. -/
inductive Members (o : MatchOptions) : Nat → List Plain → List Node → Prop
  | nil (slot : Nat) : Members o slot [] []
  | cons {slot : Nat} {p : Plain} {ps : List Plain} {a : Node} {as : List Node}
      (follows : Follows slot p.slots (24064 * p.weight + 64) a (piecesOf o p.tokens))
      (keyed : a.Keyed (letterSets o)) (later : Members o (slot + p.slots) ps as) :
      Members o slot (p :: ps) (a :: as)

/-- The expressions of members have such nodes. -/
theorem exists_members (o : MatchOptions) (slot : Nat) (ps : List Plain) :
    ∃ as, Members o slot ps as ∧
      List.Forall₂ (fun e a => e.lower (flagsOf o) = .ok (a, flagsOf o)) (Branches.exprs slot ps) as := by
  induction ps generalizing slot with
  | nil => exact ⟨[], .nil slot, .nil⟩
  | cons p ps ih =>
    have denotes := denotes_exprsOf p.plain (denotes_nil (flagsOf o) slot)
    rw [nothing_andThen, Nat.zero_add, List.append_nil, Nat.add_zero, Nat.add_comm 64] at denotes
    obtain ⟨a, lower, follows⟩ := denotes
    obtain ⟨as, members, lowered⟩ := ih (slot + p.slots)
    exact ⟨a :: as, .cons follows (keyed_of_lower_exprsOf p.plain lower) members, .cons lower lowered⟩

namespace Members

variable {o : MatchOptions} {slot : Nat} {ps : List Plain} {as : List Node}

theorem ways (h : Members o slot ps as) {path : List Char} {t : Thread} {vs : Values}
    (agrees : Agrees path slot t vs) :
    List.Forall₂ (Outcome path (slot + slotsOfAll ps)) (as.flatMap (·.ways t))
      ((choice o ps t.rest).map fun x => (vs ++ x.1, x.2)) := by
  induction h generalizing vs with
  | nil => exact .nil
  | @cons slot p ps a as follows keyed later ih =>
    have count : slot + slotsOfAll (p :: ps) = slot + p.slots + slotsOfAll ps := (Nat.add_assoc ..).symm
    rw [List.flatMap_cons, choice, List.map_append, List.map_map, List.map_map, count]
    refine List.rel_append ?_ ?_
    · have here := follows.ways agrees
      rw [List.forall₂_map_right_iff] at here ⊢
      refine here.imp fun u x outcome => ⟨?_, outcome.rest⟩
      have further := outcome.agrees.leaveOutAll (slotsOfAll ps)
      rwa [List.append_assoc] at further
    · have others := ih (agrees.leaveOutAll p.slots)
      simpa only [List.append_assoc, Function.comp_def] using others

theorem keyed (h : Members o slot ps as) : ∀ a ∈ as, a.Keyed (letterSets o) := by
  induction h with
  | nil => nofun
  | cons _ keyed _ ih => exact List.forall_mem_cons.2 ⟨keyed, ih⟩

theorem orderly (h : Members o slot ps as) : ∀ a ∈ as, a.orderly = true := by
  induction h with
  | nil => nofun
  | cons follows _ _ ih => exact List.forall_mem_cons.2 ⟨follows.orderly, ih⟩

theorem length_eq (h : Members o slot ps as) : as.length = ps.length := by
  induction h with
  | nil => rfl
  | cons _ _ _ ih => exact congrArg (· + 1) ih

theorem groups (h : Members o slot ps as) :
    as.flatMap Node.groups = (List.range' slot (slotsOfAll ps)).map fun i => (i + 1, some (Token.slotName i)) := by
  induction h with
  | nil => rfl
  | @cons slot p ps a as follows _ _ ih =>
    have count : slotsOfAll (p :: ps) = p.slots + slotsOfAll ps := rfl
    rw [List.flatMap_cons, follows.groups, ih, ← List.map_append, List.range'_append_1, count]

/-- The slots of one member are not those of another. -/
theorem apart (h : Members o slot ps as) : Node.Apart as := by
  induction h with
  | nil => exact .nil
  | @cons slot p ps a as follows _ later ih =>
    refine List.pairwise_cons.2 ⟨fun b hb g hg hg' => ?_, ih⟩
    have behind : g ∈ as.flatMap Node.groups := List.mem_flatMap.2 ⟨b, hb, hg'⟩
    rw [later.groups] at behind
    rw [follows.groups] at hg
    obtain ⟨i, hi, rfl⟩ := List.mem_map.1 hg
    obtain ⟨j, hj, same⟩ := List.mem_map.1 behind
    have := List.mem_range'_1.1 hi
    have := List.mem_range'_1.1 hj
    have := (Prod.mk.inj same).1
    omega

theorem room (h : Members o slot ps as) : Node.roomOf as ≤ 24064 * weightOfAll ps := by
  induction h with
  | nil => exact Nat.le_refl 0
  | cons follows _ _ ih =>
    have here := follows.room
    rw [Node.roomOf, weightOfAll]
    omega

/-- The normal form of the alternation of the nodes leads through the pieces of the members. -/
theorem leads (h : Members o slot ps as) (some_ : as ≠ []) :
    Leads slot (slotsOfAll ps) (Node.ofBranches as).settled (choice o ps) where
  ways agrees := ⟨_, Node.sameFirst_settled h.keyed (faithful_letterSets o) h.apart some_ _, h.ways agrees⟩
  orderly := Node.isPartwise_orderly.settled (Node.isPartwise_orderly.ofBranches h.orderly)
  groups := by rw [Node.groups_settled h.keyed h.apart some_, h.groups]

end Members

/-! ## The group of the members -/

/-- The slot of a group around other pieces is given what they take. -/
def captured (p : Pieces) : Pieces :=
  fun cs => (p cs).map fun x => (some (cs.take (cs.length - x.2.length)) :: x.1, x.2)

theorem Leads.capture {slot count : Nat} {a : Node} {p : Pieces} (h : Leads (slot + 1) count a p) :
    Leads slot (1 + count) (.group (slot + 1) (some (Token.slotName slot)) a) (captured p) where
  ways := by
    intro path t vs agrees
    obtain ⟨us, same, outcomes⟩ := h.ways agrees.leaveOut
    refine ⟨us.map fun u => u.bind (slot + 1) t.index, ?_, ?_⟩
    · rw [Node.ways]
      exact same.map _
    rw [captured, List.map_map, List.forall₂_map_left_iff, List.forall₂_map_right_iff]
    rw [List.forall₂_map_right_iff] at outcomes
    refine outcomes.imp fun u x outcome => ⟨?_, outcome.rest⟩
    have inner := outcome.agrees
    rw [List.append_assoc] at inner
    have around := agrees.bindAround inner
    rwa [outcome.rest, Nat.add_assoc] at around
  orderly := h.orderly
  groups := by
    rw [Node.groups, h.groups, Nat.add_comm 1, List.range'_succ]
    rfl

/-- Branches that were read one after the other lower to an alternation of their nodes. -/
theorem lower_alternation {f : Flags} {e : Expr} {es : List Expr} {a : Node} {as : List Node}
    (first : e.lower f = .ok (a, f)) (others : List.Forall₂ (fun e a => e.lower f = .ok (a, f)) es as) :
    (alternationOfBranches (e :: es).reverse).lower f = .ok (Node.ofBranches (a :: as), f) := by
  have along {before : List Expr} {m : Node} (some_ : before ≠ [])
      (h : (alternationOfBranches before).lower f = .ok (m, f)) :
      (alternationOfBranches (es.reverse ++ before)).lower f = .ok (as.foldl .alt m, f) := by
    induction others generalizing before m with
    | nil => exact h
    | @cons d b es as here _ ih =>
      obtain ⟨c, before, rfl⟩ := List.exists_cons_of_ne_nil some_
      rw [List.reverse_cons, List.append_assoc]
      refine ih (List.cons_ne_nil _ _) ?_
      simp only [List.singleton_append, alternationOfBranches, Expr.lower, h, here, bind, Except.bind, pure,
        Except.pure]
  rw [List.reverse_cons]
  exact along (List.cons_ne_nil e []) first

namespace Branches

variable (b : Branches) (o : MatchOptions)

theorem lower_group {as : List Node}
    (lowered : List.Forall₂ (fun e a => e.lower (flagsOf o) = .ok (a, flagsOf o)) (exprs 1 b.all) as) :
    b.expr.lower (flagsOf o) =
      .ok (.group 1 (some (Token.slotName 0)) (Node.ofBranches as).settled, flagsOf o) := by
  have alternation : (alternationOfBranches (exprs 1 b.all).reverse).lower (flagsOf o) =
      .ok (Node.ofBranches as, flagsOf o) := by
    cases lowered with
    | cons first others => exact lower_alternation first others
  simp only [expr, Token.captureExpr, Expr.lower, alternation, bind, Except.bind, pure, Except.pure]

/-- The node of the group captures the slots of the members and one more. -/
theorem exists_group : ∃ a, b.expr.lower (flagsOf o) = .ok (.group 1 (some (Token.slotName 0)) a, flagsOf o) ∧
    Leads 0 b.slots (.group 1 (some (Token.slotName 0)) a) (captured (choice o b.all)) ∧
    a.roomBound ≤ 24256 * weightOfAll b.all + 128 := by
  obtain ⟨as, members, lowered⟩ := exists_members o 1 b.all
  have some_ : as ≠ [] := by
    have length := members.length_eq
    exact List.ne_nil_of_length_pos (by rw [length]; exact Nat.succ_pos _)
  refine ⟨(Node.ofBranches as).settled, b.lower_group o lowered, (members.leads some_).capture, ?_⟩
  have room := members.room
  have settled := Node.roomBound_settled_le members.keyed some_
  have count := length_le_weightOfAll b.all
  rw [members.length_eq] at settled
  omega

/-- The node of the group, with the end of the pattern behind it. -/
theorem exists_node : ∃ n,
    (sequenceOfItems (Token.closingExprs (closingOf o) ++ [b.expr])).lower (flagsOf o) = .ok (n, flagsOf o) ∧
    Leads 0 b.slots n (andThen (captured (choice o b.all)) (closingPieces (closingOf o))) ∧
    n.isAlt = false ∧ n.roomBound ≤ 24256 * weightOfAll b.all + 48640 := by
  obtain ⟨a, lower, leads, room⟩ := b.exists_group o
  have group : (Node.group 1 (some (Token.slotName 0)) a).roomBound = a.roomBound + 128 := rfl
  cases closingOf o with
  | nil =>
    rw [closingPieces, andThen_nothing]
    exact ⟨_, lower, leads, rfl, by omega⟩
  | cons c closing =>
    obtain ⟨last, lowerLast, follows⟩ := denotes_lastSlash o (0 + b.slots)
    obtain whole | ⟨none, -⟩ := @lower_cons (flagsOf o) [b.expr] _ _ _ lower lowerLast
    · have sum := Node.roomBound_append (.group 1 (some (Token.slotName 0)) a) last
      have small := follows.room
      exact ⟨_, whole, leads.append follows, Node.isAlt_append rfl follows.noAlt, by omega⟩
    · cases none

theorem program?_of_lower {p : Pattern} (source : p.source = String.ofList b.text) {n : Node}
    (lower : (sequenceOfItems (Token.closingExprs (closingOf o) ++ [b.expr])).lower (flagsOf o) =
      .ok (n, flagsOf o)) (noAlt : n.isAlt = false) : program? o p = some n.anchored := by
  have expanded : expansion o p.source = Expansion.ofText (b.text ++ closingOf o) := by
    rw [expansion, source, String.toList_ofList, closingOf]
  have read := b.read_anchored (isClosing_closingOf o)
  rw [← expanded] at read
  exact program?_of_read read lower noAlt

/-- The program of alternatives is the group of the members, between the anchors. -/
theorem exists_program {p : Pattern} (source : p.source = String.ofList b.text) :
    ∃ n : Node, Leads 0 b.slots n (andThen (captured (choice o b.all)) (closingPieces (closingOf o))) ∧
      n.roomBound ≤ 24256 * weightOfAll b.all + 48640 ∧ program? o p = some n.anchored := by
  obtain ⟨n, lower, leads, noAlt, room⟩ := b.exists_node o
  exact ⟨n, leads, room, b.program?_of_lower o source lower noAlt⟩

end Branches

end Pattern

end Routing
