import Routing.Pattern
import Routing.Proofs.Pattern.Plain

/-!
# What a plain pattern stands for

A path is cut into consecutive pieces, one for each token. The cuts are listed in the order in which
they are preferred: a parameter takes as little as it can, a wildcard as much as it can, and an optional
parameter is there if it can be.

* `Token.Piece`: what a token may stand for
* `Cut`: a path cut into pieces, with the values of the slots
* `cuts`: all cuts of a path, the preferred one first
* `mem_cuts`: the list holds the cuts and nothing else
-/
namespace Routing

open Unicode

/-- Whether a character of a path is what the pattern says. -/
def MatchOptions.same (o : MatchOptions) (c d : Char) : Bool :=
  if o.caseSensitive then d == c else foldPoint d.toNat == foldPoint c.toNat

namespace Pattern

/-- What the slots were given, in order; `none` for a slot that was left out. -/
abbrev Values := List (Option (List Char))

namespace Token

/-- The character that a token stands for. -/
def literal? : Token → Option Char
  | slash => some '/'
  | dot => some '.'
  | char c => some c
  | _ => none

def ParamToken.separators (p : ParamToken) : List Char :=
  (if p.slash then ['/'] else []) ++ (if p.dot then ['.'] else [])

/-- A value has no slash, and no dot either behind a dot of its own. -/
def ParamToken.allows (p : ParamToken) (c : Char) : Bool :=
  c != '/' && !(p.dot && c == '.')

def anyButNewline (c : Char) : Bool :=
  c != '\n'

/-- A token may stand for a piece of a path, which gives its slots these values. -/
inductive Piece (o : MatchOptions) : Token → List Char → Values → Prop where
  | literal {t : Token} {c d : Char} (of : t.literal? = some c) (same : o.same c d = true) :
      Piece o t [d] []
  | value {p : ParamToken} {v : List Char} (nonempty : v ≠ []) (allowed : ∀ c ∈ v, ParamToken.allows p c) :
      Piece o (param p) (ParamToken.separators p ++ v) [some v]
  | leftOut {p : ParamToken} (optional : p.optional = true) : Piece o (param p) [] [none]
  | star {v : List Char} (oneLine : ∀ c ∈ v, anyButNewline c) : Piece o star v [some v]
  | plus {v : List Char} (nonempty : v ≠ []) (oneLine : ∀ c ∈ v, anyButNewline c) :
      Piece o plus v [some v]

end Token

/-- A path that is used up, but for the slash that a pattern admits unless it is strict. -/
def Closes (o : MatchOptions) (rest : List Char) : Prop :=
  rest = [] ∨ o.strict = false ∧ rest = ['/']

instance (o : MatchOptions) (rest : List Char) : Decidable (Closes o rest) :=
  inferInstanceAs (Decidable (_ ∨ _))

/-- A path cut into a piece for each token. -/
inductive Cut (o : MatchOptions) : List Token → List Char → Values → Prop where
  | done {rest : List Char} (closes : Closes o rest) : Cut o [] rest []
  | piece {t : Token} {ts : List Token} {front rest : List Char} {vs ws : Values}
      (first : t.Piece o front vs) (later : Cut o ts rest ws) :
      Cut o (t :: ts) (front ++ rest) (vs ++ ws)

/-! ## Listing the cuts -/

/-- The ways to take allowed characters from the front of a text, the fewest first. -/
def takes (allowed : Char → Bool) : List Char → List (List Char × List Char)
  | [] => [([], [])]
  | c :: rest =>
    ([], c :: rest) ::
      if allowed c then (takes allowed rest).map fun (v, rest) => (c :: v, rest) else []

/-- The ways to take one or more. -/
def takesSome (allowed : Char → Bool) (cs : List Char) : List (List Char × List Char) :=
  (takes allowed cs).tail

/-- The text behind a prefix, if the prefix is there. -/
def behind? (front cs : List Char) : Option (List Char) :=
  if front.isPrefixOf cs then some (cs.drop front.length) else none

namespace Token

def valued (taken : List Char × List Char) : Values × List Char :=
  ([some taken.1], taken.2)

def literalPieces (o : MatchOptions) : Option Char → List Char → List (Values × List Char)
  | some c, d :: rest => if o.same c d then [([], rest)] else []
  | _, _ => []

/-- The pieces that a token may take from the front of a path, the preferred one first. -/
def pieces (o : MatchOptions) (t : Token) (cs : List Char) : List (Values × List Char) :=
  match t with
  | param p =>
    ((behind? (ParamToken.separators p) cs).toList.flatMap fun rest =>
      (takesSome (ParamToken.allows p) rest).map valued) ++
      if p.optional then [([none], cs)] else []
  | star => (takes anyButNewline cs).reverse.map valued
  | plus => (takesSome anyButNewline cs).reverse.map valued
  | t => literalPieces o t.literal? cs

end Token

/-- The cuts of a path, the preferred one first. -/
def cuts (o : MatchOptions) : List Token → List Char → List Values
  | [], cs => if Closes o cs then [[]] else []
  | t :: ts, cs => (t.pieces o cs).flatMap fun (vs, rest) => (cuts o ts rest).map (vs ++ ·)

/-! ## The list and the cuts -/

theorem mem_takesSome_cons {allowed : Char → Bool} {d : Char} {cs v rest : List Char} :
    (v, rest) ∈ takesSome allowed (d :: cs) ↔
      ∃ w, v = d :: w ∧ allowed d = true ∧ (w, rest) ∈ takes allowed cs := by
  rw [takesSome, takes, List.tail_cons]
  split
  · rename_i hd
    simp only [List.mem_map, Prod.mk.injEq, Prod.exists]
    constructor
    · rintro ⟨w, _, h, rfl, rfl⟩
      exact ⟨w, rfl, hd, h⟩
    · rintro ⟨w, rfl, -, h⟩
      exact ⟨w, rest, h, rfl, rfl⟩
  · rename_i hd
    simp [hd]

theorem mem_takes {allowed : Char → Bool} {cs v rest : List Char} :
    (v, rest) ∈ takes allowed cs ↔ cs = v ++ rest ∧ ∀ c ∈ v, allowed c = true := by
  induction cs generalizing v with
  | nil =>
    constructor
    · intro h
      cases List.mem_singleton.1 h
      simp
    · rintro ⟨h, -⟩
      obtain ⟨rfl, rfl⟩ := List.append_eq_nil_iff.1 h.symm
      exact List.mem_singleton.2 rfl
  | cons d cs ih =>
    have front : (v, rest) ∈ takes allowed (d :: cs) ↔
        (v, rest) = ([], d :: cs) ∨ (v, rest) ∈ takesSome allowed (d :: cs) := List.mem_cons
    rw [front, mem_takesSome_cons]
    constructor
    · rintro (h | ⟨w, rfl, hd, h⟩)
      · cases h
        simp
      · obtain ⟨rfl, all⟩ := ih.1 h
        exact ⟨rfl, List.forall_mem_cons.2 ⟨hd, all⟩⟩
    · rintro ⟨h, all⟩
      cases v with
      | nil =>
        cases h
        exact .inl rfl
      | cons c v =>
        obtain ⟨rfl, rfl⟩ := List.cons.inj h
        obtain ⟨hd, all⟩ := List.forall_mem_cons.1 all
        exact .inr ⟨v, rfl, hd, ih.2 ⟨rfl, all⟩⟩

theorem mem_takesSome {allowed : Char → Bool} {cs v rest : List Char} :
    (v, rest) ∈ takesSome allowed cs ↔ v ≠ [] ∧ cs = v ++ rest ∧ ∀ c ∈ v, allowed c = true := by
  cases cs with
  | nil =>
    constructor
    · intro h
      cases h
    · rintro ⟨nonempty, h, -⟩
      exact absurd (List.append_eq_nil_iff.1 h.symm).1 nonempty
  | cons d cs =>
    rw [mem_takesSome_cons]
    constructor
    · rintro ⟨w, rfl, hd, h⟩
      obtain ⟨rfl, all⟩ := mem_takes.1 h
      exact ⟨List.cons_ne_nil _ _, rfl, List.forall_mem_cons.2 ⟨hd, all⟩⟩
    · rintro ⟨nonempty, h, all⟩
      obtain ⟨c, w, rfl⟩ := List.exists_cons_of_ne_nil nonempty
      obtain ⟨rfl, rfl⟩ := List.cons.inj h
      obtain ⟨hd, all⟩ := List.forall_mem_cons.1 all
      exact ⟨w, rfl, hd, mem_takes.2 ⟨rfl, all⟩⟩

theorem behind?_eq_some {front cs rest : List Char} :
    behind? front cs = some rest ↔ cs = front ++ rest := by
  rw [behind?]
  split
  · rename_i h
    obtain ⟨tail, rfl⟩ := List.isPrefixOf_iff_prefix.1 h
    simp [eq_comm]
  · rename_i h
    simp only [reduceCtorEq, false_iff]
    rintro rfl
    exact mt List.isPrefixOf_iff_prefix.2 h ⟨rest, rfl⟩

theorem behind?_append (front more cs : List Char) :
    behind? (front ++ more) cs = (behind? front cs).bind (behind? more) := by
  apply Option.ext
  intro rest
  simp only [Option.bind_eq_some_iff, behind?_eq_some]
  constructor
  · rintro rfl
    exact ⟨more ++ rest, List.append_assoc _ _ _, rfl⟩
  · rintro ⟨_, rfl, rfl⟩
    exact (List.append_assoc _ _ _).symm

namespace Token

theorem mem_literalPieces {o : MatchOptions} {c? : Option Char} {cs rest : List Char} {vs : Values} :
    (vs, rest) ∈ literalPieces o c? cs ↔
      vs = [] ∧ ∃ c d, c? = some c ∧ cs = d :: rest ∧ o.same c d = true := by
  unfold literalPieces
  split
  · rename_i c d cs
    split
    · rename_i same
      simp only [List.mem_singleton, Prod.mk.injEq, Option.some.injEq, List.cons.injEq]
      constructor
      · rintro ⟨rfl, rfl⟩
        exact ⟨rfl, c, d, rfl, ⟨rfl, rfl⟩, same⟩
      · rintro ⟨rfl, -, -, -, ⟨-, rfl⟩, -⟩
        exact ⟨rfl, rfl⟩
    · rename_i differ
      simp only [List.not_mem_nil, false_iff]
      rintro ⟨-, c', d', hc, hd, same⟩
      cases hc
      cases hd
      exact differ same
  · rename_i other
    simp only [List.not_mem_nil, false_iff]
    rintro ⟨-, c, d, rfl, rfl, -⟩
    exact other c d rest rfl rfl

theorem pieces_of_literal? {o : MatchOptions} {t : Token} {c : Char} (ht : t.literal? = some c)
    (cs : List Char) : t.pieces o cs = literalPieces o (some c) cs := by
  cases t <;> cases ht <;> rfl

/-- The list of pieces holds what a token may stand for and nothing else. -/
theorem mem_pieces {o : MatchOptions} {t : Token} {cs rest : List Char} {vs : Values} :
    (vs, rest) ∈ t.pieces o cs ↔ ∃ front, cs = front ++ rest ∧ t.Piece o front vs := by
  constructor
  · intro h
    cases t with
    | param p =>
      simp only [pieces, List.mem_append, List.mem_flatMap, Option.mem_toList, behind?_eq_some,
        List.mem_map] at h
      rcases h with ⟨after, rfl, ⟨v, rest'⟩, h, heq⟩ | h
      · cases heq
        obtain ⟨nonempty, rfl, allowed⟩ := mem_takesSome.1 h
        exact ⟨_, (List.append_assoc _ _ _).symm, .value nonempty allowed⟩
      · split at h
        · cases List.mem_singleton.1 h
          exact ⟨[], rfl, .leftOut ‹_›⟩
        · cases h
    | star =>
      simp only [pieces, List.mem_map, List.mem_reverse] at h
      obtain ⟨⟨v, rest'⟩, h, heq⟩ := h
      cases heq
      obtain ⟨rfl, allowed⟩ := mem_takes.1 h
      exact ⟨v, rfl, .star allowed⟩
    | plus =>
      simp only [pieces, List.mem_map, List.mem_reverse] at h
      obtain ⟨⟨v, rest'⟩, h, heq⟩ := h
      cases heq
      obtain ⟨nonempty, rfl, allowed⟩ := mem_takesSome.1 h
      exact ⟨v, rfl, .plus nonempty allowed⟩
    | _ =>
      simp only [pieces] at h
      obtain ⟨rfl, c, d, hc, rfl, same⟩ := mem_literalPieces.1 h
      exact ⟨[d], rfl, .literal hc same⟩
  · rintro ⟨front, rfl, piece⟩
    cases piece with
    | @literal _ c d of same =>
      rw [pieces_of_literal? of]
      exact mem_literalPieces.2 ⟨rfl, c, d, rfl, rfl, same⟩
    | @value p v nonempty allowed =>
      refine List.mem_append_left _ (List.mem_flatMap.2 ⟨v ++ rest, ?_, ?_⟩)
      · rw [Option.mem_toList, behind?_eq_some, List.append_assoc]
      · exact List.mem_map.2 ⟨(v, rest), mem_takesSome.2 ⟨nonempty, rfl, allowed⟩, rfl⟩
    | leftOut optional =>
      refine List.mem_append_right _ ?_
      rw [if_pos optional]
      exact List.mem_singleton.2 rfl
    | star oneLine =>
      exact List.mem_map.2 ⟨(front, rest), List.mem_reverse.2 (mem_takes.2 ⟨rfl, oneLine⟩), rfl⟩
    | plus nonempty oneLine =>
      exact List.mem_map.2
        ⟨(front, rest), List.mem_reverse.2 (mem_takesSome.2 ⟨nonempty, rfl, oneLine⟩), rfl⟩

end Token

/-- The list of cuts holds the cuts of the path and nothing else. -/
theorem mem_cuts {o : MatchOptions} {ts : List Token} {cs : List Char} {vs : Values} :
    vs ∈ cuts o ts cs ↔ Cut o ts cs vs := by
  induction ts generalizing cs vs with
  | nil =>
    rw [cuts]
    constructor
    · intro h
      split at h
      · rw [List.mem_singleton.1 h]
        exact .done ‹_›
      · cases h
    · intro h
      cases h with
      | done closes =>
        rw [if_pos closes]
        exact List.mem_singleton.2 rfl
  | cons t ts ih =>
    rw [cuts, List.mem_flatMap]
    constructor
    · rintro ⟨⟨first, rest⟩, hf, h⟩
      obtain ⟨ws, hw, rfl⟩ := List.mem_map.1 h
      obtain ⟨front, rfl, piece⟩ := Token.mem_pieces.1 hf
      exact .piece piece (ih.1 hw)
    · intro h
      cases h with
      | @piece _ _ front rest first ws piece later =>
        exact ⟨(first, rest), Token.mem_pieces.2 ⟨front, rfl, piece⟩,
          List.mem_map.2 ⟨ws, ih.2 later, rfl⟩⟩

/-- The value of a parameter ends where a slash does; the slash behind it closes the path. -/
example : cuts {} [.slash, .char 'a', .param ⟨true, false, ['i', 'd'], none, true⟩]
    ['/', 'a', '/', 'x', 'y', '/'] = [[some ['x', 'y']]] := by decide

end Pattern

end Routing
