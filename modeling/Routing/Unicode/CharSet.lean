import Routing.Unicode.Fold

/-!
# Sets of characters

A set is kept as the expression that describes it and is asked for members, never listed.

* `CharSet.contains`: whether a character is in a set
* `CharSet.contains_compl`, `CharSet.contains_union`, `CharSet.contains_inter`: the set operations are
  the Boolean ones
-/
namespace Routing.Unicode

inductive CharSet where
  | empty
  | any
  /-- The characters from `first` to `last`, both included. -/
  | range (first last : Char)
  | spans (table : List Span)
  | union (a b : CharSet)
  | inter (a b : CharSet)
  | compl (a : CharSet)
  /-- The characters of one case class. -/
  | foldsAs (c : Char)
  /-- The characters that have a member of `a` in their case class. -/
  | folded (a : CharSet)
  /-- As `folded`, with the case classes of the ASCII letters alone. -/
  | asciiFolded (a : CharSet)
  deriving Repr

namespace CharSet

/-- The other case of an ASCII letter, and any other point itself. -/
def asciiSwap (n : Nat) : Nat :=
  if 0x41 ≤ n ∧ n ≤ 0x5A then n + 0x20 else if 0x61 ≤ n ∧ n ≤ 0x7A then n - 0x20 else n

def containsPoint : CharSet → Nat → Bool
  | empty, _ => false
  | any, _ => true
  | range first last, n => decide (first.toNat ≤ n) && decide (n ≤ last.toNat)
  | spans table, n => spansContain table n
  | union a b, n => a.containsPoint n || b.containsPoint n
  | inter a b, n => a.containsPoint n && b.containsPoint n
  | compl a, n => !a.containsPoint n
  | foldsAs c, n => foldPoint n == foldPoint c.toNat
  | folded a, n => (foldClass n).any a.containsPoint
  | asciiFolded a, n => a.containsPoint n || a.containsPoint (asciiSwap n)

def contains (s : CharSet) (c : Char) : Bool :=
  s.containsPoint c.toNat

def single (c : Char) : CharSet :=
  range c c

def diff (a b : CharSet) : CharSet :=
  inter a (compl b)

def symDiff (a b : CharSet) : CharSet :=
  union (diff a b) (diff b a)

def unionAll (sets : List CharSet) : CharSet :=
  sets.foldr union empty

@[simp]
theorem contains_compl (a : CharSet) (c : Char) : (compl a).contains c = !a.contains c :=
  rfl

@[simp]
theorem contains_union (a b : CharSet) (c : Char) :
    (union a b).contains c = (a.contains c || b.contains c) :=
  rfl

@[simp]
theorem contains_inter (a b : CharSet) (c : Char) :
    (inter a b).contains c = (a.contains c && b.contains c) :=
  rfl

@[simp]
theorem contains_single (x c : Char) : (single x).contains c = decide (c = x) := by
  simp only [single, contains, containsPoint, ← Bool.decide_and, decide_eq_decide]
  constructor
  · rintro ⟨h, h'⟩
    exact Char.toNat_inj.1 (Nat.le_antisymm h' h)
  · rintro rfl
    exact ⟨Nat.le_refl _, Nat.le_refl _⟩

end CharSet

end Routing.Unicode
