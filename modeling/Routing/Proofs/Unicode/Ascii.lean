import Mathlib.Data.List.Basic
import Routing.Unicode.Edges

/-!
# ASCII characters by their edges

An ASCII character folds to its small letter. The case class of an ASCII character begins with one of its ASCII
members, so that it is known by its first edge.

* `foldPoint_of_lt`: what an ASCII character folds to
* `CharSet.head?_edges_single`, `CharSet.head?_edges_foldsAs`: the first edges
-/
namespace Routing.Unicode

/-- The small letter of a capital letter, and any other point itself. -/
def lowerPoint (n : Nat) : Nat :=
  if 0x41 ≤ n ∧ n ≤ 0x5A then n + 0x20 else n

theorem lowerPoint_lt {n : Nat} (hn : n < 128) : lowerPoint n < 128 := by
  unfold lowerPoint
  split <;> omega

theorem lowerPoint_lowerPoint (n : Nat) : lowerPoint (lowerPoint n) = lowerPoint n := by
  by_cases upper : 0x41 ≤ n ∧ n ≤ 0x5A
  · rw [show lowerPoint n = n + 0x20 from if_pos upper, lowerPoint, if_neg (by omega)]
  · rw [show lowerPoint n = n from if_neg upper, lowerPoint, if_neg upper]

/-- All runs but the first one begin behind the ASCII characters. -/
theorem le_of_mem_tail_foldRuns : ∀ r ∈ foldRuns.tail, 128 ≤ r.span.first := by
  decide +kernel

theorem foldPoint_of_lt {n : Nat} (hn : n < 128) : foldPoint n = lowerPoint n := by
  have runs : foldRuns = ⟨⟨0x41, 0x5A, 1⟩, 0x61⟩ :: foldRuns.tail := rfl
  have others : foldRuns.tail.findSome? (·.image? n) = none := by
    rw [List.findSome?_eq_none_iff]
    intro r hr
    have high := le_of_mem_tail_foldRuns r hr
    have low : ¬ r.span.first ≤ n := by omega
    simp [FoldRun.image?, Span.contains, low]
  rw [foldPoint, runs, List.findSome?_cons, others]
  unfold lowerPoint
  by_cases upper : 0x41 ≤ n ∧ n ≤ 0x5A
  · simp [FoldRun.image?, Span.contains, upper, Nat.mod_one]
    omega
  · simp [FoldRun.image?, Span.contains, upper]

/-- The runs that lead to ASCII characters: the capital letters, the long s and the sign for Kelvin. -/
def asciiRuns : List FoldRun :=
  [⟨⟨0x41, 0x5A, 1⟩, 0x61⟩, ⟨⟨0x17F, 0x17F, 1⟩, 0x73⟩, ⟨⟨0x212A, 0x212A, 1⟩, 0x6B⟩]

theorem filter_foldRuns : foldRuns.filter (·.target < 128) = asciiRuns := by
  decide +kernel

theorem foldClass_of_lt {n : Nat} (hn : n < 128) :
    foldClass n = lowerPoint n :: asciiRuns.filterMap (·.source? (lowerPoint n)) := by
  rw [foldClass, foldPoint_of_lt hn, ← filter_foldRuns, List.filterMap_filter]
  refine congrArg (lowerPoint n :: ·) (List.filterMap_congr fun r _ => ?_)
  have low := lowerPoint_lt hn
  by_cases target : r.target < 128
  · simp [target]
  · have above : ¬ r.target ≤ lowerPoint n := by omega
    simp [target, FoldRun.source?, above]

namespace CharSet

theorem head?_edges_single : ∀ n < 128, (single (Char.ofNat n)).edges.head? = some n := by
  decide +kernel

theorem head?_edges_foldsAs {c : Char} (hc : c.toNat < 128) :
    (foldsAs c).edges.head?.map lowerPoint = some (lowerPoint c.toNat) := by
  have table : ∀ n < 128, (Edges.ofPoints ((n :: asciiRuns.filterMap (·.source? n)).foldr Edges.insertPoint
      [])).head?.map lowerPoint = some (lowerPoint n) := by
    decide +kernel
  rw [edges, foldClass_of_lt hc, table _ (lowerPoint_lt hc), lowerPoint_lowerPoint]

end CharSet

end Routing.Unicode
