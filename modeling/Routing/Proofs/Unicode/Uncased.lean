import Routing.Unicode.CharSet

/-!
# Characters without case

No character below the Latin letters folds to another one or is what another one folds to.

* `mem_foldClass_iff_of_lt`: such a character belongs to its own case class only
* `CharSet.contains_folded_of_lt`: closing a set of such characters under case adds nothing
-/
namespace Routing.Unicode

/-- Folding begins at the capital letters. -/
theorem le_of_mem_foldRuns : ∀ r ∈ foldRuns, 0x41 ≤ r.span.first ∧ 0x41 ≤ r.target := by
  decide +kernel

theorem FoldRun.le_of_image? {r : FoldRun} (hr : r ∈ foldRuns) {n f : Nat}
    (h : r.image? n = some f) : 0x41 ≤ n ∧ 0x41 ≤ f := by
  have low := le_of_mem_foldRuns r hr
  simp only [image?, Option.ite_none_right_eq_some, Option.some.injEq, Span.contains,
    Bool.and_eq_true, decide_eq_true_eq] at h
  obtain ⟨⟨⟨first, -⟩, -⟩, rfl⟩ := h
  omega

theorem FoldRun.le_of_source? {r : FoldRun} (hr : r ∈ foldRuns) {n f : Nat}
    (h : r.source? f = some n) : 0x41 ≤ n ∧ 0x41 ≤ f := by
  have low := le_of_mem_foldRuns r hr
  simp only [source?, Option.ite_none_right_eq_some, Option.some.injEq, Bool.and_eq_true,
    decide_eq_true_eq] at h
  obtain ⟨⟨target, -⟩, rfl⟩ := h
  omega

/-- A point and its representative are the same, or both are no smaller than the capital letters. -/
theorem foldPoint_cases (n : Nat) : foldPoint n = n ∨ 0x41 ≤ n ∧ 0x41 ≤ foldPoint n := by
  cases h : foldRuns.findSome? (·.image? n) with
  | none => exact .inl (by rw [foldPoint, h, Option.getD_none])
  | some f =>
    obtain ⟨r, hr, image⟩ := List.exists_of_findSome?_eq_some h
    have low := FoldRun.le_of_image? hr image
    rw [foldPoint, h, Option.getD_some]
    exact .inr low

theorem foldPoint_eq_iff_of_lt {m n : Nat} (hm : m < 0x41) :
    foldPoint n = foldPoint m ↔ n = m := by
  have hm' := foldPoint_cases m
  have hn' := foldPoint_cases n
  constructor
  · omega
  · rintro rfl
    rfl

theorem mem_foldClass_iff_of_lt {m n : Nat} (hm : m < 0x41) : m ∈ foldClass n ↔ n = m := by
  constructor
  · intro h
    rcases List.mem_cons.1 h with h | h
    · have hn := foldPoint_cases n
      omega
    · obtain ⟨r, hr, source⟩ := List.mem_filterMap.1 h
      have low := FoldRun.le_of_source? hr source
      omega
  · rintro rfl
    exact mem_foldClass_self n

namespace CharSet

/-- To close a set of characters without case under case is to leave it as it is. -/
theorem contains_folded_of_lt {a : CharSet} (ha : ∀ n, a.containsPoint n = true → n < 0x41)
    (c : Char) : (folded a).contains c = a.contains c := by
  rw [Bool.eq_iff_iff]
  change (foldClass c.toNat).any a.containsPoint = true ↔ a.containsPoint c.toNat = true
  rw [List.any_eq_true]
  constructor
  · rintro ⟨m, hm, member⟩
    rwa [(mem_foldClass_iff_of_lt (ha m member)).1 hm]
  · intro member
    exact ⟨c.toNat, mem_foldClass_self _, member⟩

theorem containsPoint_single {x : Char} {n : Nat} :
    (single x).containsPoint n = true ↔ n = x.toNat := by
  simp only [single, containsPoint, Bool.and_eq_true, decide_eq_true_eq]
  omega

end CharSet

end Routing.Unicode
