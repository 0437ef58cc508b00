import Mathlib.Data.List.Induction
import Mathlib.Data.List.Nodup

/-!
# Lists without their repetitions

* `List.eraseDups_concat`: one element more at the end
* `List.nodup_eraseDups`, `List.eraseDups_of_nodup`: what is left has no repetitions, and a list without any
  stays as it is
* `List.pairwise_eraseDups`: it stands in the order of first occurrences
* `List.filter_eraseDups`: it may be filtered first
-/
namespace List

variable {α : Type} [DecidableEq α]

theorem eraseDups_concat (l : List α) (a : α) :
    (l ++ [a]).eraseDups = if a ∈ l then l.eraseDups else l.eraseDups ++ [a] := by
  rw [eraseDups_append]
  split
  · next known => simp [removeAll, known]
  · next new => simp [removeAll, new, eraseDups_cons]

theorem nodup_eraseDups (l : List α) : l.eraseDups.Nodup := by
  induction l using List.reverseRecOn with
  | nil => exact nodup_nil
  | append_singleton l a ih =>
    rw [eraseDups_concat]
    split
    · exact ih
    · next new =>
      refine ih.append (nodup_singleton a) fun x known here => new ?_
      rwa [mem_singleton.1 here, mem_eraseDups] at known

theorem eraseDups_of_nodup {l : List α} (distinct : l.Nodup) : l.eraseDups = l := by
  induction l using List.reverseRecOn with
  | nil => rfl
  | append_singleton l a ih =>
    have new : a ∉ l := fun known => disjoint_of_nodup_append distinct known mem_cons_self
    rw [eraseDups_concat, if_neg new, ih distinct.of_append_left]

/-- What occurs first comes first. -/
theorem pairwise_eraseDups (l : List α) : l.eraseDups.Pairwise fun a b => l.idxOf a < l.idxOf b := by
  induction l using List.reverseRecOn with
  | nil => exact .nil
  | append_singleton l a ih =>
    have place {x : α} (known : x ∈ l.eraseDups) : (l ++ [a]).idxOf x = l.idxOf x :=
      idxOf_append_of_mem (mem_eraseDups.1 known)
    have earlier : l.eraseDups.Pairwise fun x y => (l ++ [a]).idxOf x < (l ++ [a]).idxOf y :=
      ih.imp_of_mem fun first second before => by rwa [place first, place second]
    rw [eraseDups_concat]
    split
    · exact earlier
    · next new =>
      refine pairwise_append.2 ⟨earlier, pairwise_singleton _ a, fun x known y here => ?_⟩
      rw [mem_singleton.1 here, place known, idxOf_append_of_notMem new]
      exact Nat.lt_add_right _ (idxOf_lt_length_of_mem (mem_eraseDups.1 known))

theorem filter_eraseDups (l : List α) (p : α → Bool) : l.eraseDups.filter p = (l.filter p).eraseDups := by
  induction l using List.reverseRecOn with
  | nil => rfl
  | append_singleton l a ih =>
    rw [eraseDups_concat, filter_append]
    by_cases keep : p a = true
    · have mem : a ∈ l.filter p ↔ a ∈ l := by simp [keep]
      rw [filter_cons_of_pos keep, filter_nil, eraseDups_concat, ← ih]
      simp only [mem]
      split
      · rfl
      · rw [filter_append, filter_cons_of_pos keep, filter_nil]
    · rw [filter_cons_of_neg keep, filter_nil, append_nil, ← ih]
      split
      · rfl
      · rw [filter_append, filter_cons_of_neg keep, filter_nil, append_nil]

end List
