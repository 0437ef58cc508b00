import Routing.Params
import Routing.Proofs.Distinct

/-!
# Keys that are bound in sequence

A key that is bound again keeps its place and loses its value. So the keys stand in the order of their first
bindings, and the values are those of the last ones.

* `Params.insertAll`: bindings put in one behind the other
* `Params.IsLast`: where a key occurs for the last time
* `Params.keys_insertAll`, `Params.mem_entries_insertAll`: the keys and their values
* `Params.entries_insertAll`: bindings of distinct keys stay as they are
-/
namespace Routing.Params

variable {key k : ParamKey} {value v : Option String} {keys : List ParamKey}
  {entries bindings : List (ParamKey × Option String)}

/-! ## One binding -/

theorem keys_insertEntry (key : ParamKey) (value : Option String)
    (entries : List (ParamKey × Option String)) :
    (insertEntry key value entries).map (·.1) =
      if key ∈ entries.map (·.1) then entries.map (·.1) else entries.map (·.1) ++ [key] := by
  induction entries with
  | nil => rfl
  | cons entry rest ih =>
    obtain ⟨k, v⟩ := entry
    rw [insertEntry]
    split
    · next same => simp [same]
    · next other =>
      have mem : key ∈ k :: rest.map (·.1) ↔ key ∈ rest.map (·.1) := by simp [Ne.symm other]
      rw [List.map_cons, List.map_cons, ih]
      simp only [mem]
      split <;> rfl

theorem insertEntry_of_not_mem (new : key ∉ entries.map (·.1)) (value : Option String) :
    insertEntry key value entries = entries ++ [(key, value)] := by
  induction entries with
  | nil => rfl
  | cons first rest ih =>
    obtain ⟨k, v⟩ := first
    simp only [List.map_cons, List.mem_cons, not_or] at new
    have other : k ≠ key := fun same => new.1 same.symm
    rw [insertEntry, if_neg other, ih new.2, List.cons_append]

/-- The key that is bound has the new value only, and all others keep theirs. -/
theorem mem_insertEntry (distinct : (entries.map (·.1)).Nodup) :
    (key, value) ∈ insertEntry k v entries ↔ key = k ∧ value = v ∨ key ≠ k ∧ (key, value) ∈ entries := by
  induction entries with
  | nil => simp [insertEntry]
  | cons entry rest ih =>
    obtain ⟨first, old⟩ := entry
    obtain ⟨new, distinct⟩ := List.nodup_cons.1 distinct
    rw [insertEntry]
    split
    · next same =>
      subst same
      have elsewhere (bound : (key, value) ∈ rest) : key ≠ first := by
        rintro rfl
        exact new (List.mem_map.2 ⟨_, bound, rfl⟩)
      simp only [List.mem_cons, Prod.mk.injEq]
      tauto
    · next other =>
      have kept : key = first → key ≠ k := fun here => here ▸ other
      simp only [List.mem_cons, Prod.mk.injEq, ih distinct]
      tauto

/-! ## Many bindings -/

/-- Bindings put in one behind the other. -/
def insertAll (p : Params) (bindings : List (ParamKey × Option String)) : Params :=
  bindings.foldl (fun p b => p.insert b.1 b.2) p

theorem insertAll_concat (p : Params) (bindings : List (ParamKey × Option String))
    (b : ParamKey × Option String) :
    p.insertAll (bindings ++ [b]) = (p.insertAll bindings).insert b.1 b.2 := by
  rw [insertAll, List.foldl_append]
  rfl

/-- The keys stand in the order in which they were first bound. -/
theorem keys_insertAll (bindings : List (ParamKey × Option String)) :
    (insertAll .empty bindings).keys = (bindings.map (·.1)).eraseDups := by
  induction bindings using List.reverseRecOn with
  | nil => rfl
  | append_singleton bindings b ih =>
    rw [insertAll_concat, keys, insert, keys_insertEntry, ← keys, ih, List.map_append, List.map_singleton,
      List.eraseDups_concat]
    simp only [List.mem_eraseDups]

theorem nodup_keys_insertAll (bindings : List (ParamKey × Option String)) :
    (insertAll .empty bindings).keys.Nodup := by
  rw [keys_insertAll]
  exact List.nodup_eraseDups _

/-- The key occurs for the last time at place `i`. -/
def IsLast (keys : List ParamKey) (key : ParamKey) (i : Nat) : Prop :=
  keys[i]? = some key ∧ ∀ j, i < j → keys[j]? ≠ some key

theorem getElem?_concat_eq_some_iff {i : Nat} :
    (keys ++ [k])[i]? = some key ↔ keys[i]? = some key ∨ i = keys.length ∧ key = k := by
  rw [List.getElem?_append]
  split
  · next inside => simp [Nat.ne_of_lt inside]
  · next beyond =>
    rw [List.getElem?_eq_none (Nat.le_of_not_lt beyond), List.getElem?_singleton]
    have end_iff : i - keys.length = 0 ↔ i = keys.length := by omega
    simp [end_iff, eq_comm]

theorem isLast_concat {i : Nat} :
    IsLast (keys ++ [k]) key i ↔ key = k ∧ i = keys.length ∨ key ≠ k ∧ IsLast keys key i := by
  have inside {j : Nat} (here : keys[j]? = some key) : j < keys.length := (List.getElem?_eq_some_iff.1 here).1
  simp only [IsLast, ne_eq, getElem?_concat_eq_some_iff, not_or, not_and]
  constructor
  · rintro ⟨here | ⟨rfl, rfl⟩, later⟩
    · have other := (later _ (inside here)).2 rfl
      exact .inr ⟨other, here, fun j behind => (later j behind).1⟩
    · exact .inl ⟨rfl, rfl⟩
  · rintro (⟨rfl, rfl⟩ | ⟨other, here, later⟩)
    · refine ⟨.inr ⟨rfl, rfl⟩, fun j beyond => ⟨fun here => ?_, fun same => ?_⟩⟩
      · exact absurd (inside here) (by omega)
      · exact absurd same (by omega)
    · exact ⟨.inl here, fun j behind => ⟨later j behind, fun _ => other⟩⟩

/-- A key is bound to the value it was given last. -/
theorem mem_entries_insertAll :
    (key, value) ∈ (insertAll .empty bindings).entries ↔
      ∃ i, IsLast (bindings.map (·.1)) key i ∧ (bindings.map (·.2))[i]? = some value := by
  induction bindings using List.reverseRecOn generalizing value with
  | nil => simp [insertAll, empty, IsLast]
  | append_singleton bindings b ih =>
    obtain ⟨k, v⟩ := b
    rw [insertAll_concat, insert, mem_insertEntry (nodup_keys_insertAll bindings), ih]
    simp only [List.map_append, List.map_singleton, isLast_concat]
    have before {i : Nat} (last : IsLast (bindings.map (·.1)) key i) :
        (bindings.map (·.2) ++ [v])[i]? = (bindings.map (·.2))[i]? := by
      have inside := (List.getElem?_eq_some_iff.1 last.1).1
      exact List.getElem?_append_left (by simpa using inside)
    constructor
    · rintro (⟨rfl, rfl⟩ | ⟨other, i, last, bound⟩)
      · exact ⟨bindings.length, .inl ⟨rfl, by simp⟩, by simp⟩
      · exact ⟨i, .inr ⟨other, last⟩, (before last).trans bound⟩
    · rintro ⟨i, ⟨rfl, rfl⟩ | ⟨other, last⟩, bound⟩
      · exact .inl ⟨rfl, by simpa using bound.symm⟩
      · exact .inr ⟨other, i, last, (before last).symm.trans bound⟩

/-- Bindings of distinct keys stay as they are. -/
theorem entries_insertAll {p : Params} (distinct : (p.keys ++ bindings.map (·.1)).Nodup) :
    (p.insertAll bindings).entries = p.entries ++ bindings := by
  induction bindings using List.reverseRecOn with
  | nil => exact (List.append_nil _).symm
  | append_singleton bindings b ih =>
    rw [List.map_append, ← List.append_assoc] at distinct
    have bound := ih distinct.of_append_left
    have new : b.1 ∉ (p.insertAll bindings).entries.map (·.1) := by
      rw [bound, List.map_append]
      exact fun known => List.disjoint_of_nodup_append distinct known List.mem_cons_self
    rw [insertAll_concat, insert, insertEntry_of_not_mem new, bound, List.append_assoc]

end Routing.Params
