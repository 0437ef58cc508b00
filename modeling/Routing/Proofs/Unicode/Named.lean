import Routing.Unicode.Lookup

/-!
# The characters of property names

No property has a parenthesis, a bracket or a backslash in its name, and a loose spelling drops none of
them, so that a query that is answered holds none either.

* `PropertyQuery.isPlain_of_resolve`: a query that is answered holds no such character
-/
namespace Routing.Unicode

/-- The characters that open groups, classes and escapes, and the one that closes a class. -/
def isStructural (c : Char) : Bool :=
  c == '(' || c == '[' || c == ']' || c == '\\'

theorem isStructural_iff {c : Char} :
    isStructural c = true ↔ c = '(' ∨ c = '[' ∨ c = ']' ∨ c = '\\' := by
  simp [isStructural, or_assoc]

/-! ## The tables -/

/-- The bytes that spell these characters. -/
def structuralBytes : List UInt8 :=
  [0x28, 0x5B, 0x5D, 0x5C]

def spellsPlain (name : String) : Bool :=
  name.toByteArray.data.toList.all fun b => !structuralBytes.contains b

/-- The table names nothing by these characters. Their bytes are looked for, since a name is a row of
bytes. -/
def namesPlain {α : Type} (table : List (List String × α)) : Bool :=
  table.all fun row => row.1.all spellsPlain

theorem namesPlain_binaryNames : namesPlain binaryNames = true := by
  decide +kernel

theorem namesPlain_valuedNames : namesPlain valuedNames = true := by
  decide +kernel

theorem namesPlain_values : valuedNames.all (namesPlain ·.2) = true := by
  decide +kernel

theorem namesPlain_of_mem {r : List String × List (List String × CharSet)} (h : r ∈ valuedNames) :
    namesPlain r.2 = true :=
  List.all_eq_true.1 namesPlain_values r h

theorem namesPlain_categoryNames : namesPlain categoryNames = true :=
  namesPlain_of_mem (r := (["generalcategory", "gc"], categoryNames)) (by simp [valuedNames])

theorem namesPlain_scripts : namesPlain scripts = true :=
  namesPlain_of_mem (r := (["script", "sc"], scripts)) (by simp [valuedNames])

theorem isStructural_of_spellsPlain {name : List Char} (h : spellsPlain (String.ofList name) = true) :
    ∀ c ∈ name, isStructural c = false := by
  intro c hc
  rw [spellsPlain, String.toByteArray_ofList, List.utf8Encode, List.toList_data_toByteArray,
    List.all_flatMap] at h
  have spelled := List.all_eq_true.1 h c hc
  rw [Bool.eq_false_iff]
  intro structural
  rcases isStructural_iff.1 structural with rfl | rfl | rfl | rfl <;> exact absurd spelled (by decide)

theorem spellsPlain_of_findNamed {α : Type} {table : List (List String × α)} {name : String} {a : α}
    (plain : namesPlain table = true) (h : findNamed table name = some a) :
    spellsPlain name = true := by
  obtain ⟨row, hrow, -⟩ := Option.map_eq_some_iff.1 h
  have named := List.find?_some hrow
  exact List.all_eq_true.1 (List.all_eq_true.1 plain row (List.mem_of_find?_eq_some hrow)) name
    (by simpa using named)

/-! ## Loose spellings -/

theorem mem_looseName {name : List Char} {c : Char} (hc : isStructural c = true) (h : c ∈ name) :
    c ∈ looseName name := by
  have kept {cs : List Char} (h : c ∈ cs) : c ∈ (cs.filter fun c =>
      c != ' ' && c != '_' && c != '-' && decide (c.toNat < 128)).map Char.toLower := by
    refine List.mem_map.2 ⟨c, List.mem_filter.2 ⟨h, ?_⟩, ?_⟩ <;>
      rcases isStructural_iff.1 hc with rfl | rfl | rfl | rfl <;> decide
  have other {d : Char} (hd : d.toLower = 'i' ∨ d.toLower = 's') : c ≠ d := by
    rintro rfl
    rcases isStructural_iff.1 hc with rfl | rfl | rfl | rfl <;> revert hd <;> decide
  unfold looseName
  split
  · rename_i a b rest
    by_cases is : a.toLower = 'i' ∧ b.toLower = 's'
    · have behind : c ∈ rest := by
        simpa [other (.inl is.1), other (.inr is.2)] using h
      rw [if_pos is]
      split
      · rename_i abbreviated
        have only : c ∈ ['c'] := by
          rw [← abbreviated]
          exact kept behind
        obtain rfl := List.mem_singleton.1 only
        cases hc
      · exact kept behind
    · rw [if_neg is]
      exact kept h
  · exact kept h

theorem isStructural_of_looseName {name : List Char}
    (h : spellsPlain (String.ofList (looseName name)) = true) : ∀ c ∈ name, isStructural c = false := by
  intro c hc
  rw [Bool.eq_false_iff]
  intro structural
  exact absurd structural
    (Bool.eq_false_iff.1 (isStructural_of_spellsPlain h c (mem_looseName structural hc)))

/-! ## Queries -/

/-- Neither a name nor a value of the query holds a structural character. -/
def PropertyQuery.isPlain : PropertyQuery → Bool
  | byName name => name.all (!isStructural ·)
  | byValue property value => property.all (!isStructural ·) && value.all (!isStructural ·)

theorem spellsPlain_of_resolveName {name : String} {s : CharSet} (h : resolveName name = .ok s) :
    spellsPlain name = true := by
  unfold resolveName at h
  split at h
  · split at h
    · rename_i set found
      exact spellsPlain_of_findNamed namesPlain_binaryNames found
    · cases h
  · split at h
    · cases h
    · split at h
      · rename_i set found
        cases category : findNamed categoryNames name with
        | some _ => exact spellsPlain_of_findNamed namesPlain_categoryNames category
        | none =>
          rw [category] at found
          exact spellsPlain_of_findNamed namesPlain_scripts found
      · cases h

theorem spellsPlain_of_resolveValue {property value : String} {s : CharSet}
    (h : resolveValue property value = .ok s) :
    spellsPlain property = true ∧ spellsPlain value = true := by
  unfold resolveValue at h
  split at h
  · rename_i table foundTable
    split at h
    · rename_i set found
      obtain ⟨row, hrow, rfl⟩ := Option.map_eq_some_iff.1 foundTable
      exact ⟨spellsPlain_of_findNamed namesPlain_valuedNames foundTable,
        spellsPlain_of_findNamed (namesPlain_of_mem (List.mem_of_find?_eq_some hrow)) found⟩
    · cases h
  · cases h

theorem PropertyQuery.isPlain_of_resolve {q : PropertyQuery} {s : CharSet} (h : q.resolve = .ok s) :
    q.isPlain = true := by
  cases q with
  | byName name =>
    have plain := isStructural_of_looseName (spellsPlain_of_resolveName h)
    simpa [isPlain] using plain
  | byValue property value =>
    obtain ⟨plain, plain'⟩ := spellsPlain_of_resolveValue h
    have front := isStructural_of_looseName plain
    have behind := isStructural_of_looseName plain'
    simpa [isPlain] using ⟨front, behind⟩

end Routing.Unicode
