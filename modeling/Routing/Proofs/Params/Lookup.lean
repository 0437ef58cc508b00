import Mathlib.Data.Finset.Card
import Routing.Proofs.Params.Insertion

/-!
# Looking up what was bound

Bindings put in one behind the other make a map: a key is there if it was bound, and has the value that it was bound to
last. Keys of either kind are looked up apart, also where a name and a position are written alike.

* `Params.lookup?`: the value of the first key that fits
* `Params.getName?_eq_lookup?`, `Params.getIndex?_eq_lookup?`: names and positions are looked up by themselves
* `Params.lookup_insertAll`: a key has the value of its last binding
* `Params.filter_insertAll`: bindings of other keys make no difference
* `Params.keeps_insertion_order`: the map that any bindings come to
-/
namespace Routing

theorem ParamKey.name?_eq_some_iff {key : ParamKey} {name : String} : key.name? = some name ↔ key = .name name := by
  cases key <;> simp [ParamKey.name?]

theorem ParamKey.index?_eq_some_iff {key : ParamKey} {n : Nat} : key.index? = some n ↔ key = .index n := by
  cases key <;> simp [ParamKey.index?]

namespace Params

variable {key : ParamKey} {entries bindings : List (ParamKey × Option String)}

/-! ## Finding a key -/

/-- The value of the first key that fits; `none` also for a key without value. -/
def lookup? (p : Params) (fits : ParamKey → Bool) : Option String :=
  (p.entries.find? (fits ·.1)).bind (·.2)

theorem lookup?_congr {fits : ParamKey → Bool} (p : Params) (same : ∀ k, fits k = true ↔ k = key) :
    p.lookup? fits = p.get? key := by
  have equal : fits = (· == key) := by
    funext k
    rw [Bool.eq_iff_iff, same, beq_iff_eq]
  rw [equal]
  rfl

theorem getName?_eq_lookup? (p : Params) (name : String) :
    p.getName? name = p.lookup? (·.name? == some name) :=
  (lookup?_congr p fun k => by rw [beq_iff_eq, ParamKey.name?_eq_some_iff]).symm

theorem getIndex?_eq_lookup? (p : Params) (n : Nat) : p.getIndex? n = p.lookup? (·.index? == some n) :=
  (lookup?_congr p fun k => by rw [beq_iff_eq, ParamKey.index?_eq_some_iff]).symm

theorem lookup_cons_eq (k : ParamKey) (v : Option String) (rest : List (ParamKey × Option String))
    (key : ParamKey) : ((k, v) :: rest).lookup key = if key = k then some v else rest.lookup key := by
  by_cases same : key = k
  · rw [if_pos same, same, List.lookup_cons_self]
  · rw [if_neg same, List.lookup_cons, beq_false_of_ne same]

theorem get?_eq_lookup (p : Params) (key : ParamKey) : p.get? key = (p.entries.lookup key).join := by
  rw [get?]
  induction p.entries with
  | nil => rfl
  | cons entry rest ih =>
    obtain ⟨k, v⟩ := entry
    rw [lookup_cons_eq]
    by_cases here : k = key
    · simp [here]
    · rw [List.find?_cons_of_neg (by simpa using here), ih, if_neg (Ne.symm here)]

theorem contains_iff {p : Params} {name : String} : p.contains name = true ↔ .name name ∈ p.keys := by
  simp [contains, keys]

/-! ## The last binding -/

theorem lookup_insertEntry (k : ParamKey) (v : Option String) (entries : List (ParamKey × Option String))
    (key : ParamKey) :
    (insertEntry k v entries).lookup key = if key = k then some v else entries.lookup key := by
  induction entries with
  | nil => rw [insertEntry, lookup_cons_eq]
  | cons entry rest ih =>
    obtain ⟨first, old⟩ := entry
    rw [insertEntry]
    split
    · next here =>
      rw [lookup_cons_eq, lookup_cons_eq, here]
      split <;> rfl
    · next other =>
      rw [lookup_cons_eq, lookup_cons_eq, ih]
      by_cases same : key = first
      · rw [if_pos same, if_pos same, if_neg (same ▸ other)]
      · rw [if_neg same, if_neg same]

/-- A key has the value of its last binding, and the one it had before if there is none. -/
theorem lookup_insertAll (p : Params) (bindings : List (ParamKey × Option String)) (key : ParamKey) :
    (p.insertAll bindings).entries.lookup key = (bindings.reverse.lookup key).or (p.entries.lookup key) := by
  induction bindings using List.reverseRecOn with
  | nil => rfl
  | append_singleton bindings b ih =>
    rw [insertAll_concat, insert, lookup_insertEntry, ih, List.reverse_append]
    change _ = (((b.1, b.2) :: bindings.reverse).lookup key).or _
    rw [lookup_cons_eq]
    split <;> rfl

/-! ## Other keys -/

theorem filter_insertEntry (fits : ParamKey → Bool) (k : ParamKey) (v : Option String)
    (entries : List (ParamKey × Option String)) :
    (insertEntry k v entries).filter (fits ·.1) =
      if fits k then insertEntry k v (entries.filter (fits ·.1)) else entries.filter (fits ·.1) := by
  induction entries with
  | nil => simp [insertEntry, List.filter_cons]
  | cons entry rest ih =>
    obtain ⟨first, old⟩ := entry
    rw [insertEntry]
    split
    · next here =>
      subst here
      by_cases fit : fits first = true <;> simp [fit, insertEntry]
    · next other =>
      by_cases fit : fits first = true
      · simp only [List.filter_cons, fit, if_true, ih, insertEntry, if_neg other]
        split <;> rfl
      · simp only [List.filter_cons, fit, ih]
        rfl

/-- Bindings of other keys make no difference: neither to the values of the keys that fit, nor to their order. -/
theorem filter_insertAll (fits : ParamKey → Bool) (bindings : List (ParamKey × Option String)) :
    (insertAll .empty bindings).entries.filter (fits ·.1) =
      (insertAll .empty (bindings.filter (fits ·.1))).entries := by
  induction bindings using List.reverseRecOn with
  | nil => rfl
  | append_singleton bindings b ih =>
    rw [insertAll_concat, insert, filter_insertEntry, ih, List.filter_append]
    by_cases fit : fits b.1 = true
    · simp only [fit, if_true, List.filter_cons, List.filter_nil, insertAll_concat]
      rfl
    · simp [fit]

theorem lookup_filter (fits : ParamKey → Bool) (entries : List (ParamKey × Option String)) (key : ParamKey) :
    (entries.filter (fits ·.1)).lookup key = if fits key then entries.lookup key else none := by
  induction entries with
  | nil => simp
  | cons entry rest ih =>
    obtain ⟨k, v⟩ := entry
    by_cases same : key = k
    · subst same
      by_cases fit : fits key = true <;> simp [fit, ih]
    · by_cases fit : fits k = true <;> simp [fit, ih, lookup_cons_eq, same]

/-- A key is looked up as if the others had not been bound. -/
theorem get?_insertAll_filter (fits : ParamKey → Bool) (bindings : List (ParamKey × Option String))
    (fit : fits key = true) :
    (insertAll .empty (bindings.filter (fits ·.1))).get? key = (insertAll .empty bindings).get? key := by
  rw [get?_eq_lookup, get?_eq_lookup, ← filter_insertAll, lookup_filter, if_pos fit]

/-! ## The map -/

theorem mem_keys_insertAll : key ∈ (insertAll .empty bindings).keys ↔ key ∈ bindings.map (·.1) := by
  rw [keys_insertAll, List.mem_eraseDups]

theorem size_insertAll (bindings : List (ParamKey × Option String)) :
    (insertAll .empty bindings).size = (bindings.map (·.1)).toFinset.card := by
  have same : (insertAll .empty bindings).keys.toFinset = (bindings.map (·.1)).toFinset := by
    ext key
    rw [List.mem_toFinset, List.mem_toFinset, mem_keys_insertAll]
  rw [← same, List.toFinset_card_of_nodup (nodup_keys_insertAll bindings), keys, List.length_map, size]

/-- Whatever is bound in sequence, the keys are distinct and stand in the order in which they were first bound, each
with the value that it was bound to last; so many there are, and all look-ups find that value. Names and positions are
apart, also where they are written alike: neither is changed by bindings of the other. -/
theorem keeps_insertion_order (bindings : List (ParamKey × Option String)) :
    let bound := bindings.map (·.1)
    let p := insertAll .empty bindings
    (p.keys.Nodup ∧ p.keys.Pairwise (fun a b => bound.idxOf a < bound.idxOf b) ∧ ∀ key, key ∈ p.keys ↔ key ∈ bound) ∧
    (∀ key, p.entries.lookup key = bindings.reverse.lookup key) ∧
    p.size = bound.toFinset.card ∧
    (∀ key, p.get? key = (bindings.reverse.lookup key).join) ∧
    (∀ name, p.getName? name = (bindings.reverse.lookup (.name name)).join ∧
      p.getName? name = p.lookup? (·.name? == some name)) ∧
    (∀ n, p.getIndex? n = (bindings.reverse.lookup (.index n)).join ∧
      p.getIndex? n = p.lookup? (·.index? == some n)) ∧
    (∀ name, p.contains name = true ↔ .name name ∈ bound) ∧
    (∀ fits : ParamKey → Bool, p.entries.filter (fits ·.1) =
      (insertAll .empty (bindings.filter (fits ·.1))).entries) ∧
    ∀ name n,
      let withoutIndex := insertAll .empty (bindings.filter (·.1 != .index n))
      let withoutName := insertAll .empty (bindings.filter (·.1 != .name name))
      withoutIndex.getName? name = p.getName? name ∧ withoutIndex.contains name = p.contains name ∧
        withoutName.getIndex? n = p.getIndex? n := by
  intro bound p
  have last (key : ParamKey) : p.entries.lookup key = bindings.reverse.lookup key := by
    rw [lookup_insertAll]
    exact Option.or_none
  have get (key : ParamKey) : p.get? key = (bindings.reverse.lookup key).join := by
    rw [get?_eq_lookup, last]
  refine ⟨⟨nodup_keys_insertAll bindings, ?_, fun key => mem_keys_insertAll⟩, last, size_insertAll bindings, get,
    fun name => ⟨get _, getName?_eq_lookup? p name⟩, fun n => ⟨get _, getIndex?_eq_lookup? p n⟩,
    fun name => contains_iff.trans mem_keys_insertAll, fun fits => filter_insertAll fits bindings,
    fun name n => ⟨?_, ?_, ?_⟩⟩
  · rw [keys_insertAll]
    exact List.pairwise_eraseDups bound
  · exact get?_insertAll_filter (· != .index n) bindings rfl
  · rw [Bool.eq_iff_iff, contains_iff, contains_iff, mem_keys_insertAll, mem_keys_insertAll]
    simp
  · exact get?_insertAll_filter (· != .name name) bindings rfl

/-- The name `0` and the position 0 are bound in turn. -/
example :
    let p := insertAll .empty [(.name "0", some "a"), (.index 0, some "b"), (.name "x", none), (.name "0", none)]
    p.keys = [.name "0", .index 0, .name "x"] ∧ p.getName? "0" = none ∧ p.contains "0" = true ∧
      p.getIndex? 0 = some "b" := by
  decide

end Params

end Routing
