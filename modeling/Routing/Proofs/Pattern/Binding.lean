import Routing.Proofs.Params.Insertion
import Routing.Proofs.Pattern.Covering
import Routing.Proofs.Text.Exact

/-!
# Parameters from captures

The slots of a pattern are bound one behind the other to what they captured, and slots may share a key.

* `CompiledPattern.slotKeys`: the key of every slot
* `IsSlotValue`: what a capture stands for
* `CompiledPattern.bindSlots_eq`: the slots are bound in order
* `CompiledPattern.Binds`: a request by the captures that it holds
* `Pattern.parse_binds`: the request for any path
-/
namespace Routing

/-! ## Values of captures -/

/-- What a capture stands for: the text whose bytes it escapes, or itself if they are the bytes of no text.
No value, the empty value and all others stay apart. -/
structure IsSlotValue (raw value : Option String) : Prop where
  absent : value = none ↔ raw = none
  empty : value = some "" ↔ raw = some ""
  decoded : ∀ text cs, raw = some text → text ≠ "" → Percent.bytes text.toList = Utf8.encode cs →
    value = some (String.ofList cs)
  kept : ∀ text, raw = some text → (∀ cs, Percent.bytes text.toList ≠ Utf8.encode cs) → value = some text

theorem slotValue_of_bytes {text : String} {cs : List Char}
    (escapes : Percent.bytes text.toList = Utf8.encode cs) : slotValue text = String.ofList cs := by
  rw [slotValue, Percent.decode_eq_ok_iff.2 escapes]

theorem slotValue_of_no_bytes {text : String} (none : ∀ cs, Percent.bytes text.toList ≠ Utf8.encode cs) :
    slotValue text = text := by
  rw [slotValue]
  split
  · next cs read => exact absurd (Percent.decode_eq_ok_iff.1 read) (none cs)
  · rfl

theorem slotValue_eq_empty_iff {text : String} : slotValue text = "" ↔ text = "" := by
  constructor
  · intro nothing
    rw [slotValue] at nothing
    split at nothing
    · next cs read =>
      obtain rfl : cs = [] := String.ofList_injective nothing
      by_contra nonempty
      have some := Percent.bytes_ne_nil fun blank => nonempty (String.toList_eq_nil_iff.1 blank)
      exact some (Percent.decode_eq_ok_iff.1 read)
    · exact nothing
  · rintro rfl
    rfl

theorem isSlotValue_slotValue (raw : Option String) : IsSlotValue raw (raw.map slotValue) where
  absent := Option.map_eq_none_iff
  empty := by
    cases raw with
    | none => simp
    | some text => simpa using slotValue_eq_empty_iff
  decoded := by
    rintro text cs rfl - escapes
    exact congrArg some (slotValue_of_bytes escapes)
  kept := by
    rintro text rfl none
    exact congrArg some (slotValue_of_no_bytes none)

/-- A capture stands for one value only. -/
theorem isSlotValue_iff {raw value : Option String} : IsSlotValue raw value ↔ value = raw.map slotValue := by
  refine ⟨fun h => ?_, fun same => same ▸ isSlotValue_slotValue raw⟩
  cases raw with
  | none => exact h.absent.2 rfl
  | some text =>
    by_cases nonempty : text = ""
    · subst nonempty
      exact h.empty.2 rfl
    by_cases escapes : ∃ cs, Percent.bytes text.toList = Utf8.encode cs
    · obtain ⟨cs, escapes⟩ := escapes
      rw [h.decoded text cs rfl nonempty escapes, Option.map_some, slotValue_of_bytes escapes]
    · have none := not_exists.1 escapes
      rw [h.kept text rfl none, Option.map_some, slotValue_of_no_bytes none]

namespace CompiledPattern

/-! ## Slots -/

/-- The key of every slot: as declared, or by the position of the group. -/
def slotKeys (c : CompiledPattern) : List ParamKey :=
  match c.layout with
  | .named => c.keys.map (·.key)
  | .positional => (List.range c.regex.groupCount).map .index

theorem bindSlots_eq (c : CompiledPattern) (i : Nat) (raws : List (Option String)) (params : Params) :
    c.bindSlots i raws params =
      params.insertAll (((List.range' i raws.length).map c.slotKey).zip (raws.map (·.map slotValue))) := by
  induction raws generalizing i params with
  | nil => rfl
  | cons raw raws ih =>
    rw [bindSlots, ih]
    rfl

/-- The captures are the groups of the match that was found. -/
theorem parse_of_find? {c : CompiledPattern} {path : String} {m : Regex.Match}
    (found : c.regex.find? path = some m) :
    c.parse path = ⟨path, true, c.slots m, c.bindSlots 0 (c.slots m) .empty, c.keys⟩ := by
  rw [parse, found]

theorem isMatch_eq (c : CompiledPattern) (path : String) : c.isMatch path = (c.parse path).matched := by
  rw [isMatch, Regex.isMatch, parse]
  split
  · next none => rw [none]; rfl
  · next found => rw [found]; rfl

theorem exists_of_matched {c : CompiledPattern} {path : String} (matched : (c.parse path).matched = true) :
    ∃ m, c.regex.find? path = some m := by
  rwa [← isMatch_eq, isMatch, Regex.isMatch, Option.isSome_iff_exists] at matched

/-- Slots with distinct keys are bound one behind the other. -/
theorem entries_bindSlots (p : CompiledPattern) {keys : List ParamKey} {raws : List (Option String)}
    {i : Nat} {params : Params} (rest : (p.keys.drop i).map (·.key) = keys)
    (each : raws.length = keys.length) (distinct : (params.keys ++ keys).Nodup) :
    (p.bindSlots i raws params).entries = params.entries ++ keys.zip (raws.map (·.map slotValue)) := by
  have slots : (List.range' i raws.length).map p.slotKey = keys := by
    refine List.ext_getElem (by simp [each]) fun j inside within => ?_
    subst rest
    have bound : i + j < p.keys.length := by
      rw [List.length_map, List.length_drop] at within
      omega
    simp [slotKey, bound]
  rw [bindSlots_eq, slots, Params.entries_insertAll]
  rwa [List.map_fst_zip (by simp [each])]

/-- A request that matches binds its captures. -/
theorem params_of_matched {c : CompiledPattern} {path : String} (matched : (c.parse path).matched = true) :
    c.isMatch path = true ∧ (c.parse path).params = c.bindSlots 0 (c.parse path).captures .empty := by
  refine ⟨(isMatch_eq c path).trans matched, ?_⟩
  unfold parse at matched ⊢
  split at matched
  · cases matched
  · rfl

/-- The piece of the path that a group captured. -/
theorem infix_of_mem_groups {r : Regex} {path raw : String} {m : Regex.Match}
    (found : r.find? path = some m) (captured : some raw ∈ m.groups) : raw.toList <:+: path.toList := by
  obtain ⟨⟨start, t⟩, -, rfl⟩ := Option.map_eq_some_iff.1 found
  obtain ⟨i, -, bound⟩ := List.mem_map.1 captured
  obtain ⟨⟨-, first, last⟩, -, rfl⟩ := Option.map_eq_some_iff.1 bound
  rw [String.toList_ofList]
  exact (List.take_prefix ..).isInfix.trans (List.drop_suffix ..).isInfix

theorem infix_of_mem_slots {c : CompiledPattern} {path raw : String} {m : Regex.Match}
    (found : c.regex.find? path = some m) (captured : some raw ∈ c.slots m) : raw.toList <:+: path.toList := by
  refine infix_of_mem_groups found ?_
  unfold slots at captured
  split at captured
  · obtain ⟨i, -, bound⟩ := List.mem_map.1 captured
    obtain ⟨group, -, matched⟩ := Option.bind_eq_some_iff.1 bound
    exact List.mem_of_getElem? (Option.join_eq_some_iff.1 matched)
  · exact captured

/-- The request of a path that matches: what the slots captured, and under each key, at the place of its
first slot, the value of its last one. -/
structure Binds (c : CompiledPattern) (q : Request) : Prop where
  raws : q.captures.length = c.slotKeys.length
  pieces : ∀ raw, some raw ∈ q.captures → raw.toList <:+: q.path.toList
  keys : q.params.keys = c.slotKeys.eraseDups
  values : ∀ key value, (key, value) ∈ q.params.entries ↔
    ∃ i raw, Params.IsLast c.slotKeys key i ∧ q.captures[i]? = some raw ∧ IsSlotValue raw value

/-- Slots go by position where none are declared. -/
def IsRegular (c : CompiledPattern) : Prop :=
  c.layout = .positional → c.keys = []

theorem length_slots {c : CompiledPattern} {path : String} {m : Regex.Match}
    (found : c.regex.find? path = some m) : (c.slots m).length = c.slotKeys.length := by
  cases layout : c.layout with
  | named => simp [slots, slotKeys, layout]
  | positional =>
    obtain ⟨_, -, rfl⟩ := Option.map_eq_some_iff.1 found
    simp [slots, slotKeys, layout]

theorem map_slotKey {c : CompiledPattern} (regular : c.IsRegular) :
    (List.range c.slotKeys.length).map c.slotKey = c.slotKeys := by
  refine List.ext_getElem (by simp) fun i _ inside => ?_
  rw [List.getElem_map, List.getElem_range, slotKey]
  cases layout : c.layout with
  | named =>
    simp only [slotKeys, layout, List.length_map] at inside ⊢
    simp [inside]
  | positional => simp [slotKeys, layout, regular layout]

theorem binds_of_matched {c : CompiledPattern} {path : String} (regular : c.IsRegular)
    (matched : (c.parse path).matched = true) : c.Binds (c.parse path) := by
  obtain ⟨-, params⟩ := params_of_matched matched
  obtain ⟨m, found⟩ := exists_of_matched matched
  have captures : (c.parse path).captures = c.slots m := by rw [parse_of_find? found]
  have raws : (c.parse path).captures.length = c.slotKeys.length := captures ▸ length_slots found
  have bound := bindSlots_eq c 0 (c.parse path).captures .empty
  rw [← List.range_eq_range', raws, map_slotKey regular] at bound
  have first : (c.slotKeys.zip ((c.parse path).captures.map (·.map slotValue))).map (·.1) = c.slotKeys :=
    List.map_fst_zip (by simp [raws])
  have second : (c.slotKeys.zip ((c.parse path).captures.map (·.map slotValue))).map (·.2) =
      (c.parse path).captures.map (·.map slotValue) := List.map_snd_zip (by simp [raws])
  refine ⟨raws, fun raw captured => ?_, ?_, fun key value => ?_⟩
  · rw [captures] at captured
    rw [parse_of_find? found]
    exact infix_of_mem_slots found captured
  · rw [params, bound, Params.keys_insertAll, first]
  · rw [params, bound, Params.mem_entries_insertAll, first, second]
    simp only [List.getElem?_map, Option.map_eq_some_iff, isSlotValue_iff, eq_comm (a := value)]
    simp only [exists_and_left]

end CompiledPattern

namespace Pattern

/-- A path that does not match leaves all slots out. In one that does, the slots of a pattern text go by the
keys it declares; those of a regular expression are its groups, which go by position and share no key. -/
theorem parse_binds {p : Pattern} {o : MatchOptions} {c : CompiledPattern} (compiled : p.compile o = .ok c)
    (path : String) :
    c.isMatch path = (c.parse path).matched ∧ (c.parse path).keys = c.keys ∧
    ((c.parse path).matched = false → (c.parse path).captures = [] ∧ (c.parse path).params = .empty) ∧
    ((c.parse path).matched = true → c.Binds (c.parse path)) ∧
    (∀ text, p.text? = some text → c.slotKeys = c.keys.map (·.key)) ∧
    ∀ r, p = .regex r →
      c.regex = r ∧ c.keys = [] ∧ c.slotKeys = (List.range r.groupCount).map .index ∧
      ((c.parse path).matched = true → ∃ m, r.find? path = some m ∧ (c.parse path).captures = m.groups ∧
        (c.parse path).params.keys = c.slotKeys) := by
  have text {t : String} (ht : p.text? = some t) := layout_of_compile ht compiled
  have regular : c.IsRegular := by
    cases p with
    | regex r =>
      cases compiled
      exact fun _ => rfl
    | path | alternatives =>
      intro positional
      rw [text rfl] at positional
      cases positional
  have binds (matched : (c.parse path).matched = true) := CompiledPattern.binds_of_matched regular matched
  refine ⟨CompiledPattern.isMatch_eq c path, ?_, fun unmatched => ?_, binds, fun t ht => ?_, ?_⟩
  · unfold CompiledPattern.parse
    split <;> rfl
  · unfold CompiledPattern.parse at unmatched ⊢
    split at unmatched
    · exact ⟨rfl, rfl⟩
    · cases unmatched
  · rw [CompiledPattern.slotKeys, text ht]
  · rintro r rfl
    cases compiled
    refine ⟨rfl, rfl, rfl, fun matched => ?_⟩
    obtain ⟨m, found⟩ := CompiledPattern.exists_of_matched matched
    have distinct : ((List.range r.groupCount).map ParamKey.index).Nodup :=
      List.nodup_range.map fun _ _ => ParamKey.index.inj
    refine ⟨m, found, ?_, ?_⟩
    · rw [CompiledPattern.parse_of_find? found]
      rfl
    · exact (binds matched).keys.trans (List.eraseDups_of_nodup distinct)

/-- The absent slot of the second member takes the key from the slot of the first. -/
theorem parse_binds_members :
    ∃ c, compile {} (.alternatives ["/a/:id", "/b/:id"]) = .ok c ∧ c.Binds (c.parse "/a/7") ∧
      (c.parse "/a/7").captures = [some "/a/7", some "7", none] ∧
      (c.parse "/a/7").params.entries = [(.index 0, some "/a/7"), (.name "id", none)] := by
  have found : ((compile {} (.alternatives ["/a/:id", "/b/:id"])).toOption.map fun c =>
      ((c.parse "/a/7").matched, (c.parse "/a/7").captures, (c.parse "/a/7").params.entries)) =
      some (true, [some "/a/7", some "7", none], [(.index 0, some "/a/7"), (.name "id", none)]) := by
    decide +kernel
  obtain ⟨c, compiled, outcome⟩ := exists_ok found
  simp only [Prod.mk.injEq] at outcome
  obtain ⟨matched, captures, entries⟩ := outcome
  obtain ⟨-, -, -, binds, -⟩ := parse_binds compiled "/a/7"
  exact ⟨c, compiled, binds matched, captures, entries⟩

end Pattern

end Routing
