import Routing.Proofs.Cache.Transparency
import Routing.Proofs.Distinct

/-!
# What a cache remembers

A cache holds the patterns that were used last, as many as it has room for. A pattern is used when it compiles,
whether it was found in the cache or not.

* `PatternCache.usedKeys`: the keys that were used since the cache was last cleared, each once
* `take_filter_take`: an element comes to the front, and no more are kept than before
* `PatternCache.keys_step`: what an operation does to the keys
* `PatternCache.Remembers`, `PatternCache.run_remembers`: what a cache holds and counts after any run
-/
namespace Routing

/-! ## Recent entries -/

namespace Recent

variable {κ α : Type}

def keys (m : Recent κ α) : List κ :=
  m.entries.map (·.1)

theorem length_keys (m : Recent κ α) : m.keys.length = m.size :=
  List.length_map _

variable [DecidableEq κ]

theorem keys_without (m : Recent κ α) (key : κ) :
    (m.without key).map (·.1) = m.keys.filter (· != key) := by
  rw [without, keys, List.filter_map]
  rfl

theorem keys_put (m : Recent κ α) (key : κ) (value : α) :
    (m.put key value).keys = (key :: m.keys.filter (· != key)).take m.capacity := by
  rw [put, keys, List.map_take, List.map_cons, keys_without]

theorem get?_eq_none_iff {m : Recent κ α} {key : κ} : m.get? key = none ↔ key ∉ m.keys := by
  simp only [get?, keys, Option.map_eq_none_iff, List.find?_eq_none, List.mem_map, not_exists, not_and,
    beq_iff_eq]

/-- Using an entry brings its key to the front. -/
theorem keys_of_get? {m m' : Recent κ α} {key : κ} {value : α} (h : m.get? key = some (value, m')) :
    m'.keys = key :: m.keys.filter (· != key) ∧ m'.capacity = m.capacity := by
  obtain ⟨⟨k, v⟩, found, he⟩ := Option.map_eq_some_iff.1 h
  obtain ⟨rfl, rfl⟩ := Prod.mk.inj he
  have same : k = key := by simpa using List.find?_some found
  exact ⟨by rw [keys, List.map_cons, keys_without, same], rfl⟩

/-- An element comes to the front of a list without repetitions. What is kept of the list afterwards is found
among what was kept before. -/
theorem take_filter_take {ks : List κ} (distinct : ks.Nodup) (key : κ) (n : Nat) :
    ((ks.take (n + 1)).filter (· != key)).take n = (ks.filter (· != key)).take n := by
  induction ks generalizing n with
  | nil => rfl
  | cons k ks ih =>
    obtain ⟨new, distinct⟩ := List.nodup_cons.1 distinct
    rw [List.take_succ_cons]
    by_cases same : k = key
    · subst same
      -- the element stood at the front, and nowhere else
      have all {l : List κ} (sub : ∀ x ∈ l, x ∈ ks) : l.filter (· != k) = l := by
        refine List.filter_eq_self.2 fun x hx => bne_iff_ne.2 ?_
        rintro rfl
        exact new (sub x hx)
      rw [List.filter_cons_of_neg (by simp), List.filter_cons_of_neg (by simp),
        all fun x => List.mem_of_mem_take, all fun x => id, List.take_take, Nat.min_self]
    · rw [List.filter_cons_of_pos (by simpa using same), List.filter_cons_of_pos (by simpa using same)]
      cases n with
      | zero => rfl
      | succ n => rw [List.take_succ_cons, List.take_succ_cons, ih distinct]

end Recent

namespace PatternCache

/-! ## Histories -/

namespace Operation

def isClear : Operation → Bool
  | clear => true
  | _ => false

def isReset : Operation → Bool
  | resetStats => true
  | _ => false

/-- Whether the operation looks for a key, as it does for all patterns that are not compiled already. -/
def isLookup : Operation → Bool
  | compile _ (.regex _) => false
  | compile _ _ => true
  | clear | resetStats => false

/-- The key that the operation uses, if the pattern has one and compiles. -/
def use? : Operation → Option CacheKey
  | compile options p => if (p.compile options).isOk then p.cacheKey? options else none
  | _ => none

end Operation

/-- The operations since the last one of a kind, the latest first. -/
def since (last : Operation → Bool) (ops : List Operation) : List Operation :=
  ops.reverse.takeWhile (!last ·)

theorem since_concat (last : Operation → Bool) (ops : List Operation) (op : Operation) :
    since last (ops ++ [op]) = if last op then [] else op :: since last ops := by
  rw [since, List.reverse_append, List.reverse_singleton, List.singleton_append, List.takeWhile_cons]
  cases last op <;> rfl

/-- The distinct keys of what compiled since the cache was last cleared, the one used last in front. -/
def usedKeys (ops : List Operation) : List CacheKey :=
  ((since Operation.isClear ops).filterMap Operation.use?).eraseDups

/-- How often a key was looked for since the counters were last reset. -/
def lookups (ops : List Operation) : Nat :=
  (since Operation.isReset ops).countP Operation.isLookup

def clears (ops : List Operation) : Nat :=
  (since Operation.isReset ops).countP Operation.isClear

/-- A cache after a history: what it holds, what it finds, and what it counts. -/
structure Remembers (capacity : Nat) (ops : List Operation) (c : PatternCache) : Prop where
  /-- The keys that were used last, in this order. -/
  keys : c.entries.keys = (usedKeys ops).take capacity
  size : c.size = min capacity (usedKeys ops).length
  /-- These keys are found, and no others. -/
  hit : ∀ options p key, p.cacheKey? options = some key → key ∈ (usedKeys ops).take capacity →
    (c.compile options p).2.stats = { c.stats with hits := c.stats.hits + 1 }
  miss : ∀ options p key, p.cacheKey? options = some key → key ∉ (usedKeys ops).take capacity →
    (c.compile options p).2.stats = { c.stats with misses := c.stats.misses + 1 }
  /-- A pattern that fails to compile is looked for in vain, and leaves the entries as they are. -/
  fails : ∀ options p e, p.compile options = .error e →
    c.compile options p = (.error e, { c with stats.misses := c.stats.misses + 1 })
  /-- What is compiled already is no matter of the cache. -/
  bypass : ∀ options r, c.compile options (.regex r) = ((Pattern.regex r).compile options, c)
  lookups : c.stats.hits + c.stats.misses = lookups ops
  invalidations : c.stats.invalidations = clears ops

/-! ## One operation more -/

theorem usedKeys_concat (ops : List Operation) (op : Operation) :
    usedKeys (ops ++ [op]) =
      if op.isClear then [] else
        match op.use? with
        | none => usedKeys ops
        | some key => key :: (usedKeys ops).filter (· != key) := by
  rw [usedKeys, since_concat]
  cases op.isClear with
  | true => rfl
  | false =>
    rw [if_neg (by simp), if_neg (by simp), List.filterMap_cons]
    cases op.use? with
    | none => rfl
    | some key => simp only [List.eraseDups_cons, usedKeys, List.filter_eraseDups]; rfl

theorem nodup_usedKeys (ops : List Operation) : (usedKeys ops).Nodup :=
  List.nodup_eraseDups _

theorem lookups_concat (ops : List Operation) (op : Operation) :
    lookups (ops ++ [op]) = if op.isReset then 0 else lookups ops + if op.isLookup then 1 else 0 := by
  rw [lookups, since_concat]
  cases op.isReset with
  | true => rfl
  | false => exact List.countP_cons

theorem clears_concat (ops : List Operation) (op : Operation) :
    clears (ops ++ [op]) = if op.isReset then 0 else clears ops + if op.isClear then 1 else 0 := by
  rw [clears, since_concat]
  cases op.isReset with
  | true => rfl
  | false => exact List.countP_cons

section

variable {c : PatternCache} {options : MatchOptions} {p : Pattern} {key : CacheKey}

/-- A key that is there is found, and its entry becomes the most recent one. -/
theorem compile_of_mem (hk : p.cacheKey? options = some key) (known : key ∈ c.entries.keys) :
    ∃ found entries, c.entries.get? key = some (found, entries) ∧
      c.compile options p = (.ok found, { c with entries, stats.hits := c.stats.hits + 1 }) := by
  cases got : c.entries.get? key with
  | none => exact absurd known (Recent.get?_eq_none_iff.1 got)
  | some x => exact ⟨x.1, x.2, rfl, by simp only [compile, hk, got]⟩

/-- A key that is not there is looked for in vain. -/
theorem compile_of_not_mem (hk : p.cacheKey? options = some key) (new : key ∉ c.entries.keys) :
    c.compile options p = match p.compile options with
      | .ok compiled => (.ok compiled,
          { c with entries := c.entries.put key compiled, stats.misses := c.stats.misses + 1 })
      | .error e => (.error e, { c with stats.misses := c.stats.misses + 1 }) := by
  have missing := Recent.get?_eq_none_iff.2 new
  cases compiled : p.compile options with
  | ok found => simp only [compile, hk, missing, compiled]
  | error e => simp only [compile, hk, missing, compiled]

/-- What is in a cache compiles. -/
theorem Sound.isOk_of_mem (sound : c.Sound) (hk : p.cacheKey? options = some key)
    (known : key ∈ c.entries.keys) : (p.compile options).isOk = true := by
  obtain ⟨e, he, rfl⟩ := List.mem_map.1 known
  rw [sound e he options p hk]
  rfl

/-- The cache after a look-up that found nothing and kept nothing. -/
def missed (c : PatternCache) : PatternCache :=
  { c with stats.misses := c.stats.misses + 1 }

/-- What fails to compile is looked for in vain, and nothing is kept of it. -/
theorem compile_of_error (sound : c.Sound) {e : RouterError} (failed : p.compile options = .error e) :
    c.compile options p = (.error e, c.missed) := by
  cases hk : p.cacheKey? options with
  | none =>
    cases p with
    | regex r => cases failed
    | path | alternatives => cases hk
  | some key =>
    have new : key ∉ c.entries.keys := by
      intro known
      have good := sound.isOk_of_mem hk known
      rw [failed] at good
      cases good
    rw [compile_of_not_mem hk new, failed]
    rfl

end

/-- What a history leaves in a cache. -/
structure Holds (capacity : Nat) (ops : List Operation) (c : PatternCache) : Prop where
  sound : c.Sound
  room : c.entries.capacity = capacity
  keys : c.entries.keys = (usedKeys ops).take capacity
  lookups : c.stats.hits + c.stats.misses = lookups ops
  invalidations : c.stats.invalidations = clears ops

namespace Holds

variable {n : Nat} {ops : List Operation} {c : PatternCache}

/-- The keys after one operation more. -/
theorem keys_step (h : Holds (n + 1) ops c) (op : Operation) :
    (c.step op).2.entries.keys = (usedKeys (ops ++ [op])).take (n + 1) := by
  rw [usedKeys_concat]
  cases op with
  | clear => rfl
  | resetStats => exact h.keys
  | compile options p =>
    have used : (Operation.compile options p).use? =
        if (p.compile options).isOk then p.cacheKey? options else none := rfl
    change (c.compile options p).2.entries.keys = _
    rw [if_neg (by simp [Operation.isClear]), used]
    cases hk : p.cacheKey? options with
    | none =>
      have same : c.compile options p = (p.compile options, c) := by simp only [compile, hk]
      rw [same, ite_self]
      exact h.keys
    | some key =>
      -- the key comes to the front of those that were used, and of those that are kept
      have front : (key :: (usedKeys ops).filter (· != key)).take (n + 1) =
          key :: (c.entries.keys.filter (· != key)).take n := by
        rw [List.take_succ_cons, h.keys, Recent.take_filter_take (nodup_usedKeys ops)]
      by_cases known : key ∈ c.entries.keys
      · obtain ⟨found, entries, got, same⟩ := compile_of_mem hk known
        have fewer : (c.entries.keys.filter (· != key)).length ≤ n := by
          have kept : c.entries.keys.length ≤ n + 1 := by
            rw [h.keys]
            exact List.length_take_le _ _
          have out : (c.entries.keys.filter (· != key)).length < c.entries.keys.length :=
            List.length_filter_lt_length_iff_exists.2 ⟨key, known, by simp⟩
          omega
        rw [same, if_pos (h.sound.isOk_of_mem hk known)]
        change entries.keys = _
        rw [front, List.take_of_length_le fewer, (Recent.keys_of_get? got).1]
      · rw [compile_of_not_mem hk known]
        cases p.compile options with
        | error e => exact h.keys
        | ok compiled =>
          change (c.entries.put key compiled).keys = _
          rw [Recent.keys_put, h.room, List.take_succ_cons]
          exact front.symm

theorem step_room (c : PatternCache) (op : Operation) :
    (c.step op).2.entries.capacity = c.entries.capacity := by
  cases op with
  | clear | resetStats => rfl
  | compile options p =>
    change (c.compile options p).2.entries.capacity = _
    cases hk : p.cacheKey? options with
    | none => simp only [compile, hk]
    | some key =>
      by_cases known : key ∈ c.entries.keys
      · obtain ⟨found, entries, got, same⟩ := compile_of_mem hk known
        rw [same]
        exact (Recent.keys_of_get? got).2
      · rw [compile_of_not_mem hk known]
        cases p.compile options <;> rfl

/-- A look-up is counted once, as a hit or as a miss. -/
theorem step_stats (c : PatternCache) (op : Operation) :
    (c.step op).2.stats.hits + (c.step op).2.stats.misses =
        (if op.isReset then 0 else c.stats.hits + c.stats.misses + if op.isLookup then 1 else 0) ∧
      (c.step op).2.stats.invalidations =
        if op.isReset then 0 else c.stats.invalidations + if op.isClear then 1 else 0 := by
  cases op with
  | clear | resetStats => exact ⟨rfl, rfl⟩
  | compile options p =>
    have looked : (Operation.compile options p).isLookup = (p.cacheKey? options).isSome := by
      cases p <;> rfl
    change (c.compile options p).2.stats.hits + (c.compile options p).2.stats.misses = _ ∧
      (c.compile options p).2.stats.invalidations = _
    rw [looked]
    cases hk : p.cacheKey? options with
    | none => simp [compile, hk, Operation.isReset, Operation.isClear]
    | some key =>
      by_cases known : key ∈ c.entries.keys
      · obtain ⟨found, entries, got, same⟩ := compile_of_mem hk known
        rw [same]
        exact ⟨Nat.add_right_comm _ _ _, rfl⟩
      · rw [compile_of_not_mem hk known]
        cases p.compile options <;> exact ⟨rfl, rfl⟩

theorem step (h : Holds (n + 1) ops c) (op : Operation) : Holds (n + 1) (ops ++ [op]) (c.step op).2 where
  sound := (step_sound h.sound op).2
  room := (step_room c op).trans h.room
  keys := h.keys_step op
  lookups := by rw [(step_stats c op).1, h.lookups, lookups_concat]
  invalidations := by rw [(step_stats c op).2, h.invalidations, clears_concat]

theorem remembers (h : Holds n ops c) : Remembers n ops c where
  keys := h.keys
  size := by
    change c.entries.size = _
    rw [← Recent.length_keys, h.keys, List.length_take]
  hit options p key hk known := by
    obtain ⟨found, entries, -, same⟩ := compile_of_mem hk (h.keys ▸ known)
    rw [same]
  miss options p key hk new := by
    rw [compile_of_not_mem hk (h.keys ▸ new)]
    cases p.compile options <;> rfl
  fails _ _ _ failed := compile_of_error h.sound failed
  bypass _ _ := rfl
  lookups := h.lookups
  invalidations := h.invalidations

end Holds

/-! ## Runs -/

theorem run_concat (c : PatternCache) (ops : List Operation) (op : Operation) :
    (c.run (ops ++ [op])).2 = ((c.run ops).2.step op).2 := by
  induction ops generalizing c with
  | nil => rfl
  | cons first ops ih => exact ih (c.step first).2

theorem run_holds (n : Nat) (ops : List Operation) :
    Holds (max n 1) ops ((withCapacity n).run ops).2 := by
  obtain ⟨m, room⟩ : ∃ m, max n 1 = m + 1 := ⟨max n 1 - 1, by omega⟩
  rw [room]
  induction ops using List.reverseRecOn with
  | nil => exact ⟨sound_withCapacity n, room, rfl, rfl, rfl⟩
  | append_singleton ops op ih =>
    rw [run_concat]
    exact ih.step op

/-- After any run, a cache of capacity `n` holds the `max n 1` keys that were used last since it was cleared,
finds these and no others, and counts every look-up since its counters were reset. -/
theorem run_remembers (n : Nat) (ops : List Operation) :
    Remembers (max n 1) ops ((withCapacity n).run ops).2 :=
  (run_holds n ops).remembers

/-- The pattern that was not used again makes room. -/
example : ((withCapacity 2).run [.compile {} (.path "/a"), .compile {} (.path "/b"), .compile {} (.path "/a"),
    .compile {} (.path "/c")]).2.entries.keys.map (·.text) = ["/c", "/a"] := by decide +kernel

end PatternCache

end Routing
