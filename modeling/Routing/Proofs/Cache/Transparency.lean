import Routing.Cache

/-!
# The cache answers as if it were not there

* `Pattern.compile_eq_of_cacheKey`: patterns with one key compile to one result
* `PatternCache.Sound`: every entry is what each pattern with its key compiles to
* `PatternCache.run_answers`: any run of a cache answers each compilation as `Pattern.compile` does
-/
namespace Routing

/-- The key holds all that a compilation reads: the text, its kind and the options. -/
theorem Pattern.compile_eq_of_cacheKey {p q : Pattern} {o o' : MatchOptions} {key : CacheKey}
    (hp : p.cacheKey? o = some key) (hq : q.cacheKey? o' = some key) :
    p.compile o = q.compile o' := by
  cases p with
  | regex => cases hp
  | path =>
    cases q with
    | regex => cases hq
    | alternatives =>
      simp only [cacheKey?, Option.some.injEq] at hp hq
      rw [← hp] at hq
      simp at hq
    | path =>
      simp only [cacheKey?, Option.some.injEq] at hp hq
      rw [← hp] at hq
      simp only [CacheKey.mk.injEq] at hq
      obtain ⟨rfl, -, rfl⟩ := hq
      rfl
  | alternatives =>
    cases q with
    | regex => cases hq
    | path =>
      simp only [cacheKey?, Option.some.injEq] at hp hq
      rw [← hp] at hq
      simp at hq
    | alternatives =>
      simp only [cacheKey?, Option.some.injEq] at hp hq
      rw [← hp] at hq
      simp only [CacheKey.mk.injEq] at hq
      obtain ⟨text, -, rfl⟩ := hq
      simp only [compile, source, text]

namespace Recent

variable {κ α : Type} [DecidableEq κ]

theorem mem_of_get? {m m' : Recent κ α} {key : κ} {value : α}
    (h : m.get? key = some (value, m')) :
    (key, value) ∈ m.entries ∧ ∀ e ∈ m'.entries, e ∈ m.entries := by
  obtain ⟨⟨k, v⟩, found, he⟩ := Option.map_eq_some_iff.1 h
  simp only [Prod.mk.injEq] at he
  obtain ⟨rfl, rfl⟩ := he
  have hk : k = key := by simpa using List.find?_some found
  subst hk
  have here := List.mem_of_find?_eq_some found
  refine ⟨here, fun e he => ?_⟩
  rcases List.mem_cons.1 he with rfl | he
  · exact here
  · exact (List.mem_filter.1 he).1

theorem mem_put {m : Recent κ α} {key : κ} {value : α} {e : κ × α}
    (h : e ∈ (m.put key value).entries) : e = (key, value) ∨ e ∈ m.entries := by
  rcases List.mem_cons.1 (List.mem_of_mem_take h) with h | h
  · exact .inl h
  · exact .inr (List.mem_filter.1 h).1

end Recent

namespace PatternCache

/-- Every entry is the outcome for each pattern that has its key. -/
def Sound (c : PatternCache) : Prop :=
  ∀ e ∈ c.entries.entries, ∀ (o : MatchOptions) (p : Pattern),
    p.cacheKey? o = some e.1 → p.compile o = .ok e.2

theorem sound_withCapacity (n : Nat) : (withCapacity n).Sound := by
  intro e he
  cases he

/-- A compilation answers as without a cache, whether it hits, misses or fails, and keeps only what
every pattern with the key compiles to. -/
theorem compile_sound {c : PatternCache} (hc : c.Sound) (o : MatchOptions) (p : Pattern) :
    (c.compile o p).1 = p.compile o ∧ (c.compile o p).2.Sound := by
  unfold compile
  cases hk : p.cacheKey? o with
  | none => exact ⟨rfl, hc⟩
  | some key =>
    simp only
    cases hg : c.entries.get? key with
    | some found =>
      obtain ⟨hm, hs⟩ := Recent.mem_of_get? hg
      exact ⟨(hc _ hm o p hk).symm, fun e he => hc e (hs e he)⟩
    | none =>
      simp only
      cases hr : p.compile o with
      | error => exact ⟨rfl, hc⟩
      | ok compiled =>
        refine ⟨rfl, fun e he o' q hq => ?_⟩
        rcases Recent.mem_put he with rfl | he
        · exact (Pattern.compile_eq_of_cacheKey hq hk).trans hr
        · exact hc e he o' q hq

/-! ## Runs -/

inductive Operation where
  | compile (options : MatchOptions) (p : Pattern)
  | clear
  | resetStats

/-- What an operation answers without a cache; only a compilation answers anything. -/
def Operation.answer? : Operation → Option (Except RouterError CompiledPattern)
  | compile options p => some (p.compile options)
  | clear | resetStats => none

def step (c : PatternCache) : Operation → Option (Except RouterError CompiledPattern) × PatternCache
  | .compile options p => (some (c.compile options p).1, (c.compile options p).2)
  | .clear => (none, c.clear)
  | .resetStats => (none, c.resetStats)

/-- The answers of a run of operations, and the cache after it. -/
def run (c : PatternCache) :
    List Operation → List (Option (Except RouterError CompiledPattern)) × PatternCache
  | [] => ([], c)
  | op :: ops =>
    let (answer, c) := c.step op
    let (answers, c) := c.run ops
    (answer :: answers, c)

theorem step_sound {c : PatternCache} (hc : c.Sound) (op : Operation) :
    (c.step op).1 = op.answer? ∧ (c.step op).2.Sound := by
  cases op with
  | compile options p =>
    obtain ⟨answer, sound⟩ := compile_sound hc options p
    exact ⟨congrArg some answer, sound⟩
  | clear => exact ⟨rfl, fun e he => by cases he⟩
  | resetStats => exact ⟨rfl, hc⟩

theorem run_sound {c : PatternCache} (hc : c.Sound) (ops : List Operation) :
    (c.run ops).1 = ops.map Operation.answer? ∧ (c.run ops).2.Sound := by
  induction ops generalizing c with
  | nil => exact ⟨rfl, hc⟩
  | cons op ops ih =>
    obtain ⟨answer, sound⟩ := step_sound hc op
    obtain ⟨answers, sound⟩ := ih sound
    exact ⟨by simp only [run, List.map_cons, answer, answers], sound⟩

/-- A cache of any capacity, used in any way, compiles each pattern to what it compiles to without a
cache: the same error, or the same matcher with the same slots. -/
theorem run_answers (capacity : Nat) (ops : List Operation) :
    ((withCapacity capacity).run ops).1 = ops.map Operation.answer? :=
  (run_sound (sound_withCapacity capacity) ops).1

end PatternCache

end Routing
