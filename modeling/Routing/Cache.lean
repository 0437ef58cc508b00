import Routing.Cache.Recent
import Routing.Number.Binary64
import Routing.Pattern

/-!
# Compiled patterns that were used lately

* `PatternCache.compile`: compiles a pattern, or finds it compiled
* `CacheStats.hitRate`: how often it was found
-/
namespace Routing

/-- What a compiled pattern depends on. The members of alternatives count by their joined text. -/
structure CacheKey where
  text : String
  alternatives : Bool
  options : MatchOptions
  deriving DecidableEq, Repr

/-- The key of a pattern; a regular expression is compiled already and has none. -/
def Pattern.cacheKey? (options : MatchOptions) : Pattern → Option CacheKey
  | path text => some ⟨text, false, options⟩
  | alternatives members => some ⟨joined members, true, options⟩
  | regex _ => none

structure CacheStats where
  hits : Nat := 0
  misses : Nat := 0
  invalidations : Nat := 0
  deriving DecidableEq, Repr

namespace CacheStats

/-- The share of look-ups that found their pattern, as a double; zero before the first. -/
def hitRate (s : CacheStats) : Nat :=
  Binary64.ofRatio s.hits (s.hits + s.misses)

/-- The rate with six decimal places. -/
def hitRateText (s : CacheStats) : String :=
  let (num, den) := Binary64.ratio s.hitRate
  Number.fixedText 6 num den

/-- The rate in percent with one decimal place. -/
def hitPercentText (s : CacheStats) : String :=
  let (num, den) := Binary64.ratio s.hitRate
  let (num, den) := Binary64.ratio (Binary64.ofRatio (num * 100) den)
  Number.fixedText 1 num den

end CacheStats

structure PatternCache where
  entries : Recent CacheKey CompiledPattern
  stats : CacheStats := {}
  deriving Repr

namespace PatternCache

def defaultCapacity : Nat := 256

def withCapacity (n : Nat) : PatternCache :=
  { entries := .withCapacity n }

def empty : PatternCache :=
  withCapacity defaultCapacity

/-- Compiles a pattern, or finds it compiled. What fails to compile is not kept. -/
def compile (c : PatternCache) (options : MatchOptions) (p : Pattern) :
    Except RouterError CompiledPattern × PatternCache :=
  match p.cacheKey? options with
  | none => (p.compile options, c)
  | some key =>
    match c.entries.get? key with
    | some (found, entries) =>
      (.ok found, { c with entries := entries, stats.hits := c.stats.hits + 1 })
    | none =>
      let c := { c with stats.misses := c.stats.misses + 1 }
      match p.compile options with
      | .ok compiled => (.ok compiled, { c with entries := c.entries.put key compiled })
      | .error e => (.error e, c)

/-- What compiling through the cache reports. -/
def compileLog (c : PatternCache) (options : MatchOptions) (p : Pattern) : List Log.Record :=
  match p.cacheKey? options with
  | none => p.compileLog options
  | some key =>
    match c.entries.get? key with
    | some _ => [Log.trace ("Pattern cache hit for '" ++ key.text ++ "'")]
    | none => Log.trace ("Pattern cache miss for '" ++ key.text ++ "'") :: p.compileLog options

def clear (c : PatternCache) : PatternCache :=
  { c with entries := c.entries.clear, stats.invalidations := c.stats.invalidations + 1 }

/-- What clearing reports. -/
def clearLog (c : PatternCache) : List Log.Record :=
  [Log.debug ("Pattern cache cleared: " ++ toString c.entries.size ++ " entries removed (" ++
    toString (c.stats.invalidations + 1) ++ " total invalidations, hit rate: " ++
    c.stats.hitPercentText ++ "%)")]

def resetStats (c : PatternCache) : PatternCache :=
  { c with stats := {} }

def size (c : PatternCache) : Nat :=
  c.entries.size

end PatternCache

end Routing
