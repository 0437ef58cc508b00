import Routing.Proofs.Pattern.Rows

/-!
# Optional parameters in a row

Behind a literal text, a pattern may have any number of optional parameters, each with a slash. The segments
of a path go to them from left to right, and those at the end are left out.

* `OptionalPath`: a literal text with optional parameters behind it
* `head?_cuts_optionals`: the preferred cut of segments
* `OptionalPath.fills_in_order`: which paths match, and with which captures
-/
namespace Routing

open Regex

namespace Pattern

/-- A literal text with optional parameters behind it, each a segment of its own. -/
structure OptionalPath where
  front : List Char
  names : List (List Char)
  literal : front.all isPlainChar = true
  named : names.all (fun n => !n.isEmpty && n.all isNameChar) = true

namespace OptionalPath

def param (name : List Char) : ParamToken :=
  ⟨true, false, name, none, true⟩

/-- The pattern text. -/
def source (p : OptionalPath) : String :=
  String.ofList (p.front ++ p.names.flatMap fun n => '/' :: ':' :: (n ++ ['?']))

/-- The path with a segment for each value, and perhaps a slash at the end. -/
def path (p : OptionalPath) (values : List String) (tail : List Char) : String :=
  String.ofList (p.front ++ (values.flatMap (fun v => '/' :: v.toList) ++ tail))

def row (p : OptionalPath) : Row where
  front := p.front
  params := p.names.map param
  literal := p.literal
  formed := by
    rw [List.map_map, List.all_map]
    refine List.all_eq_true.2 fun n hn => ?_
    simpa [Token.isPlain, param] using List.all_eq_true.1 p.named n hn
  slashed q hq := by
    rw [List.head?_map] at hq
    obtain ⟨n, -, rfl⟩ := Option.map_eq_some_iff.1 hq
    rfl

theorem source_row (p : OptionalPath) : p.row.source = p.source := by
  rw [Row.source, row, source, List.flatMap_map]
  simp [param, Token.ParamToken.text]

end OptionalPath

/-! ## The preferred cut -/

section

variable {o : MatchOptions}

/-- Optional parameters with a slash take nothing that starts without one. -/
theorem cuts_optionals_of_head {names : List (List Char)} {c : Char} {cs : List Char} (other : c ≠ '/') :
    cuts o (names.map fun n => .param (OptionalPath.param n)) (c :: cs) = [] := by
  induction names with
  | nil => simp [cuts, Closes, other]
  | cons n names ih =>
    have left : (Token.param (OptionalPath.param n)).pieces o (c :: cs) = [([none], c :: cs)] := by
      simp [Token.pieces, OptionalPath.param, Token.ParamToken.separators, behind?, List.isPrefixOf,
        Ne.symm other]
    simp only [List.map_cons, cuts, left, List.flatMap_singleton, ih, List.map_nil]

/-- An optional parameter takes the next segment, or is left out. -/
theorem cuts_optional_segment (name : List Char) (ts : List Token) {v rest : List Char} (some_ : v ≠ [])
    (segment : '/' ∉ v) (stop : ∀ c ∈ rest.head?, c = '/')
    (inside : ∀ c cs, c ≠ '/' → cuts o ts (c :: cs) = []) :
    cuts o (.param (OptionalPath.param name) :: ts) ('/' :: (v ++ rest)) =
      (cuts o ts rest).map ([some v] ++ ·) ++ (cuts o ts ('/' :: (v ++ rest))).map ([none] ++ ·) := by
  let p := OptionalPath.param name
  have allows (c : Char) : Token.ParamToken.allows p c = (c != '/') := by
    simp [p, Token.ParamToken.allows, OptionalPath.param]
  have all : ∀ c ∈ v, Token.ParamToken.allows p c = true := by
    intro c hc
    rw [allows, bne_iff_ne]
    exact fun slash => segment (slash ▸ hc)
  have ends : ∀ c ∈ rest.head?, Token.ParamToken.allows p c = false := by
    intro c hc
    rw [allows, stop c hc]
    rfl
  obtain ⟨shorter, taken, each⟩ := takesSome_append all some_ rest
  rw [takes_of_head ends, List.map_singleton, List.append_nil] at taken
  have pieces : (Token.param p).pieces o ('/' :: (v ++ rest)) =
      shorter.map Token.valued ++ [([some v], rest), ([none], '/' :: (v ++ rest))] := by
    have front : (behind? (Token.ParamToken.separators p) ('/' :: (v ++ rest))).toList = [v ++ rest] := by
      simp [p, OptionalPath.param, Token.ParamToken.separators, behind?, List.isPrefixOf]
    rw [Token.pieces, front, List.flatMap_singleton, taken, List.map_append, List.append_assoc]
    simp [Token.valued, p, OptionalPath.param]
  -- a shorter value leaves a text that nothing takes
  have none_ : ∀ x ∈ shorter.map Token.valued, (cuts o ts x.2).map (x.1 ++ ·) = [] := by
    intro x hx
    obtain ⟨y, hy, rfl⟩ := List.mem_map.1 hx
    obtain ⟨more, some_, front, left⟩ := each y hy
    obtain ⟨c, more, rfl⟩ := List.exists_cons_of_ne_nil some_
    have other : c ≠ '/' := fun slash => segment (by rw [front, slash]; simp)
    rw [Token.valued, left, List.cons_append, inside c _ other, List.map_nil]
  rw [cuts, pieces, List.flatMap_append, List.flatMap_eq_nil_iff.2 none_, List.nil_append,
    List.flatMap_cons, List.flatMap_singleton]

/-- Segments go to optional parameters from left to right, as long as there are any. -/
theorem head?_cuts_optionals (names : List (List Char)) {values : List (List Char)}
    (segments : ∀ v ∈ values, v ≠ [] ∧ '/' ∉ v) {tail : List Char} (closes : Closes o tail) :
    (cuts o (names.map fun n => .param (OptionalPath.param n)) (values.flatMap ('/' :: ·) ++ tail)).head? =
      if values.length ≤ names.length then
        some (values.map some ++ List.replicate (names.length - values.length) none)
      else none := by
  induction names generalizing values with
  | nil =>
    cases values with
    | nil => simp [cuts, closes]
    | cons v values =>
      obtain ⟨c, v, rfl⟩ := List.exists_cons_of_ne_nil (segments _ List.mem_cons_self).1
      simp [cuts, Closes]
  | cons n names ih =>
    rw [List.map_cons]
    cases values with
    | nil =>
      -- what is left is the end of the path, which no parameter takes
      have left : (Token.param (OptionalPath.param n)).pieces o tail = [([none], tail)] := by
        rcases closes with rfl | ⟨-, rfl⟩ <;> rfl
      have later := @ih [] (by simp)
      rw [List.flatMap_nil, List.nil_append] at later ⊢
      rw [cuts, left, List.flatMap_singleton, List.head?_map, later]
      simp [List.replicate_succ]
    | cons v values =>
      obtain ⟨⟨some_, segment⟩, others⟩ := List.forall_mem_cons.1 segments
      have stop : ∀ c ∈ (values.flatMap ('/' :: ·) ++ tail).head?, c = '/' := by
        intro c hc
        cases values with
        | nil =>
          rcases closes with rfl | ⟨-, rfl⟩
          · cases hc
          · exact (Option.some.inj hc).symm
        | cons w values => exact (Option.some.inj hc).symm
      have whole : (v :: values).flatMap ('/' :: ·) ++ tail =
          '/' :: (v ++ (values.flatMap ('/' :: ·) ++ tail)) := by simp
      have taken := ih others
      have left := ih segments
      rw [whole] at left ⊢
      rw [cuts_optional_segment n _ some_ segment stop fun c cs => cuts_optionals_of_head,
        List.head?_append, List.head?_map, List.head?_map, taken, left]
      by_cases enough : values.length ≤ names.length
      · simp [enough]
      · simp [enough, Nat.not_le.2 (Nat.lt_succ_of_lt (Nat.not_le.1 enough))]

end

/-! ## Paths -/

namespace OptionalPath

/-- The path of segments matches if there are no more of them than parameters, whatever they are. The captures
are the segments from left to right, and none for each parameter that is left. The same holds with one more
slash at the end, if the pattern is not strict. A pattern is accepted exactly if its program keeps to the limit,
which that of a moderate one does. -/
theorem fills_in_order (p : OptionalPath) (o : MatchOptions) :
    IsDecidedBySize o (.path p.source) ∧
    (∀ e, compile o (.path p.source) = .error e → 400 < p.front.length + 10 * p.names.length ∧
      e = .invalidPattern p.source (RegexError.sizeLimitExceeded sizeLimit).message) ∧
    ∀ c, compile o (.path p.source) = .ok c →
      ∀ values : List String, (∀ v ∈ values, v ≠ "" ∧ '/' ∉ v.toList) → ∀ tail, Closes o tail →
        ((c.parse (p.path values tail)).matched = true ↔ values.length ≤ p.names.length) ∧
        (values.length ≤ p.names.length → (c.parse (p.path values tail)).captures =
          values.map some ++ List.replicate (p.names.length - values.length) none) := by
  obtain ⟨decided, refused, parsed⟩ := p.row.parse o
  rw [p.source_row] at decided refused parsed
  refine ⟨decided, fun e compiled => ?_, fun c compiled values segments tail closes => ?_⟩
  · have long := refused e compiled
    rwa [row, List.length_map] at long
  · have segments' : ∀ v ∈ values.map String.toList, v ≠ [] ∧ '/' ∉ v := by
      intro v hv
      obtain ⟨w, hw, rfl⟩ := List.mem_map.1 hv
      exact ⟨fun empty => (segments w hw).1 (String.toList_eq_nil_iff.1 empty), (segments w hw).2⟩
    have preferred := head?_cuts_optionals p.names segments' closes
    have params : p.row.params.map Token.param = p.names.map fun n => .param (param n) := List.map_map
    obtain ⟨matched, captured⟩ := parsed c compiled (values.flatMap (fun v => '/' :: v.toList) ++ tail)
    rw [List.flatMap_map, List.length_map, ← params] at preferred
    rw [preferred] at matched captured
    refine ⟨matched.trans (by split <;> simp [*]), fun enough => ?_⟩
    rw [if_pos enough] at captured
    refine (captured _ rfl).trans ?_
    simp

/-- Two of three parameters are there. -/
theorem fills_in_order_date :
    ∃ c, compile {} (.path "/log/:year?/:month?/:day?") = .ok c ∧
      (c.parse "/log/2024/06/").captures = [some "2024", some "06", none] := by
  let p : OptionalPath := ⟨"/log".toList, ["year".toList, "month".toList, "day".toList], by decide, by decide⟩
  obtain ⟨-, refused, parsed⟩ := fills_in_order p {}
  have source : p.source = "/log/:year?/:month?/:day?" := by decide
  have path : p.path ["2024", "06"] ['/'] = "/log/2024/06/" := by decide
  rw [source] at refused parsed
  cases compiled : compile {} (.path "/log/:year?/:month?/:day?") with
  | error e => exact absurd (refused e compiled).1 (by decide)
  | ok c =>
    have two := parsed c compiled ["2024", "06"] (by decide) ['/'] (.inr ⟨rfl, rfl⟩)
    rw [path] at two
    exact ⟨c, rfl, two.2 (by decide)⟩

/-! ### Patterns that are too long -/

/-- An optional parameter behind one letter that is repeated. -/
def long (n : Nat) : OptionalPath where
  front := List.replicate n 'a'
  names := [['x']]
  literal := all_isPlainChar_replicate n
  named := by decide

/-- Such a pattern does not match its literal text, since it is refused. -/
theorem long_refused :
    ¬ ∃ c, compile ⟨true, true⟩ (.path (long 330000).source) = .ok c ∧
      (c.parse ((long 330000).path [] [])).matched = true := by
  have refused := Row.compile_letters (r := (long 330000).row) (n := 330000) rfl (by decide)
  rintro ⟨c, compiled, -⟩
  rw [source_row, compiled] at refused
  cases refused

end OptionalPath

end Pattern

end Routing
