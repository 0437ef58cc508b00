import Routing.Proofs.Pattern.Rows

/-!
# Formats

A segment may end with a format behind a dot, as in `:file.:ext`. It is split at its last dot, if something
stands on both sides of that.

* `FormatPath`: a literal text with a segment and its format behind it
* `cut_format`: how the format is cut off
* `head?_cuts_split`, `cuts_of_no_split`: the preferred cut of a segment
* `FormatPath.splits_at_last_dot`: which paths match, and with which captures
-/
namespace Routing

open Regex

namespace Pattern

/-- A literal text, and behind it a segment with a format, which may be optional. -/
structure FormatPath where
  front : List Char
  file : List Char
  ext : List Char
  optional : Bool
  literal : front.all isPlainChar = true
  file_named : (!file.isEmpty && file.all isNameChar) = true
  ext_named : (!ext.isEmpty && ext.all isNameChar) = true

namespace FormatPath

def fileParam (name : List Char) : ParamToken :=
  ⟨true, false, name, none, false⟩

def extParam (name : List Char) (optional : Bool) : ParamToken :=
  ⟨false, true, name, none, optional⟩

/-- The pattern text. -/
def source (p : FormatPath) : String :=
  String.ofList (p.front ++ '/' :: ':' :: p.file ++ '.' :: ':' :: p.ext ++ if p.optional then ['?'] else [])

/-- The path with one segment, and perhaps a slash at the end. -/
def path (p : FormatPath) (segment : String) (tail : List Char) : String :=
  String.ofList (p.front ++ '/' :: (segment.toList ++ tail))

def row (p : FormatPath) : Row where
  front := p.front
  params := [fileParam p.file, extParam p.ext p.optional]
  literal := p.literal
  formed := by
    have file := p.file_named
    have ext := p.ext_named
    simp only [Bool.and_eq_true] at file ext
    simp [fileParam, extParam, Token.isPlain, file, ext]
  slashed q hq := by
    obtain rfl := Option.some.inj hq
    rfl

theorem source_row (p : FormatPath) : p.row.source = p.source := by
  simp [Row.source, row, source, fileParam, extParam, Token.ParamToken.text]

end FormatPath

/-! ## The cuts of a segment -/

section

variable {o : MatchOptions} {name : List Char} {optional : Bool}

/-- The format stands behind a dot and has none, or it is left out. -/
theorem cut_format {cs : List Char} {vs : Values} :
    Cut o [.param (FormatPath.extParam name optional)] cs vs ↔
      (∃ e rest, cs = '.' :: (e ++ rest) ∧ e ≠ [] ∧ '/' ∉ e ∧ '.' ∉ e ∧ Closes o rest ∧ vs = [some e]) ∨
        (optional = true ∧ Closes o cs ∧ vs = [none]) := by
  constructor
  · intro cut
    cases cut with
    | piece first later =>
      cases later with
      | done closes =>
        cases first with
        | literal of => cases of
        | @value _ e some_ allowed =>
          refine .inl ⟨e, _, rfl, some_, fun slash => ?_, fun dot => ?_, closes, rfl⟩
          · simpa [Token.ParamToken.allows] using allowed '/' slash
          · simpa [Token.ParamToken.allows, FormatPath.extParam] using allowed '.' dot
        | leftOut optional => exact .inr ⟨optional, closes, rfl⟩
  · rintro (⟨e, rest, rfl, some_, slash, dot, closes, rfl⟩ | ⟨rfl, closes, rfl⟩)
    · have allowed : ∀ c ∈ e, Token.ParamToken.allows (FormatPath.extParam name optional) c = true := by
        intro c hc
        have noSlash : c ≠ '/' := fun same => slash (same ▸ hc)
        have noDot : c ≠ '.' := fun same => dot (same ▸ hc)
        simp [Token.ParamToken.allows, noSlash, noDot]
      exact .piece (.value some_ allowed) (.done closes)
    · exact .piece (.leftOut rfl) (.done closes)

/-- The cuts of a segment, for every way to take the name of a file from its front. -/
theorem cuts_file (file : List Char) (ts : List Token) (cs : List Char) :
    cuts o (.param (FormatPath.fileParam file) :: ts) ('/' :: cs) =
      (takesSome (· != '/') cs).flatMap fun x => (cuts o ts x.2).map ([some x.1] ++ ·) := by
  have allows : Token.ParamToken.allows (FormatPath.fileParam file) = (· != '/') := by
    funext c
    simp [Token.ParamToken.allows, FormatPath.fileParam]
  have front : (behind? (Token.ParamToken.separators (FormatPath.fileParam file)) ('/' :: cs)).toList =
      [cs] := by
    simp [FormatPath.fileParam, Token.ParamToken.separators, behind?, List.isPrefixOf]
  rw [cuts, Token.pieces, front, List.flatMap_singleton, allows]
  simp [FormatPath.fileParam, Token.valued, List.flatMap_map]

/-- A text without a slash ends where its path does. -/
theorem eq_of_closes {a b tail rest : List Char} (ha : '/' ∉ a) (hb : '/' ∉ b) (tailEnds : Closes o tail)
    (restEnds : Closes o rest) (same : a ++ tail = b ++ rest) : a = b := by
  have ends {a tail : List Char} (ha : '/' ∉ a) (closes : Closes o tail) :
      (a ++ tail).takeWhile (· != '/') = a := by
    refine (Token.takeWhile_append_of_head ?_ fun c hc => ?_).1
    · exact List.all_eq_true.2 fun c hc => bne_iff_ne.2 fun slash => ha (slash ▸ hc)
    · rcases closes with rfl | ⟨-, rfl⟩
      · cases hc
      · obtain rfl := Option.some.inj hc
        rfl
  rw [← ends ha tailEnds, same, ends hb restEnds]

/-- A segment with a last dot is split there, if something stands on both sides. -/
theorem head?_cuts_split (p : FormatPath) {s e tail : List Char} (hs : s ≠ []) (he : e ≠ [])
    (noSlash : '/' ∉ s ++ '.' :: e) (noDot : '.' ∉ e) (closes : Closes o tail) :
    (cuts o (p.row.params.map .param) ('/' :: (s ++ '.' :: e ++ tail))).head? = some [some s, some e] := by
  simp only [List.mem_append, List.mem_cons, not_or] at noSlash
  obtain ⟨slashS, -, slashE⟩ := noSlash
  have all : ∀ c ∈ s, (c != '/') = true := fun c hc => bne_iff_ne.2 fun slash => slashS (slash ▸ hc)
  obtain ⟨shorter, taken, each⟩ := takesSome_append all hs ('.' :: (e ++ tail))
  obtain ⟨more, front⟩ : ∃ more, takes (· != '/') ('.' :: (e ++ tail)) = ([], '.' :: (e ++ tail)) :: more :=
    ⟨_, rfl⟩
  -- with less of the name, the dot of the format would not be the last one
  have none_ : ∀ x ∈ shorter,
      (cuts o [.param (FormatPath.extParam p.ext p.optional)] x.2).map ([some x.1] ++ ·) = [] := by
    intro x hx
    obtain ⟨left, some_, -, rest⟩ := each x hx
    rw [List.map_eq_nil_iff, List.eq_nil_iff_forall_not_mem]
    intro vs cut
    rw [mem_cuts, cut_format, rest] at cut
    obtain ⟨c, left, rfl⟩ := List.exists_cons_of_ne_nil some_
    rcases cut with ⟨e', rest', same, -, slashE', dotE', closes', -⟩ | ⟨-, closes', -⟩
    · have inside : '.' ∈ e' ++ rest' := by
        rw [← (List.cons.inj same).2]
        simp
      rcases List.mem_append.1 inside with dot | dot
      · exact dotE' dot
      · rcases closes' with rfl | ⟨-, rfl⟩ <;> simp at dot
    · have inside : '.' ∈ (c :: left) ++ '.' :: (e ++ tail) := by simp
      rcases closes' with empty | ⟨-, slash⟩
      · rw [empty] at inside
        cases inside
      · rw [slash] at inside
        simp at inside
  have here : ∀ vs, vs ∈ cuts o [.param (FormatPath.extParam p.ext p.optional)] ('.' :: (e ++ tail)) ↔
      vs = [some e] := by
    intro vs
    rw [mem_cuts, cut_format]
    constructor
    · rintro (⟨e', rest', same, -, slashE', -, closes', rfl⟩ | ⟨-, closes', -⟩)
      · rw [eq_of_closes slashE slashE' closes closes' (List.cons.inj same).2]
      · rcases closes' with empty | ⟨-, slash⟩
        · cases empty
        · cases (List.cons.inj slash).1
    · rintro rfl
      exact .inl ⟨e, tail, rfl, he, slashE, noDot, closes, rfl⟩
  rw [FormatPath.row, List.map_cons, List.map_cons, List.map_nil, cuts_file, List.append_assoc, List.cons_append,
    taken, front, List.map_cons, List.flatMap_append, List.flatMap_eq_nil_iff.2 none_, List.nil_append,
    List.flatMap_cons, List.head?_append, List.head?_map]
  obtain ⟨vs, first⟩ : ∃ vs, vs ∈ (cuts o [.param (FormatPath.extParam p.ext p.optional)]
      ('.' :: (e ++ tail))).head? := ⟨_, List.head?_eq_some_head (List.ne_nil_of_mem ((here _).2 rfl))⟩
  rw [first, (here vs).1 (List.mem_of_head? first)]
  simp

/-- A segment that has no such dot is taken as a whole, if the format is optional. -/
theorem mem_cuts_of_no_split (p : FormatPath) {w tail : List Char} (hw : w ≠ []) (noSlash : '/' ∉ w)
    (unsplit : ¬ ∃ s e, w = s ++ '.' :: e ∧ s ≠ [] ∧ e ≠ [] ∧ '.' ∉ e) (closes : Closes o tail)
    (vs : Values) :
    vs ∈ cuts o (p.row.params.map .param) ('/' :: (w ++ tail)) ↔ p.optional = true ∧ vs = [some w, none] := by
  rw [FormatPath.row, List.map_cons, List.map_cons, List.map_nil, cuts_file, List.mem_flatMap]
  constructor
  · rintro ⟨⟨v, rest⟩, taken, cut⟩
    obtain ⟨some_, whole, all⟩ := mem_takesSome.1 taken
    obtain ⟨us, format, rfl⟩ := List.mem_map.1 cut
    have slashV : '/' ∉ v := fun slash => by simpa using all '/' slash
    rw [mem_cuts, cut_format] at format
    rcases format with ⟨e, rest', rfl, he, slashE, dotE, closes', rfl⟩ | ⟨optional, closes', rfl⟩
    · have slash : '/' ∉ v ++ '.' :: e := by simp [slashV, slashE]
      have same := eq_of_closes noSlash slash closes closes' (by rw [whole]; simp)
      exact absurd ⟨v, e, same, some_, he, dotE⟩ unsplit
    · exact ⟨optional, by rw [eq_of_closes noSlash slashV closes closes' whole]; rfl⟩
  · rintro ⟨optional, rfl⟩
    refine ⟨(w, tail), mem_takesSome.2 ⟨hw, rfl, fun c hc => bne_iff_ne.2 fun slash => noSlash (slash ▸ hc)⟩,
      List.mem_map.2 ⟨[none], mem_cuts.2 (cut_format.2 (.inr ⟨optional, closes, rfl⟩)), rfl⟩⟩

end

/-! ## Paths -/

namespace FormatPath

/-- A segment that has a last dot with something on both sides matches, and is split there. Any other segment
matches if the format is optional, and is taken as a whole. The same holds with one more slash at the end, if
the pattern is not strict. A pattern is accepted exactly if its program keeps to the limit, which that of a
moderate one does. -/
theorem splits_at_last_dot (p : FormatPath) (o : MatchOptions) :
    IsDecidedBySize o (.path p.source) ∧
    (∀ e, compile o (.path p.source) = .error e → 380 < p.front.length ∧
      e = .invalidPattern p.source (RegexError.sizeLimitExceeded sizeLimit).message) ∧
    ∀ c, compile o (.path p.source) = .ok c →
      ∀ w : String, w ≠ "" → '/' ∉ w.toList → ∀ tail, Closes o tail →
        (∀ s e : String, w = s ++ "." ++ e → s ≠ "" → e ≠ "" → '.' ∉ e.toList →
          (c.parse (p.path w tail)).matched = true ∧
          (c.parse (p.path w tail)).captures = [some s, some e]) ∧
        ((¬ ∃ s e : String, w = s ++ "." ++ e ∧ s ≠ "" ∧ e ≠ "" ∧ '.' ∉ e.toList) →
          (c.parse (p.path w tail)).matched = p.optional ∧
          (p.optional = true → (c.parse (p.path w tail)).captures = [some w, none])) := by
  obtain ⟨decided, refused, parsed⟩ := p.row.parse o
  rw [p.source_row] at decided refused parsed
  refine ⟨decided, fun e compiled => ?_, fun c compiled w some_ segment tail closes => ?_⟩
  · obtain ⟨long, same⟩ := refused e compiled
    have heavy : 400 < p.front.length + 10 * 2 := long
    exact ⟨by omega, same⟩
  · obtain ⟨matched, captured⟩ := parsed c compiled ('/' :: (w.toList ++ tail))
    have nonempty {v : String} (h : v ≠ "") : v.toList ≠ [] := fun empty => h (String.toList_eq_nil_iff.1 empty)
    refine ⟨fun s e split hs he noDot => ?_, fun unsplit => ?_⟩
    · have text : w.toList = s.toList ++ '.' :: e.toList := by simp [split]
      rw [text] at segment
      have preferred := head?_cuts_split p (nonempty hs) (nonempty he) segment noDot closes
      rw [← text] at preferred
      refine ⟨matched.2 (Option.isSome_of_mem preferred), (captured _ preferred).trans ?_⟩
      simp
    · have unsplit' : ¬ ∃ s e, w.toList = s ++ '.' :: e ∧ s ≠ [] ∧ e ≠ [] ∧ '.' ∉ e := by
        rintro ⟨s, e, split, hs, he, noDot⟩
        refine unsplit ⟨String.ofList s, String.ofList e, ?_, by simpa using hs, by simpa using he, by simpa⟩
        rw [← String.toList_inj]
        simpa using split
      have cut := mem_cuts_of_no_split p (nonempty some_) segment unsplit' closes
      have taken : p.optional = true → (cuts o (p.row.params.map .param) ('/' :: (w.toList ++ tail))).head? =
          some [some w.toList, none] := by
        intro optional
        obtain ⟨vs, first⟩ : ∃ vs, vs ∈ (cuts o (p.row.params.map .param) ('/' :: (w.toList ++ tail))).head? :=
          ⟨_, List.head?_eq_some_head (List.ne_nil_of_mem ((cut _).2 ⟨optional, rfl⟩))⟩
        rw [first, ((cut vs).1 (List.mem_of_head? first)).2]
      refine ⟨?_, fun optional => (captured _ (taken optional)).trans (by simp)⟩
      refine Bool.eq_iff_iff.2 (matched.trans ⟨fun found => ?_, fun optional => by rw [taken optional]; rfl⟩)
      obtain ⟨vs, first⟩ := Option.isSome_iff_exists.1 found
      exact ((cut vs).1 (List.mem_of_head? first)).1

/-- The last dot counts, and a dot at the front is none. -/
theorem splits_at_last_dot_archive :
    ∃ c, compile {} (.path "/:file.:ext?") = .ok c ∧
      (c.parse "/archive.tar.gz").captures = [some "archive.tar", some "gz"] ∧
      (c.parse "/.profile").captures = [some ".profile", none] := by
  let p : FormatPath := ⟨[], "file".toList, "ext".toList, true, by decide, by decide, by decide⟩
  obtain ⟨-, refused, parsed⟩ := splits_at_last_dot p {}
  have source : p.source = "/:file.:ext?" := by decide
  have path (w : String) : p.path w [] = "/" ++ w := by
    rw [← String.toList_inj]
    simp [FormatPath.path, p]
  rw [source] at refused parsed
  cases compiled : compile {} (.path "/:file.:ext?") with
  | error e => exact absurd (refused e compiled).1 (by decide)
  | ok c =>
    refine ⟨c, rfl, ?_, ?_⟩
    · have split := (parsed c compiled "archive.tar.gz" (by decide) (by decide) [] (.inl rfl)).1
        "archive.tar" "gz" (by decide) (by decide) (by decide) (by decide)
      rw [path] at split
      exact split.2
    · have whole := (parsed c compiled ".profile" (by decide) (by decide) [] (.inl rfl)).2 ?_
      · rw [path] at whole
        exact whole.2 rfl
      · rintro ⟨s, e, split, hs, -, noDot⟩
        -- the only dot stands at the front
        have text : '.' :: "profile".toList = s.toList ++ '.' :: e.toList := by
          simpa using congrArg String.toList split
        cases front : s.toList with
        | nil => exact hs (String.toList_eq_nil_iff.1 front)
        | cons c s =>
          rw [front] at text
          have inside : '.' ∈ "profile".toList := by
            rw [(List.cons.inj text).2]
            simp
          exact absurd inside (by decide)

/-! ### Patterns that are too long -/

/-- A segment with a format, behind one letter that is repeated. -/
def long (n : Nat) : FormatPath where
  front := List.replicate n 'a'
  file := "file".toList
  ext := "ext".toList
  optional := false
  literal := all_isPlainChar_replicate n
  file_named := by decide
  ext_named := by decide

/-- Such a pattern does not split a segment, since it is refused. -/
theorem long_not_split :
    ¬ ∃ c, compile ⟨true, true⟩ (.path (long 330000).source) = .ok c ∧
      (c.parse ((long 330000).path "a.b" [])).captures = [some "a", some "b"] := by
  have refused := Row.compile_letters (r := (long 330000).row) (n := 330000) rfl (by decide)
  rintro ⟨c, compiled, -⟩
  rw [source_row, compiled] at refused
  cases refused

end FormatPath

end Pattern

end Routing
