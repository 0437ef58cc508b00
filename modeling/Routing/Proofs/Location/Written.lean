import Mathlib.Data.List.Infix
import Routing.Proofs.Router.Parts

/-!
# Paths that are written and read

A router writes a path into its location and reads it there again.

* `History.InRange`: the cursor stands at an entry, as it does in every session
* `Shown`: as which path a written path is read
* `Host.ReadsBack`: a host that shows what is written into it
* `Host.path_setPath`: a path that was written into such a host is read
* `Router.visit_shows`: a visit shows the path that is read, and evaluates the routes on it
* `Router.written_path_read`: a router reads the path that it wrote into a history
* `Router.mark_not_read`: a mark in front of a fragment is not read
-/
namespace Routing

/-! ## Entries -/

namespace History

/-- The cursor stands at an entry. -/
def InRange (h : History) : Prop :=
  h.current < h.entries.length

theorem inRange_opened (pathname : String) : (opened pathname).InRange :=
  Nat.zero_lt_one

theorem InRange.length_take {h : History} (inRange : h.InRange) :
    (h.entries.take (h.current + 1)).length = h.current + 1 := by
  rw [List.length_take]
  exact Nat.min_eq_left inRange

theorem InRange.push {h : History} (inRange : h.InRange) (e : Entry) : (h.push e).InRange := by
  simp [InRange, History.push, inRange.length_take]

/-- A new entry is the one that is shown. -/
theorem entry_push {h : History} (inRange : h.InRange) (e : Entry) : (h.push e).entry = e := by
  simp [entry, push, inRange.length_take]

theorem InRange.back? {h k : History} (inRange : h.InRange) (moved : h.back? = some k) :
    k.InRange := by
  unfold History.back? at moved
  split at moved
  · obtain rfl := Option.some.inj moved
    exact Nat.lt_of_le_of_lt (Nat.sub_le _ _) inRange
  · cases moved

theorem InRange.forward? {h k : History} (moved : h.forward? = some k) : k.InRange := by
  unfold History.forward? at moved
  split at moved
  · obtain rfl := Option.some.inj moved
    assumption
  · cases moved

end History

/-- The path that an entry shows. -/
def Entry.path (o : RouterOptions) (e : Entry) : String :=
  Host.path o (Location.memory ⟨[e], 0⟩)

theorem Location.path_memory (o : RouterOptions) (h : History) :
    Host.path o (memory h) = h.entry.path o :=
  rfl

/-- The entry that is written for a path behind an entry. -/
def Entry.written (o : RouterOptions) (path : String) (e : Entry) : Entry :=
  if o.pushState then ⟨o.root ++ path, ""⟩
  else ⟨e.pathname, withoutMark (if o.hashBang then "!" ++ path else path)⟩

theorem Location.setPath_memory (o : RouterOptions) (path : String) (h : History) :
    Host.setPath o path (memory h) = memory (h.push (h.entry.written o path)) := by
  unfold Host.setPath Entry.written
  split
  · rfl
  · split <;> rfl

/-- The entry that is written when the path is cleared. -/
def Entry.cleared (o : RouterOptions) (e : Entry) : Entry :=
  if o.pushState then ⟨if o.root.isEmpty then "/" else o.root, ""⟩
  else ⟨e.pathname, withoutMark (if o.hashBang then "!" else "")⟩

theorem Location.clearPath_memory (o : RouterOptions) (h : History) :
    Host.clearPath o (memory h) = memory (h.push (h.entry.cleared o)) := by
  unfold Host.clearPath Entry.cleared
  split <;> rfl

/-! ## Reading -/

/-- As which path a written path is read. A fragment that is written with a mark in front is the one
without it. Nothing is said of a text in which the marker of fragments stands once more. -/
inductive Shown (o : RouterOptions) : String → String → Prop where
  | pathname {path : String} (history : o.pushState = true) : Shown o path path
  | hashBang {path : String} (fragment : o.pushState = false) (bang : o.hashBang = true)
      (single : ¬ ['#', '!'] <:+: path.toList) : Shown o path path
  | fragment {path : String} (fragment : o.pushState = false) (plain : o.hashBang = false)
      (single : '#' ∉ path.toList) : Shown o path path
  | marked {path : String} (fragment : o.pushState = false) (plain : o.hashBang = false)
      (single : '#' ∉ path.toList) : Shown o ("#" ++ path) path

theorem withoutMark_of_not_mem {text : String} (h : '#' ∉ text.toList) : withoutMark text = text := by
  unfold withoutMark
  split
  · next rest front => simp [front] at h
  · rfl

theorem withoutMark_mark (text : String) : withoutMark ("#" ++ text) = text := by
  simp [withoutMark]

namespace Host

variable {L : Type} [Host L] {o : RouterOptions} {l : L}

/-- The host shows what is written into it. It puts the mark in front of a fragment itself, unless the fragment
is empty. -/
structure ReadsBack (l : L) : Prop where
  pathname : ∀ url, Host.pathname (pushState url l) = url
  hash : ∀ fragment, Host.hash (setHash fragment l) =
    if (withoutMark fragment).isEmpty then "" else "#" ++ withoutMark fragment

theorem path_of_history (history : o.pushState = true) (l : L) :
    path o l = String.ofList (Text.removeFirst o.root.toList (Host.pathname l).toList) := by
  rw [path, if_pos history]

theorem path_of_fragment (fragment : o.pushState = false) (l : L) :
    path o l = String.ofList (Text.secondPiece o.hashMarker (Host.hash l).toList) := by
  rw [path, if_neg (by simp [fragment])]

/-- A fragment that starts with the marker and has no further one shows all that is behind it. -/
theorem path_setHash (back : ReadsBack l) (fragment : o.pushState = false) {written path : String}
    (marked : '#' :: (withoutMark written).toList = o.hashMarker ++ path.toList)
    (single : ¬ o.hashMarker <:+: path.toList) : Host.path o (setHash written l) = path := by
  rw [path_of_fragment fragment, back.hash]
  split
  · next empty =>
    -- the marker is all there is
    have none : withoutMark written = "" := by simpa using empty
    unfold RouterOptions.hashMarker at marked ⊢
    cases bang : o.hashBang with
    | true => simp [none, bang] at marked
    | false =>
      have nothing : path = "" := by simpa [none, bang] using marked
      rw [nothing]
      rfl
  · have whole : ("#" ++ withoutMark written).toList = o.hashMarker ++ path.toList := by
      rw [String.toList_append, ← marked]
      rfl
    rw [whole, Text.secondPiece_append single, String.ofList_toList]

/-- A path that was written is read. -/
theorem path_setPath (back : ReadsBack l) {path shown : String} (as : Shown o path shown) :
    Host.path o (setPath o path l) = shown := by
  cases as with
  | pathname history =>
    rw [setPath, if_pos history, path_of_history history, back.pathname, String.toList_append,
      Text.removeFirst_append, String.ofList_toList]
  | hashBang fragment bang single =>
    have marker : o.hashMarker = ['#', '!'] := by simp [RouterOptions.hashMarker, bang]
    have kept : withoutMark ("!" ++ path) = "!" ++ path := by simp [withoutMark]
    rw [setPath, if_neg (by simp [fragment]), if_pos bang]
    exact path_setHash back fragment (by simp [marker, kept]) (by rwa [marker])
  | fragment fragment plain single =>
    have marker : o.hashMarker = ['#'] := by simp [RouterOptions.hashMarker, plain]
    rw [setPath, if_neg (by simp [fragment]), if_neg (by simp [plain])]
    exact path_setHash back fragment (by simp [marker, withoutMark_of_not_mem single])
      (by rwa [marker, List.singleton_infix_iff])
  | marked fragment plain single =>
    have marker : o.hashMarker = ['#'] := by simp [RouterOptions.hashMarker, plain]
    rw [setPath, if_neg (by simp [fragment]), if_neg (by simp [plain])]
    exact path_setHash back fragment (by simp [marker, withoutMark_mark])
      (by rwa [marker, List.singleton_infix_iff])

end Host

/-- A history is such a host. -/
theorem History.InRange.readsBack {h : History} (inRange : h.InRange) :
    Host.ReadsBack (Location.memory h) where
  pathname url := congrArg Entry.pathname (entry_push inRange ⟨url, ""⟩)
  hash fragment := by
    have shown : (h.setHash fragment).entry.hash = withoutMark fragment :=
      congrArg Entry.hash (entry_push inRange _)
    change (h.setHash fragment).hash = _
    rw [History.hash, shown]

/-- The entry that is written for a path shows it. -/
theorem path_of_written {o : RouterOptions} {path shown : String} (as : Shown o path shown) (e : Entry) :
    (e.written o path).path o = shown := by
  have single : History.InRange ⟨[e], 0⟩ := Nat.zero_lt_one
  have read := Host.path_setPath single.readsBack as
  rwa [Location.setPath_memory, Location.path_memory, History.entry_push single] at read

namespace Router

/-- Whatever the host is: a visit shows to listeners and routes the path that is read when the path was written,
and evaluates all routes on it unless one asks for a redirect or fails. -/
theorem visit_shows {L : Type} [Host L] {r : Router L} {path shown : String}
    (read : (r.setPath path).path = shown) (limit : Nat) :
    let trace := (Command.navigate path).ownTrace limit r
    (∀ o ∈ trace, o.before.path = shown) ∧
    (turns trace).map (·.request) <+: r.routes.map (·.pattern.parse shown) ∧
    ∀ r', ((Command.navigate path).own limit).start r = some (.ok none, r') →
      (turns trace).map (·.request) = r.routes.map (·.pattern.parse shown) := by
  intro trace
  have part := part_visit limit path r
  have inside (o : Occasion L) (ho : o ∈ trace) : o.before.path = shown := by
    have keeps := part.inside o ho
    rw [← read, Router.path, Router.path, keeps.location, keeps.options]
  have requests : (turns trace).map (·.request) =
      ((turns trace).map (·.route)).map (·.pattern.parse shown) := by
    rw [List.map_map]
    refine List.map_congr_left fun t ht => ?_
    have here := inside (.turn t) (mem_turns.1 ht)
    simp only [Function.comp, Turn.request]
    rw [← here]
    rfl
  refine ⟨inside, ?_, fun r' ended => ?_⟩
  · rw [requests]
    exact part.routes.map _
  · rw [requests]
    exact congrArg _ (routes_of_visit ended)

/-- A router reads the path that it wrote. A visit shows nothing but this path to listeners and routes,
and evaluates all routes on it unless one asks for a redirect or fails. -/
theorem written_path_read {r : Router} {h : History} (memory : r.location = .memory h)
    (inRange : h.InRange) {path shown : String} (as : Shown r.options path shown) :
    (r.setPath path).path = shown ∧ ∀ limit,
      let trace := (Command.navigate path).ownTrace limit r
      (∀ o ∈ trace, o.before.path = shown) ∧
      (turns trace).map (·.request) <+: r.routes.map (·.pattern.parse shown) ∧
      ∀ r', ((Command.navigate path).own limit).start r = some (.ok none, r') →
        (turns trace).map (·.request) = r.routes.map (·.pattern.parse shown) := by
  have back : Host.ReadsBack r.location := memory ▸ inRange.readsBack
  have read : (r.setPath path).path = shown := Host.path_setPath back as
  exact ⟨read, visit_shows read⟩

/-- A mark in front of a fragment is none of the path. -/
theorem written_path_read_marked :
    Shown {} "#/a" "/a" ∧ ((created {} (.memory (.opened "/")) []).setPath "#/a").path = "/a" := by
  have as : Shown {} ("#" ++ "/a") "/a" := .marked rfl rfl (by decide)
  exact ⟨as, (written_path_read rfl (History.inRange_opened "/") as).1⟩

theorem mark_not_read :
    ((created {} (.memory (.opened "/")) []).setPath "#/a").path ≠ "#/a" := by
  decide

end Router

end Routing
