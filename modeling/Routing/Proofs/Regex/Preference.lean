import Routing.Proofs.Regex.Ways
import Routing.Regex.Matching

/-!
# Matching finds the preferred way

Following an expression under the guidance of its origins takes no choice back, and still ends with the
first of all ways that lead to one of the ends.

* `Node.contains_origins`: the origins of a set of places are where some way into the set begins
* `Node.follow_eq_firstTo`: following a node finds the first way to one of the ends
* `Node.search_eq_findSome?`: a search finds the first way from the leftmost place that has one
-/
namespace Routing.Regex

open Routing.Unicode

namespace Places

theorem iterate_succ' (step : Places → Places) (n : Nat) (s : Places) :
    iterate step (n + 1) s = step (iterate step n s) := by
  induction n generalizing s with
  | zero => rw [iterate_succ, iterate, iterate]
  | succ n ih => rw [iterate_succ, ih, iterate_succ]

theorem history_go (step : Places → Places) (n : Nat) (s : Places) (before : List Places) :
    history.go step n s before = history.go step n s [] ++ before := by
  induction n generalizing s before with
  | zero => rfl
  | succ n ih => rw [history.go, ih, history.go, ih (step s) [s], List.append_assoc]; rfl

/-- The latest set of the history comes first. -/
theorem history_succ (step : Places → Places) (n : Nat) (s : Places) :
    history step (n + 1) s = iterate step n s :: history step n s := by
  have last (n : Nat) (s : Places) : history step (n + 1) s = history step n (step s) ++ [s] :=
    history_go step n (step s) [s]
  induction n generalizing s with
  | zero => rfl
  | succ n ih => rw [last, ih, last, iterate_succ, List.cons_append]

end Places

/-- To look for a result among the results of a list is to look for the first member that has one. -/
theorem find?_bind_eq {α β : Type} {xs : List α} {p : α → Bool} {g : α → Option β}
    {f : α → List β} {q : β → Bool} (hp : ∀ x ∈ xs, p x = true ↔ ∃ y ∈ f x, q y = true)
    (hg : ∀ x ∈ xs, p x = true → g x = (f x).find? q) :
    (xs.find? p).bind g = (xs.flatMap f).find? q := by
  induction xs with
  | nil => rfl
  | cons x xs ih =>
    have later := ih (fun y hy => hp y (List.mem_cons_of_mem _ hy))
      (fun y hy => hg y (List.mem_cons_of_mem _ hy))
    rw [List.flatMap_cons, List.find?_append]
    cases hx : p x with
    | true =>
      rw [List.find?_cons_of_pos hx, Option.bind_some, hg x List.mem_cons_self hx]
      obtain ⟨y, hy, hq⟩ := (hp x List.mem_cons_self).1 hx
      have found : ((f x).find? q).isSome := List.find?_isSome.2 ⟨y, hy, hq⟩
      rw [Option.or_of_isSome found]
    | false =>
      have nothing : (f x).find? q = none := List.find?_eq_none.2 fun y hy hq => by
        have := (hp x List.mem_cons_self).2 ⟨y, hy, hq⟩
        rw [hx] at this
        cases this
      rw [List.find?_cons_of_neg (by simp [hx]), nothing, Option.none_or, later]

/-- Some of the threads stands at one of the places. -/
def Reaches (ends : Places) (ts : List Thread) : Prop :=
  ∃ u ∈ ts, ends.contains u.index = true

/-- The first of the threads that stands at one of the places. -/
def firstTo (ends : Places) (ts : List Thread) : Option Thread :=
  ts.find? (ends.contains ·.index)

theorem reaches_append {ends : Places} {ts us : List Thread} :
    Reaches ends (ts ++ us) ↔ Reaches ends ts ∨ Reaches ends us := by
  simp only [Reaches, List.mem_append, or_and_right, exists_or]

theorem reaches_singleton {ends : Places} {t : Thread} :
    Reaches ends [t] ↔ ends.contains t.index = true := by
  simp [Reaches]

theorem reaches_flatMap {ends : Places} {ts : List Thread} {f : Thread → List Thread} :
    Reaches ends (ts.flatMap f) ↔ ∃ u ∈ ts, Reaches ends (f u) := by
  simp only [Reaches, List.mem_flatMap]
  grind

theorem reaches_prefer {ends : Places} {greedy : Bool} {ts us : List Thread} :
    Reaches ends (prefer greedy ts us) ↔ Reaches ends ts ∨ Reaches ends us := by
  simp only [Reaches, mem_prefer, or_and_right, exists_or]

theorem firstTo_singleton {ends : Places} {t : Thread} (h : ends.contains t.index = true) :
    firstTo ends [t] = some t :=
  List.find?_cons_of_pos h

theorem firstTo_eq_none {ends : Places} {ts : List Thread} (h : ¬ Reaches ends ts) :
    firstTo ends ts = none :=
  List.find?_eq_none.2 fun u hu he => h ⟨u, hu, he⟩

theorem firstTo_append_left {ends : Places} {ts : List Thread} (h : Reaches ends ts)
    (us : List Thread) : firstTo ends (ts ++ us) = firstTo ends ts := by
  obtain ⟨u, hu, he⟩ := h
  rw [firstTo, List.find?_append, Option.or_of_isSome (List.find?_isSome.2 ⟨u, hu, he⟩), firstTo]

theorem firstTo_append_right {ends : Places} {ts : List Thread} (h : ¬ Reaches ends ts)
    (us : List Thread) : firstTo ends (ts ++ us) = firstTo ends us := by
  have nothing := firstTo_eq_none h
  rw [firstTo] at nothing
  rw [firstTo, List.find?_append, nothing, Option.none_or, firstTo]

theorem firstTo_bind {inside ends : Places} {ts : List Thread} {g : Thread → Option Thread}
    {f : Thread → List Thread}
    (inner : ∀ u ∈ ts, inside.contains u.index = true ↔ Reaches ends (f u))
    (later : ∀ u ∈ ts, Reaches ends (f u) → g u = firstTo ends (f u)) :
    (firstTo inside ts).bind g = firstTo ends (ts.flatMap f) :=
  find?_bind_eq inner fun u hu h => later u hu ((inner u hu).1 h)

/-! ## Rounds

`round` lists the ways of one round, `origin` the places from which one leads to a set, and `body`
follows one. -/

section

variable {text : List Char} {round : Thread → List Thread} {origin : Places → Places}
  {body : Places → Thread → Option Thread}

/-- The places of `origin` are where the ways of `round` begin. -/
def Begins (text : List Char) (round : Thread → List Thread) (origin : Places → Places) : Prop :=
  ∀ ends t, t.In text → ((origin ends).contains t.index = true ↔ Reaches ends (round t))

/-- Rounds stay in the text. -/
def Stays (text : List Char) (round : Thread → List Thread) : Prop :=
  ∀ t, t.In text → ∀ u ∈ round t, u.In text

/-- Following a round finds the first way to one of the ends. -/
def Finds (text : List Char) (round : Thread → List Thread)
    (body : Places → Thread → Option Thread) : Prop :=
  ∀ ends t, t.In text → Reaches ends (round t) → body ends t = firstTo ends (round t)

theorem contains_iterate (begins : Begins text round origin) (stays : Stays text round) (n : Nat)
    (ends : Places) : ∀ t, t.In text →
      ((Places.iterate origin n ends).contains t.index = true ↔
        Reaches ends (roundsExactly round n t)) := by
  induction n with
  | zero =>
    intro t _
    rw [Places.iterate, roundsExactly, reaches_singleton]
  | succ n ih =>
    intro t ht
    rw [Places.iterate_succ', begins _ t ht, roundsExactly, reaches_flatMap]
    exact exists_congr fun u => and_congr_right fun hu => ih u (stays t ht u hu)

theorem contains_originsWithin (begins : Begins text round origin) (stays : Stays text round)
    (greedy : Bool) (n : Nat) (ends : Places) : ∀ t, t.In text →
      ((Node.originsWithin origin ends n).contains t.index = true ↔
        Reaches ends (roundsUpTo round greedy n t)) := by
  unfold Node.originsWithin
  induction n with
  | zero =>
    intro t _
    rw [Places.iterate, roundsUpTo, reaches_singleton]
  | succ n ih =>
    intro t ht
    rw [Places.iterate_succ', Places.contains_union, Bool.or_eq_true, begins _ t ht, roundsUpTo,
      reaches_prefer, reaches_flatMap, reaches_singleton, or_comm]
    apply or_congr_left
    exact exists_congr fun u => and_congr_right fun hu => ih u (stays t ht u hu)

theorem followAll_eq (begins : Begins text round origin) (stays : Stays text round)
    (finds : Finds text round body) (n : Nat) (ends : Places) : ∀ t, t.In text →
      Reaches ends (roundsExactly round n t) →
      followAll body (Places.history origin n ends) t = firstTo ends (roundsExactly round n t) := by
  induction n with
  | zero =>
    intro t _ h
    exact (firstTo_singleton (reaches_singleton.1 h)).symm
  | succ n ih =>
    intro t ht h
    have inner (u : Thread) (hu : u ∈ round t) :=
      contains_iterate begins stays n ends u (stays t ht u hu)
    obtain ⟨u, hu, hr⟩ := reaches_flatMap.1 h
    rw [Places.history_succ, followAll, finds _ t ht ⟨u, hu, (inner u hu).2 hr⟩]
    exact firstTo_bind inner fun u hu hr => ih u (stays t ht u hu) hr

/-- To go on where going on leads to an end and is preferred, or where stopping does not, is to take
the first of both. -/
theorem goesOn_eq {greedy : Bool} {onward ends : Places} {t : Thread} {more : List Thread}
    {next : Option Thread} (honward : onward.contains t.index = true ↔ Reaches ends more)
    (hnext : Reaches ends more → next = firstTo ends more)
    (h : Reaches ends (prefer greedy more [t])) :
    (if goesOn greedy onward ends t then next else some t) =
      firstTo ends (prefer greedy more [t]) := by
  rw [reaches_prefer, reaches_singleton] at h
  cases greedy with
  | true =>
    simp only [goesOn, prefer, if_true]
    by_cases on : Reaches ends more
    · rw [if_pos (honward.2 on), hnext on, firstTo_append_left on]
    · have stop := h.resolve_left on
      rw [if_neg (mt honward.1 on), firstTo_append_right on, firstTo_singleton stop]
  | false =>
    simp only [goesOn, prefer, Bool.false_eq_true, if_false]
    by_cases stop : ends.contains t.index = true
    · rw [firstTo_append_left (reaches_singleton.2 stop), firstTo_singleton stop]
      simp [stop]
    · have on := h.resolve_right stop
      rw [firstTo_append_right (mt reaches_singleton.1 stop), ← hnext on]
      simp [stop]

theorem followSome_eq (begins : Begins text round origin) (stays : Stays text round)
    (finds : Finds text round body) (greedy : Bool) (n : Nat) (ends : Places) :
    ∀ t, t.In text → Reaches ends (roundsUpTo round greedy n t) →
      followSome body origin ends greedy
          (Places.history (fun s => ends.union (origin s)) n ends) t =
        firstTo ends (roundsUpTo round greedy n t) := by
  induction n with
  | zero =>
    intro t _ h
    exact (firstTo_singleton (reaches_singleton.1 h)).symm
  | succ n ih =>
    intro t ht h
    have inner (u : Thread) (hu : u ∈ round t) :=
      contains_originsWithin begins stays greedy n ends u (stays t ht u hu)
    have onward : (origin (Node.originsWithin origin ends n)).contains t.index = true ↔
        Reaches ends ((round t).flatMap (roundsUpTo round greedy n)) := by
      rw [begins _ t ht, reaches_flatMap]
      exact exists_congr fun u => and_congr_right (inner u)
    rw [Places.history_succ, followSome]
    refine goesOn_eq onward (fun on => ?_) h
    obtain ⟨u, hu, hr⟩ := reaches_flatMap.1 on
    change (body (Node.originsWithin origin ends n) t).bind _ = _
    rw [finds _ t ht ⟨u, hu, (inner u hu).2 hr⟩]
    exact firstTo_bind inner fun u hu hr => ih u (stays t ht u hu) hr

/-- Where every round takes a character, one set of places guides all rounds: so many rounds as there
are characters left reach all that any number of rounds reaches. -/
theorem followMany_eq (begins : Begins text round origin) (stays : Stays text round)
    (finds : Finds text round body)
    (takes : ∀ t, ∀ u ∈ round t, u.rest.length < t.rest.length) (greedy : Bool) (limit : Nat)
    (ends : Places) (enough : text.length ≤ limit) (n : Nat) : ∀ t, t.In text →
      t.rest.length ≤ n → Reaches ends (roundsUpTo round greedy n t) →
      followMany (body (Node.originsWithin origin ends limit))
          (origin (Node.originsWithin origin ends limit)) ends greedy n t =
        firstTo ends (roundsUpTo round greedy n t) := by
  induction n with
  | zero =>
    intro t _ _ h
    exact (firstTo_singleton (reaches_singleton.1 h)).symm
  | succ n ih =>
    intro t ht hn h
    have inner (u : Thread) (hu : u ∈ round t) :
        (Node.originsWithin origin ends limit).contains u.index = true ↔
          Reaches ends (roundsUpTo round greedy n u) := by
      have hin := stays t ht u hu
      have shorter := takes t u hu
      have within := hin.index_add
      rw [contains_originsWithin begins stays greedy limit ends u hin,
        roundsUpTo_eq_of_le takes greedy (m := n) (by omega) (by omega)]
    have onward : (origin (Node.originsWithin origin ends limit)).contains t.index = true ↔
        Reaches ends ((round t).flatMap (roundsUpTo round greedy n)) := by
      rw [begins _ t ht, reaches_flatMap]
      exact exists_congr fun u => and_congr_right (inner u)
    rw [followMany]
    refine goesOn_eq onward (fun on => ?_) h
    obtain ⟨u, hu, hr⟩ := reaches_flatMap.1 on
    rw [finds _ t ht ⟨u, hu, (inner u hu).2 hr⟩]
    refine firstTo_bind inner fun u hu hr => ih u (stays t ht u hu) ?_ hr
    have shorter := takes t u hu
    omega

end

/-! ## Nodes -/

namespace Node

theorem ways_stay (text : List Char) (a : Node) : Stays text a.ways :=
  fun _ ht _ hu => ways_in hu ht

theorem mem_roundsExactly_in {text : List Char} {a : Node} {n : Nat} {t u : Thread}
    (hu : u ∈ roundsExactly a.ways n t) (ht : t.In text) : u.In text :=
  roundsExactly_induction (R := fun t u => t.In text → u.In text) (fun _ => id)
    (fun _ _ _ hu h ht => h (ways_in hu ht)) hu ht

/-- The origins of a set of places are the places from which some way leads into the set. -/
theorem contains_origins (text : List Char) (a : Node) :
    Begins text a.ways (a.origins (.ofText text)) := by
  induction a with
  | empty =>
    intro ends t _
    rw [origins, ways, reaches_singleton]
  | set s =>
    intro ends t ht
    rw [origins, Places.contains_inter, Bool.and_eq_true, Places.contains_pred,
      Concordance.contains_placesOf ht, ways]
    cases hs : t.step s with
    | none => simp [Reaches]
    | some u => simp [reaches_singleton, Thread.step_index hs]
  | look l =>
    intro ends t ht
    rw [origins, Places.contains_inter, Bool.and_eq_true, Concordance.contains_placesWhere ht, ways]
    split
    · rename_i h
      simp [reaches_singleton, h]
    · rename_i h
      simp [Reaches, h]
  | seq a b iha ihb =>
    intro ends t ht
    rw [origins, iha _ t ht, ways, reaches_flatMap]
    exact exists_congr fun u => and_congr_right fun hu => ihb ends u (ways_in hu ht)
  | alt a b iha ihb =>
    intro ends t ht
    rw [origins, Places.contains_union, Bool.or_eq_true, iha ends t ht, ihb ends t ht, ways,
      reaches_append]
  | group i name a ih =>
    intro ends t ht
    rw [origins, ih ends t ht, ways]
    simp [Reaches, Thread.bind]
  | rep least most greedy a ih =>
    intro ends t ht
    rw [origins, contains_iterate ih (ways_stay text a) least _ t ht, ways, reaches_flatMap]
    refine exists_congr fun u => and_congr_right fun hu => ?_
    have hin := mem_roundsExactly_in hu ht
    rw [contains_originsWithin ih (ways_stay text a) greedy _ ends u hin]
    cases most with
    | some m => rfl
    | none => rw [furtherRounds, Concordance.size_ofText, Option.elim_none, hin.size_eq]

/-- So many rounds at most, after those that are required. -/
theorem finds_rep_limited {text : List Char} {a : Node} (finds : Finds text a.ways (a.follow (.ofText text)))
    (least m : Nat) (greedy : Bool) :
    Finds text (rep least (some m) greedy a).ways ((rep least (some m) greedy a).follow (.ofText text)) := by
  have begins := contains_origins text a
  have stays := ways_stay text a
  intro ends t ht h
  rw [ways] at h ⊢
  obtain ⟨v, hv, hr⟩ := reaches_flatMap.1 h
  simp only [follow, Option.elim_some] at hr ⊢
  have inner (u : Thread) (hu : u ∈ roundsExactly a.ways least t) :=
    contains_originsWithin begins stays greedy (m - least) ends u (mem_roundsExactly_in hu ht)
  rw [followAll_eq begins stays finds least _ t ht ⟨v, hv, (inner v hv).2 hr⟩]
  exact firstTo_bind inner fun u hu hr =>
    followSome_eq begins stays finds greedy _ ends u (mem_roundsExactly_in hu ht) hr

/-- Any number of rounds that each take a character, after those that are required. -/
theorem finds_rep_unlimited {text : List Char} {a : Node}
    (finds : Finds text a.ways (a.follow (.ofText text))) (takesOne : a.mayTakeNothing = false)
    (least : Nat) (greedy : Bool) :
    Finds text (rep least none greedy a).ways ((rep least none greedy a).follow (.ofText text)) := by
  have begins := contains_origins text a
  have stays := ways_stay text a
  have takes (t u : Thread) (hu : u ∈ a.ways t) := rest_lt_of_mem_ways takesOne hu
  intro ends t ht h
  rw [ways] at h ⊢
  obtain ⟨v, hv, hr⟩ := reaches_flatMap.1 h
  simp only [follow, takesOne, Bool.false_eq_true, if_false, Concordance.size_ofText]
  have limit (u : Thread) (hu : u ∈ roundsExactly a.ways least t) :
      (none : Option Nat).elim (u.size + 1) (· - least) = text.length + 1 := by
    rw [Option.elim_none, (mem_roundsExactly_in hu ht).size_eq]
  have inner (u : Thread) (hu : u ∈ roundsExactly a.ways least t) :
      (originsWithin (a.origins (.ofText text)) ends (text.length + 1)).contains u.index = true ↔
        Reaches ends
          (roundsUpTo a.ways greedy ((none : Option Nat).elim (u.size + 1) (· - least)) u) := by
    rw [limit u hu]
    exact contains_originsWithin begins stays greedy _ ends u (mem_roundsExactly_in hu ht)
  rw [followAll_eq begins stays finds least _ t ht ⟨v, hv, (inner v hv).2 hr⟩]
  refine firstTo_bind inner fun u hu hr => ?_
  have hin := mem_roundsExactly_in hu ht
  have within := hin.index_add
  rw [limit u hu] at hr ⊢
  exact followMany_eq begins stays finds takes greedy _ ends (Nat.le_succ _) _ u hin (by omega) hr

/-- Following a node finds the first of its ways to one of the ends. -/
theorem follow_eq_firstTo {text : List Char} {a : Node} (ho : a.orderly = true) :
    Finds text a.ways (a.follow (.ofText text)) := by
  induction a with
  | empty =>
    intro ends t _ h
    exact (firstTo_singleton (reaches_singleton.1 h)).symm
  | set s =>
    intro ends t _ h
    rw [follow]
    rw [ways] at h ⊢
    cases hs : t.step s with
    | none => simp [hs, Reaches] at h
    | some u =>
      rw [hs] at h
      exact (firstTo_singleton (reaches_singleton.1 h)).symm
  | look l =>
    intro ends t _ h
    rw [follow]
    rw [ways] at h ⊢
    split at h
    · rename_i holds
      rw [if_pos holds, if_pos holds, firstTo_singleton (reaches_singleton.1 h)]
    · simp [Reaches] at h
  | seq a b iha ihb =>
    rw [orderly, Bool.and_eq_true] at ho
    intro ends t ht h
    have inner (u : Thread) (hu : u ∈ a.ways t) := contains_origins text b ends u (ways_in hu ht)
    obtain ⟨u, hu, hr⟩ := reaches_flatMap.1 h
    rw [follow, iha ho.1 _ t ht ⟨u, hu, (inner u hu).2 hr⟩]
    exact firstTo_bind inner fun u hu hr => ihb ho.2 ends u (ways_in hu ht) hr
  | alt a b iha ihb =>
    rw [orderly, Bool.and_eq_true] at ho
    intro ends t ht h
    rw [follow]
    rw [ways] at h ⊢
    by_cases first : Reaches ends (a.ways t)
    · rw [if_pos ((contains_origins text a ends t ht).2 first), firstTo_append_left first]
      exact iha ho.1 ends t ht first
    · have second := (reaches_append.1 h).resolve_left first
      rw [if_neg (mt (contains_origins text a ends t ht).1 first), firstTo_append_right first]
      exact ihb ho.2 ends t ht second
  | group i name a ih =>
    intro ends t ht h
    rw [ways] at h ⊢
    have inner : Reaches ends (a.ways t) := by simpa [Reaches, Thread.bind] using h
    rw [follow, ih ho ends t ht inner, firstTo, firstTo, List.find?_map]
    rfl
  | rep least most greedy a ih =>
    rw [orderly, Bool.and_eq_true, Bool.or_eq_true, Bool.not_eq_true'] at ho
    cases most with
    | some m => exact finds_rep_limited (ih ho.2) least m greedy
    | none =>
      have takesOne : a.mayTakeNothing = false := by simpa using ho.1
      exact finds_rep_unlimited (ih ho.2) takesOne least greedy

/-! ## Searching -/

end Node

/-- The threads at the places from `index` on, without any binding. -/
def Thread.placesFrom (index : Nat) (before : Option Char) : List Char → List Thread
  | [] => [⟨index, before, [], []⟩]
  | c :: rest => ⟨index, before, c :: rest, []⟩ :: placesFrom (index + 1) (some c) rest

/-- The threads at all places of a text, from left to right. -/
def Thread.places (text : List Char) : List Thread :=
  placesFrom 0 none text

namespace Node

/-- Every place of the text is wanted, so that a way to any of them is the first one. -/
theorem firstTo_everywhere {text : List Char} {a : Node} {t : Thread} (ht : t.In text) :
    firstTo (Concordance.ofText text).everywhere (a.ways t) = (a.ways t).head? := by
  cases h : a.ways t with
  | nil => rfl
  | cons u us =>
    refine List.find?_cons_of_pos ?_
    have hin : u.In text := ways_in (h ▸ List.mem_cons_self) ht
    have within := hin.index_add
    simp [Concordance.everywhere]
    omega

theorem searchFrom_eq_findSome? {text : List Char} {a : Node} (orderly : a.orderly = true)
    (passed : List Char) {rest : List Char} (h : text = passed ++ rest) :
    let x := Concordance.ofText text
    a.searchFrom x (a.origins x x.everywhere) passed.length passed.getLast? rest =
      (Thread.placesFrom passed.length passed.getLast? rest).findSome? fun t =>
        (a.ways t).head?.map (t.index, ·) := by
  intro x
  have here (t : Thread) (ht : t.In text) :
      ((a.origins x x.everywhere).contains t.index = true ∧
        a.follow x x.everywhere t = (a.ways t).head? ∧ (a.ways t).head?.isSome) ∨
      ((a.origins x x.everywhere).contains t.index = false ∧ (a.ways t).head? = none) := by
    rw [← firstTo_everywhere ht]
    by_cases hr : Reaches x.everywhere (a.ways t)
    · obtain ⟨u, hu, he⟩ := hr
      refine .inl ⟨(contains_origins text a _ t ht).2 ⟨u, hu, he⟩,
        follow_eq_firstTo orderly _ t ht ⟨u, hu, he⟩, ?_⟩
      exact List.find?_isSome.2 ⟨u, hu, he⟩
    · refine .inr ⟨?_, firstTo_eq_none hr⟩
      rw [← Bool.not_eq_true]
      exact mt (contains_origins text a _ t ht).1 hr
  induction rest generalizing passed with
  | nil =>
    have ht : Thread.In text ⟨passed.length, passed.getLast?, [], []⟩ := ⟨passed, h, rfl, rfl⟩
    simp only [searchFrom, Thread.placesFrom, List.findSome?_cons, List.findSome?_nil]
    rcases here _ ht with ⟨hc, hf, -⟩ | ⟨hc, hn⟩
    · simp only at hc hf
      rw [if_pos hc, hf]
      cases (a.ways _).head? <;> rfl
    · simp only at hc hn
      rw [if_neg (by simp [hc]), hn]
      rfl
  | cons c rest ih =>
    have ht : Thread.In text ⟨passed.length, passed.getLast?, c :: rest, []⟩ :=
      ⟨passed, h, rfl, rfl⟩
    have next := ih (passed ++ [c]) (by simp [h])
    simp only [List.length_append, List.length_singleton, List.getLast?_append,
      List.getLast?_singleton, Option.some_or] at next
    simp only [searchFrom, Thread.placesFrom, List.findSome?_cons]
    rcases here _ ht with ⟨hc, hf, hs⟩ | ⟨hc, hn⟩
    · simp only at hc hf hs
      rw [if_pos hc, hf]
      obtain ⟨u, hu⟩ := Option.isSome_iff_exists.1 hs
      rw [hu]
      rfl
    · simp only at hc hn
      rw [if_neg (by simp [hc]), hn]
      exact next

/-- A search finds the preferred way from the leftmost place that has any. -/
theorem search_eq_findSome? {a : Node} (orderly : a.orderly = true) (text : List Char) :
    a.search text =
      (Thread.places text).findSome? fun t => (a.ways t).head?.map (t.index, ·) :=
  searchFrom_eq_findSome? orderly [] rfl

end Node

end Routing.Regex
