import Routing.Proofs.Regex.Anchored
import Routing.Proofs.Regex.Walking

/-!
# A search finds what there is

Following an expression comes to an end wherever some way leads to one, also through loops whose rounds
may take nothing. So a search finds a match in every text of which the expression takes a part.

* `Node.arrives`: following comes to one of the ends, if the expression leads to any
* `Node.search_isSome`: a search finds something exactly where there is something
* `Node.anchored_search_isSome`: between anchors, exactly where all of the text is taken
-/
namespace Routing.Regex

/-! ## Rounds -/

/-- From a place where `origin` says that a round leads to an end, `body` comes to one. -/
def Arrives (text : List Char) (origin : Places → Places) (body : Places → Thread → Option Thread) : Prop :=
  ∀ ends t, t.In text → (origin ends).contains t.index = true →
    ∃ u, body ends t = some u ∧ u.In text ∧ ends.contains u.index = true

section

variable {text : List Char} {origin : Places → Places} {body : Places → Thread → Option Thread}

theorem followAll_arrives (arrives : Arrives text origin body) (n : Nat) :
    Arrives text (Places.iterate origin n) fun ends => followAll body (Places.history origin n ends) := by
  induction n with
  | zero =>
    intro ends t inText within
    exact ⟨t, rfl, inText, within⟩
  | succ n ih =>
    intro ends t inText within
    rw [Places.iterate_succ'] at within
    obtain ⟨v, first, inText, within⟩ := arrives _ t inText within
    obtain ⟨u, later, arrived⟩ := ih ends v inText within
    refine ⟨u, ?_, arrived⟩
    simp only [Places.history_succ, followAll, first]
    exact later

/-- Whether to go on is decided so that an end is reached. -/
theorem goesOn_arrives {greedy : Bool} {onward ends : Places} {t : Thread} {next : Option Thread}
    (inText : t.In text) (within : ends.contains t.index = true ∨ onward.contains t.index = true)
    (on : onward.contains t.index = true →
      ∃ u, next = some u ∧ u.In text ∧ ends.contains u.index = true) :
    ∃ u, (if goesOn greedy onward ends t then next else some t) = some u ∧ u.In text ∧
      ends.contains u.index = true := by
  by_cases more : goesOn greedy onward ends t = true
  · rw [if_pos more]
    apply on
    cases greedy with
    | true => exact more
    | false => exact within.resolve_left (by simpa [goesOn] using more)
  · rw [if_neg more]
    refine ⟨t, rfl, inText, ?_⟩
    cases greedy with
    | true => exact within.resolve_right more
    | false => simpa [goesOn] using more

theorem followSome_arrives (arrives : Arrives text origin body) (greedy : Bool) (n : Nat) :
    Arrives text (Node.originsWithin origin · n) fun ends =>
      followSome body origin ends greedy (Places.history (fun s => ends.union (origin s)) n ends) := by
  induction n with
  | zero =>
    intro ends t inText within
    exact ⟨t, rfl, inText, within⟩
  | succ n ih =>
    intro ends t inText within
    change (Places.iterate _ (n + 1) ends).contains t.index = true at within
    rw [Places.iterate_succ', Places.contains_union, Bool.or_eq_true] at within
    simp only [Places.history_succ, followSome]
    refine goesOn_arrives inText within fun on => ?_
    obtain ⟨v, first, inText, within⟩ := arrives _ t inText on
    obtain ⟨u, later, arrived⟩ := ih ends v inText within
    refine ⟨u, ?_, arrived⟩
    rw [first]
    exact later

/-- `inside` is where any number of rounds leads to an end, so that each round may stay inside. -/
theorem followMany_arrives (arrives : Arrives text origin body) {inside ends : Places} (greedy : Bool)
    (takes : ∀ t u, t.In text → body inside t = some u → u.rest.length < t.rest.length)
    (closed : ∀ t : Thread, t.In text → inside.contains t.index = true →
      ends.contains t.index = true ∨ (origin inside).contains t.index = true) (n : Nat) :
    ∀ t : Thread, t.In text → t.rest.length < n → inside.contains t.index = true →
      ∃ u, followMany (body inside) (origin inside) ends greedy n t = some u ∧ u.In text ∧
        ends.contains u.index = true := by
  induction n with
  | zero =>
    intro t _ less
    omega
  | succ n ih =>
    intro t inText less within
    rw [followMany]
    refine goesOn_arrives inText (closed t inText within) fun on => ?_
    obtain ⟨v, first, inText', within⟩ := arrives inside t inText on
    have fewer := takes t v inText first
    obtain ⟨u, later, arrived⟩ := ih v inText' (by omega) within
    refine ⟨u, ?_, arrived⟩
    rw [first]
    exact later

end

namespace Node

/-! ## Loops that may take nothing -/

section

variable {text : List Char} {a : Node} {ends : Places} {greedy : Bool} {t : Thread} {j : Nat}

/-- The rounds of a loop that are tried out from a walker come to an end, unless its joints stop them. -/
theorem exists_mem_again {T : Spot → Nat → Nat → Prop} {own : Spot → Prop} {body : Walker → List Walker}
    (course : Course text (oneRound (·.pass [0]) body ([·])) (a.Takes text) T own) {w : Walker}
    (inText : w.thread.In text) (free : ∀ joint ∈ w.passed, ¬ own joint) (wanted : ends.contains j = true)
    (leads : Plus (a.Takes text) w.index j) :
    ∃ u ∈ onceOrMore ends (·.pass [0]) body ([·]) greedy w, ends.contains u.index = true := by
  rcases exists_mem_onceOrMore ends greedy course inText leads with
    ⟨u, hu, rfl | found⟩ | ⟨joint, passed, k, -, tail, -⟩
  · exact ⟨u, hu, wanted⟩
  · exact ⟨u, hu, found⟩
  · exact absurd (course.owned tail) (free joint passed)

theorem exists_mem_optional (inText : t.In text) (wanted : ends.contains j = true)
    (leads : Star (a.Takes text) t.index j) :
    ∃ w ∈ repeats ends (fun i => a.walk [i + 2]) true greedy [] 0 none ⟨t, []⟩,
      ends.contains w.index = true := by
  obtain ⟨T, course⟩ := exists_course text a [2]
  have apart : ¬ Below [2] [0] := not_below_copy (c := 0) Nat.two_pos
  have round := course.enteredBy apart
  obtain ⟨w, hw⟩ : ∃ w : Walker, w = ⟨t, []⟩ := ⟨_, rfl⟩
  have free : w.passed = [] := hw ▸ rfl
  have inText' : w.thread.In text := hw ▸ inText
  have leads' : Star (a.Takes text) w.index j := hw ▸ leads
  rw [← hw]
  have reached : ∃ v ∈ prefer greedy (onceOrMore ends (·.pass [0]) (a.walk [2]) ([·]) greedy w) [w],
      ends.contains v.index = true := by
    obtain ⟨n, times⟩ := leads'
    cases n with
    | zero =>
      obtain rfl : w.index = j := times
      exact ⟨w, mem_prefer.2 (.inr (List.mem_singleton.2 rfl)), wanted⟩
    | succ n =>
      obtain ⟨v, hv, found⟩ := exists_mem_again round inText' (by simp [free]) wanted ⟨n, times⟩
      exact ⟨v, mem_prefer.2 (.inl hv), found⟩
  have open_ (v : Walker)
      (hv : v ∈ prefer greedy (onceOrMore ends (·.pass [0]) (a.walk [2]) ([·]) greedy w) [w]) :
      [1] ∉ v.passed := by
    intro passed
    rcases mem_prefer.1 hv with hv | hv
    · rcases (carried_of_mem_onceOrMore round inText' hv).traced [1] passed with
        ⟨before, -⟩ | ⟨same | below, -⟩
      · simp [free] at before
      · simp at same
      · exact not_below_copy (c := 0) Nat.one_lt_two below
    · obtain rfl := List.mem_singleton.1 hv
      simp [free] at passed
  obtain ⟨v, hv, found⟩ := reached
  obtain ⟨u, hu, same⟩ := exists_mem_walkerFirsts hv
  exact ⟨_, List.mem_flatMap.2 ⟨u, hu, mem_pass.2 ⟨open_ u (mem_of_mem_firsts hu), rfl⟩⟩, same ▸ found⟩

theorem exists_mem_required {m : Nat} (inText : t.In text) (wanted : ends.contains j = true)
    (leads : ∃ n, m + 1 ≤ n ∧ Times (a.Takes text) n t.index j) :
    ∃ w ∈ repeats ends (fun i => a.walk [i + 2]) true greedy [] (m + 1) none ⟨t, []⟩,
      ends.contains w.index = true := by
  choose T course using fun c => exists_course text a [c + 2]
  have apart : ¬ Below [m + 2] [0] := not_below_copy Nat.two_pos
  have round := (course m).enteredBy apart
  obtain ⟨w, hw⟩ : ∃ w : Walker, w = ⟨t, []⟩ := ⟨_, rfl⟩
  have free : w.passed = [] := hw ▸ rfl
  have inText' : w.thread.In text := hw ▸ inText
  obtain ⟨n, enough, times⟩ := leads
  have turns := copies_inTurn course m inText'
  obtain ⟨further, rfl⟩ := Nat.exists_eq_add_of_le enough
  rw [Nat.add_assoc, Nat.add_comm 1] at times
  obtain ⟨k, required, rest⟩ := times_add.1 times
  have at_w : t.index = w.index := hw ▸ rfl
  rw [at_w] at required
  rw [← hw]
  rcases turns.complete m (Nat.le_refl m) (Nat.lt_succ_self m) k required with
    ⟨v, hv, rfl⟩ | ⟨d, n, -, joint, passed, -⟩
  · obtain ⟨inText, -⟩ := turns.sound v hv
    have apart : ∀ joint ∈ v.passed, ¬ (joint = [0] ∨ Below [m + 2] joint) := by
      intro joint passed owned
      rcases turns.traced v hv joint passed with ⟨before, -⟩ | ⟨d, below, owns, -⟩
      · simp [free] at before
      · rcases owned with rfl | owned
        · exact not_below_copy Nat.two_pos owns
        · have := copy_unique owns owned
          omega
    obtain ⟨u, hu, found⟩ := exists_mem_again round inText apart wanted ⟨further, rest⟩
    obtain ⟨o, ho, same⟩ := exists_mem_walkerFirsts (List.mem_flatMap.2 ⟨v, hv, hu⟩)
    exact ⟨o, ho, same ▸ found⟩
  · simp [free] at passed

/-- The rounds that are tried out come to an end. -/
theorem roundsTo?_arrives (nothing : a.mayTakeNothing = true) {least : Nat} (inText : t.In text)
    (wanted : ends.contains j = true) (leads : (rep least none greedy a).Takes text t.index j) :
    ∃ u, a.roundsTo? ends least greedy t = some u ∧ ends.contains u.index = true := by
  obtain ⟨n, ⟨enough, -⟩, times⟩ := leads
  have found : ∃ w ∈ repeats ends (fun i => a.walk [i + 2]) true greedy [] least none ⟨t, []⟩,
      ends.contains w.index = true := by
    cases least with
    | zero => exact exists_mem_optional inText wanted ⟨n, times⟩
    | succ m => exact exists_mem_required inText wanted ⟨n, enough, times⟩
  obtain ⟨w, hw⟩ := Option.isSome_iff_exists.1 (List.find?_isSome.2 found)
  have arrived : ends.contains w.index = true := by simpa using List.find?_some hw
  refine ⟨w.thread, ?_, arrived⟩
  simp only [roundsTo?, nothing]
  exact congrArg (Option.map (·.thread)) hw

end

/-! ## Following -/

theorem contains_origins_iff {text : List Char} {a : Node} {ends : Places} {t : Thread}
    (inText : t.In text) :
    (a.origins (.ofText text) ends).contains t.index = true ↔
      ∃ j, ends.contains j = true ∧ a.Takes text t.index j := by
  rw [contains_origins text a ends t inText]
  constructor
  · rintro ⟨u, hu, found⟩
    exact ⟨u.index, found, (takes_iff inText).2 ⟨u, hu, rfl⟩⟩
  · rintro ⟨j, found, leads⟩
    obtain ⟨u, hu, rfl⟩ := (takes_iff inText).1 leads
    exact ⟨u, hu, found⟩

theorem contains_originsWithin_iff {text : List Char} {a : Node} {ends : Places} {t : Thread}
    (inText : t.In text) {n : Nat} :
    (originsWithin (a.origins (.ofText text)) ends n).contains t.index = true ↔
      ∃ j, ends.contains j = true ∧ ∃ k ≤ n, Times (a.Takes text) k t.index j := by
  rw [contains_originsWithin (contains_origins text a) (ways_stay text a) true n ends t inText]
  obtain ⟨-, lead⟩ := (leadsBy_ways text a).upTo true n t inText
  constructor
  · rintro ⟨u, hu, found⟩
    exact ⟨u.index, found, (lead _).2 ⟨u, hu, rfl⟩⟩
  · rintro ⟨j, found, leads⟩
    obtain ⟨u, hu, rfl⟩ := (lead j).1 leads
    exact ⟨u, hu, found⟩

/-- From a place from which so many rounds lead to an end, none or one leads to an end or such a place. -/
theorem originsWithin_closed {text : List Char} {a : Node} {ends : Places} {t : Thread}
    (inText : t.In text) {n : Nat}
    (within : (originsWithin (a.origins (.ofText text)) ends n).contains t.index = true) :
    ends.contains t.index = true ∨
      (a.origins (.ofText text) (originsWithin (a.origins (.ofText text)) ends n)).contains t.index =
        true := by
  obtain ⟨j, found, k, few, times⟩ := (contains_originsWithin_iff inText).1 within
  cases k with
  | zero =>
    obtain rfl : t.index = j := times
    exact .inl found
  | succ k =>
    obtain ⟨l, leads, rest⟩ := times
    obtain ⟨u, hu, rfl⟩ := (takes_iff inText).1 leads
    refine .inr ((contains_origins_iff inText).2 ⟨u.index, ?_, leads⟩)
    exact (contains_originsWithin_iff (ways_in hu inText)).2 ⟨j, found, k, by omega, rest⟩

theorem mayTakeNothing_eq_false {a : Node} :
    a.mayTakeNothing = false ↔ ∃ k, a.minLength? = some k ∧ k ≠ 0 := by
  unfold mayTakeNothing
  cases a.minLength? <;> simp

theorem kept_index (i : Nat) : Kept (i ≤ ·.index) where
  step ht hu := Nat.le_trans ht (Thread.step_index hu ▸ Nat.le_succ _)
  bind ht _ _ := ht

/-- Every way through a node that cannot take nothing leads behind where it started. -/
theorem leads_of_something {a : Node} (something : a.mayTakeNothing = false) (i : Nat) :
    a.Leads (i ≤ ·.index) (i + 1 ≤ ·.index) := by
  have weaken (t : Thread) : i + 1 ≤ t.index → i ≤ t.index := Nat.le_of_succ_le
  induction a with
  | empty | look => cases something
  | set s =>
    refine ⟨fun spot w hw u hu => ?_, fun x ends t ht u hu => ?_⟩
    · obtain ⟨t, ht, rfl⟩ := List.mem_map.1 hu
      exact Thread.step_index (Option.mem_toList.1 ht) ▸ Nat.succ_le_succ hw
    · exact Thread.step_index hu ▸ Nat.succ_le_succ ht
  | seq a b iha ihb =>
    obtain ⟨k, length, positive⟩ := mayTakeNothing_eq_false.1 something
    obtain ⟨m, hm, n, hn, rfl⟩ :
        ∃ m, a.minLength? = some m ∧ ∃ n, b.minLength? = some n ∧ m + n = k := by
      simpa [minLength?, Option.bind_eq_some_iff] using length
    by_cases zero : m = 0
    · have ha := leads_of_kept (kept_index i) a
      exact leads_seq ha (ihb (mayTakeNothing_eq_false.2 ⟨n, hn, by omega⟩))
    · have hb := leads_of_kept (kept_index (i + 1)) b
      exact leads_seq (iha (mayTakeNothing_eq_false.2 ⟨m, hm, zero⟩)) hb
  | alt a b iha ihb =>
    obtain ⟨k, length, positive⟩ := mayTakeNothing_eq_false.1 something
    obtain ⟨m, hm, n, hn, rfl⟩ :
        ∃ m, a.minLength? = some m ∧ ∃ n, b.minLength? = some n ∧ min m n = k := by
      simpa [minLength?, Option.bind_eq_some_iff] using length
    exact leads_alt (iha (mayTakeNothing_eq_false.2 ⟨m, hm, by omega⟩))
      (ihb (mayTakeNothing_eq_false.2 ⟨n, hn, by omega⟩))
  | group index name a ih => exact leads_group (kept_index (i + 1)) (ih something) index name
  | rep least most greedy a ih =>
    obtain ⟨k, length, positive⟩ := mayTakeNothing_eq_false.1 something
    obtain ⟨m, hm, rfl⟩ := Option.map_eq_some_iff.1 length
    obtain ⟨rounds, taken⟩ := Nat.mul_ne_zero_iff.1 positive
    exact leads_rep (ih (mayTakeNothing_eq_false.2 ⟨m, hm, taken⟩)) weaken
      (fun zero => absurd zero rounds) most greedy

theorem rest_lt_of_follow {text : List Char} {a : Node} (something : a.mayTakeNothing = false)
    {ends : Places} {t u : Thread} (inText : t.In text)
    (followed : a.follow (.ofText text) ends t = some u) : u.rest.length < t.rest.length := by
  have onward := (leads_of_something something t.index).follow _ _ t (Nat.le_refl _) u followed
  have inText' := (leads_of_kept (kept_in text) a).follow _ _ t inText u followed
  have size := inText.index_add
  have size' := inText'.index_add
  omega

/-- So many rounds at most come to an end. -/
theorem arrives_rep_limited {text : List Char} {a : Node}
    (once : Arrives text (a.origins (.ofText text)) (a.follow (.ofText text))) (least m : Nat)
    (greedy : Bool) :
    Arrives text ((rep least (some m) greedy a).origins (.ofText text))
      ((rep least (some m) greedy a).follow (.ofText text)) := by
  intro ends t inText within
  obtain ⟨v, first, inText', within⟩ := followAll_arrives once least _ t inText within
  obtain ⟨u, second, arrived⟩ := followSome_arrives once greedy (m - least) ends v inText' within
  exact ⟨u, Option.bind_eq_some_iff.2 ⟨v, first, second⟩, arrived⟩

/-- Any number of rounds comes to an end. Rounds that may take nothing are tried out; of the others there
are no more than places. -/
theorem arrives_rep_unlimited {text : List Char} {a : Node}
    (once : Arrives text (a.origins (.ofText text)) (a.follow (.ofText text))) (least : Nat)
    (greedy : Bool) :
    Arrives text ((rep least none greedy a).origins (.ofText text))
      ((rep least none greedy a).follow (.ofText text)) := by
  intro ends t inText within
  cases nothing : a.mayTakeNothing with
  | true =>
    obtain ⟨j, found, leads⟩ := (contains_origins_iff inText).1 within
    obtain ⟨u, followed, arrived⟩ := roundsTo?_arrives nothing inText found leads
    have same : (rep least none greedy a).follow (.ofText text) ends t = some u := by
      simp only [follow, nothing, if_true, followed]
    exact ⟨u, same, (leads_of_kept (kept_in text) _).follow _ _ t inText u same, arrived⟩
  | false =>
    have limit : furtherRounds (.ofText text) least none = (Concordance.ofText text).size + 1 := rfl
    rw [origins, limit] at within
    obtain ⟨v, first, inText', within⟩ := followAll_arrives once least _ t inText within
    have enough : v.rest.length < (Concordance.ofText text).size + 1 := by
      have size := inText'.index_add
      rw [Concordance.size_ofText]
      omega
    obtain ⟨u, second, arrived⟩ := followMany_arrives once greedy
      (fun t u inText followed => rest_lt_of_follow nothing inText followed)
      (fun t inText => originsWithin_closed inText) _ v inText' enough within
    refine ⟨u, ?_, arrived⟩
    simp only [follow, nothing, Bool.false_eq_true, if_false]
    exact Option.bind_eq_some_iff.2 ⟨v, first, second⟩

/-- From every place from which the node leads to an end, following comes to one. -/
theorem arrives (text : List Char) (a : Node) :
    Arrives text (a.origins (.ofText text)) (a.follow (.ofText text)) := by
  induction a with
  | empty =>
    intro ends t inText within
    exact ⟨t, rfl, inText, within⟩
  | set s =>
    intro ends t inText within
    obtain ⟨j, found, leads⟩ := (contains_origins_iff inText).1 within
    obtain ⟨u, step, rfl⟩ := (takes_set inText).1 leads
    exact ⟨u, step, inText.step step, found⟩
  | look l =>
    intro ends t inText within
    obtain ⟨j, found, leads⟩ := (contains_origins_iff inText).1 within
    obtain ⟨holds, rfl⟩ := (takes_look inText).1 leads
    exact ⟨t, if_pos holds, inText, found⟩
  | seq a b iha ihb =>
    intro ends t inText within
    obtain ⟨v, first, inText', within⟩ := iha _ t inText within
    obtain ⟨u, second, arrived⟩ := ihb ends v inText' within
    refine ⟨u, ?_, arrived⟩
    rw [follow, first]
    exact second
  | alt a b iha ihb =>
    intro ends t inText within
    rw [follow]
    split
    · next first => exact iha ends t inText first
    · next not_first =>
      rw [origins, Places.contains_union, Bool.or_eq_true] at within
      exact ihb ends t inText (within.resolve_left not_first)
  | group index name a ih =>
    intro ends t inText within
    obtain ⟨u, followed, inText', found⟩ := ih ends t inText within
    exact ⟨u.bind index t.index, by rw [follow, followed]; rfl, inText'.bind index _, found⟩
  | rep least most greedy a ih =>
    cases most with
    | some m => exact arrives_rep_limited ih least m greedy
    | none => exact arrives_rep_unlimited ih least greedy

/-! ## Searching -/

theorem contains_everywhere {text : List Char} {i : Nat} :
    (Concordance.ofText text).everywhere.contains i = true ↔ i ≤ text.length := by
  simp [Concordance.everywhere]

/-- A thread at a given place. -/
theorem exists_in {text : List Char} {i : Nat} (inside : i ≤ text.length) :
    ∃ t : Thread, t.In text ∧ t.index = i :=
  ⟨⟨i, (text.take i).getLast?, text.drop i, []⟩,
    ⟨text.take i, (List.take_append_drop i text).symm, (List.length_take_of_le inside).symm, rfl⟩, rfl⟩

theorem searchFrom_isSome_iff {a : Node} {text : List Char} (passed : List Char) {rest : List Char}
    (split : text = passed ++ rest) :
    let x := Concordance.ofText text
    (a.searchFrom x (a.origins x x.everywhere) passed.length passed.getLast? rest).isSome = true ↔
      ∃ i, passed.length ≤ i ∧ i ≤ text.length ∧ (a.origins x x.everywhere).contains i = true := by
  intro x
  have here (t : Thread) (inText : t.In text)
      (starts : (a.origins x x.everywhere).contains t.index = true) :
      ((a.follow x x.everywhere t).map (t.index, ·)).isSome = true := by
    obtain ⟨u, followed, -⟩ := arrives text a _ t inText starts
    rw [followed]
    rfl
  induction rest generalizing passed with
  | nil =>
    have end_ : text.length = passed.length := by simp [split]
    rw [searchFrom]
    split
    · next starts =>
      have found := here ⟨passed.length, passed.getLast?, [], []⟩ ⟨passed, split, rfl, rfl⟩ starts
      exact iff_of_true found ⟨_, Nat.le_refl _, Nat.le_of_eq end_.symm, starts⟩
    · next not_here =>
      refine iff_of_false (by simp) ?_
      rintro ⟨i, lower, upper, starts⟩
      obtain rfl : i = passed.length := by omega
      exact not_here starts
  | cons c rest ih =>
    have inside : passed.length ≤ text.length := by simp [split]
    rw [searchFrom]
    split
    · next starts =>
      have found := here ⟨passed.length, passed.getLast?, c :: rest, []⟩ ⟨passed, split, rfl, rfl⟩ starts
      exact iff_of_true found ⟨_, Nat.le_refl _, inside, starts⟩
    · next not_here =>
      have onward := ih (passed ++ [c]) (by simp [split])
      simp only [List.length_append, List.length_singleton, List.getLast?_append,
        List.getLast?_singleton, Option.some_or] at onward
      refine onward.trans (exists_congr fun i => ⟨And.imp_left Nat.le_of_succ_le, ?_⟩)
      rintro ⟨lower, upper, starts⟩
      refine ⟨Nat.lt_of_le_of_ne lower ?_, upper, starts⟩
      rintro rfl
      exact not_here starts

/-- A search finds a match wherever the node takes a part of the text. -/
theorem search_isSome_iff {a : Node} {text : List Char} :
    (a.search text).isSome = true ↔ ∃ i j, i ≤ text.length ∧ a.Takes text i j := by
  refine (searchFrom_isSome_iff [] rfl).trans (exists_congr fun i => ?_)
  constructor
  · rintro ⟨-, inside, starts⟩
    obtain ⟨t, inText, rfl⟩ := exists_in inside
    obtain ⟨j, -, leads⟩ := (contains_origins_iff inText).1 starts
    exact ⟨j, inside, leads⟩
  · rintro ⟨j, inside, leads⟩
    obtain ⟨t, inText, rfl⟩ := exists_in inside
    exact ⟨Nat.zero_le _, inside, (contains_origins_iff inText).2
      ⟨j, contains_everywhere.2 (leads.le_length inside), leads⟩⟩

theorem takes_anchored {text : List Char} {a : Node} {i j : Nat} (inside : i ≤ text.length) :
    a.anchored.Takes text i j ↔ i = 0 ∧ j = text.length ∧ a.Takes text 0 text.length := by
  have at_start (l : Nat) : (look .start).Takes text i l ↔ i = 0 ∧ l = 0 := by
    obtain ⟨t, inText, rfl⟩ := exists_in inside
    rw [takes_look inText]
    simp only [Thread.satisfies, Look.holdsBetween, Option.isNone_iff_eq_none, inText.before_eq_none]
    exact and_congr_right fun front => front ▸ eq_comm
  have at_stop (k : Nat) : (look .stop).Takes text k j ↔ k = j ∧ text.length ≤ k := by
    simp [Takes, Look.holdsBetween]
  simp only [anchored, takes_append, at_start, at_stop]
  constructor
  · rintro ⟨k, ⟨l, ⟨rfl, rfl⟩, leads⟩, rfl, done⟩
    obtain rfl := Nat.le_antisymm (leads.le_length inside) done
    exact ⟨rfl, rfl, leads⟩
  · rintro ⟨rfl, rfl, leads⟩
    exact ⟨_, ⟨0, ⟨rfl, rfl⟩, leads⟩, rfl, Nat.le_refl _⟩

/-- Between the anchors a search finds a match exactly where the node takes all of the text. -/
theorem anchored_search_isSome_iff {a : Node} {text : List Char} :
    (a.anchored.search text).isSome = true ↔ a.Takes text 0 text.length := by
  rw [search_isSome_iff]
  constructor
  · rintro ⟨i, j, inside, leads⟩
    exact ((takes_anchored inside).1 leads).2.2
  · intro leads
    exact ⟨0, text.length, Nat.zero_le _, (takes_anchored (Nat.zero_le _)).2 ⟨rfl, rfl, leads⟩⟩

end Node

end Routing.Regex
