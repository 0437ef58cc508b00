import Routing.Proofs.Regex.Preference
import Routing.Regex.Size

/-!
# Matches that are tied to the ends of the text

A node whose assertions at the front ask for the start of the text begins nowhere else, and one whose
assertions at the back ask for the end of the text ends nowhere else. Unlike the order of preference, this
holds of every node, also of loops that may take nothing.

* `Node.Leads`: from threads with one property every way through a node leads to threads with another
* `Node.leads_of_kept`: what steps and bindings keep, every node keeps
* `Node.leads_of_startsAtStart`: a node that is tied to the start leads nowhere from behind the start
* `Node.leads_of_stopsAtStop`: a node that is tied to the end leads nowhere but to the end
* `Node.search_of_tied`: a match of a node that is tied at both ends covers the whole text
-/
namespace Routing.Regex

/-! ## From property to property -/

/-- From threads with one property all ways lead to threads with another. -/
def Leads (P Q : Thread → Prop) (ways : Walker → List Walker) : Prop :=
  ∀ w, P w.thread → ∀ u ∈ ways w, Q u.thread

/-- A property that holds wherever a step leads, and whatever a thread binds. -/
structure Kept (P : Thread → Prop) : Prop where
  step : ∀ {t u s}, P t → t.step s = some u → P u
  bind : ∀ {t}, P t → ∀ group start, P (t.bind group start)

theorem kept_true : Kept fun _ => True where
  step _ _ := trivial
  bind _ _ _ := trivial

theorem kept_false : Kept fun _ => False where
  step ht _ := ht
  bind ht _ _ := ht

theorem kept_in (text : List Char) : Kept (·.In text) where
  step ht hu := ht.step hu
  bind ht group start := ht.bind group start

theorem kept_behind : Kept (·.before ≠ none) where
  step _ hu := by
    unfold Thread.step at hu
    grind
  bind ht _ _ := ht

theorem kept_done : Kept (·.rest = []) where
  step ht hu := by
    obtain ⟨c, hr, -⟩ := Thread.step_eq_some hu
    rw [ht] at hr
    cases hr
  bind ht _ _ := ht

theorem mem_of_mem_firsts {α : Type} {place : α → Nat} {seen : Places} {xs : List α} {x : α}
    (hx : x ∈ Places.firsts place seen xs) : x ∈ xs := by
  induction xs generalizing seen with
  | nil => exact hx
  | cons y ys ih =>
    rw [Places.firsts] at hx
    split at hx
    · exact List.mem_cons_of_mem y (ih hx)
    · rcases List.mem_cons.1 hx with rfl | hx
      · exact List.mem_cons_self
      · exact List.mem_cons_of_mem y (ih hx)

theorem thread_of_mem_pass {w u : Walker} {joint : Spot} (hu : u ∈ w.pass joint) :
    u.thread = w.thread := by
  unfold Walker.pass at hu
  split at hu
  · cases hu
  · rw [List.mem_singleton.1 hu]

/-! ## Rounds -/

section

variable {P Q : Thread → Prop} {body : Nat → Walker → List Walker} {one : Walker → List Walker}

theorem inTurn_leads (leads : ∀ i, Leads P Q (body i)) (back : ∀ t, Q t → P t) {n i : Nat}
    {ws : List Walker} (hw : ∀ w ∈ ws, P w.thread) (skip : n = 0 → ∀ w ∈ ws, Q w.thread) :
    ∀ u ∈ inTurn body n i ws, Q u.thread := by
  induction n generalizing i ws with
  | zero =>
    cases ws with
    | nil => intro u hu; cases hu
    | cons w ws => exact skip rfl
  | succ n ih =>
    cases ws with
    | nil => intro u hu; cases hu
    | cons w ws =>
      have round : ∀ u ∈ Walker.firsts ((w :: ws).flatMap (body i)), Q u.thread := by
        intro u hu
        obtain ⟨v, hv, hu⟩ := List.mem_flatMap.1 (mem_of_mem_firsts hu)
        exact leads i v (hw v hv) u hu
      exact ih (fun u hu => back _ (round u hu)) fun _ => round

theorem atMost_leads (leads : ∀ i, Leads Q Q (body i)) {greedy : Bool} {n i : Nat}
    {ways : List (Bool × Walker)} (hw : ∀ w ∈ ways, Q w.2.thread) :
    ∀ u ∈ atMost body greedy n i ways, Q u.thread := by
  have stop (ways : List (Bool × Walker)) (hw : ∀ w ∈ ways, Q w.2.thread) :
      ∀ u ∈ Walker.firsts (ways.map (·.2)), Q u.thread := by
    intro u hu
    obtain ⟨w, hw', rfl⟩ := List.mem_map.1 (mem_of_mem_firsts hu)
    exact hw w hw'
  induction n generalizing i ways with
  | zero => exact stop ways hw
  | succ n ih =>
    rw [atMost]
    split
    · apply ih
      intro v hv
      obtain ⟨⟨goesOn, w⟩, hw', hv⟩ := List.mem_flatMap.1 (mem_of_mem_firsts hv)
      have here : Q w.thread := hw _ hw'
      dsimp only at hv
      split at hv
      · rcases mem_prefer.1 hv with hv | hv
        · obtain ⟨u, hu, rfl⟩ := List.mem_map.1 hv
          exact leads i w here u hu
        · rw [List.mem_singleton.1 hv]
          exact here
      · rw [List.mem_singleton.1 hv]
        exact here
    · exact stop ways hw

/-- Every outcome of the rounds so far has the property. -/
def Rounds.All (Q : Thread → Prop) (r : Rounds) : Prop :=
  ∀ u ∈ r.outcomes, Q u.thread

theorem all_unlessDone {wanted : Places} {more : Rounds → Rounds} {r : Rounds} (hr : r.All Q)
    (hm : (more r).All Q) : (Rounds.unlessDone wanted more r).All Q := by
  unfold Rounds.unlessDone
  split
  · exact hr
  · exact hm

theorem all_note {w : Walker} {r : Rounds} (hw : Q w.thread) (hr : r.All Q) : (r.note w).All Q := by
  intro u hu
  rcases List.mem_cons.1 hu with rfl | hu
  · exact hw
  · exact hr u hu

theorem all_foldl {f : Rounds → Walker → Rounds} {ws : List Walker}
    (step : ∀ w ∈ ws, ∀ r : Rounds, r.All Q → (f r w).All Q) {r : Rounds} (hr : r.All Q) :
    (ws.foldl f r).All Q := by
  induction ws generalizing r with
  | nil => exact hr
  | cons w ws ih =>
    exact ih (fun u hu => step u (List.mem_cons_of_mem w hu)) (step w List.mem_cons_self r hr)

/-- Entering and leaving a round changes nothing about a thread. -/
def Stands (f : Walker → List Walker) : Prop :=
  ∀ w, ∀ u ∈ f w, u.thread = w.thread

theorem stands_pass (joint : Spot) : Stands (·.pass joint) :=
  fun _ _ => thread_of_mem_pass

theorem stands_singleton : Stands ([·]) :=
  fun _ _ hu => congrArg Walker.thread (List.mem_singleton.1 hu)

theorem all_rounds {wanted : Places} {enter leave : Walker → List Walker} {greedy : Bool}
    (leads : Leads P Q one) (back : ∀ t, Q t → P t) (entered : Stands enter) (left : Stands leave)
    {fuel : Nat} {w : Walker} {r : Rounds} (hw : P w.thread) (hr : r.All Q) :
    (rounds wanted enter one leave greedy fuel w r).All Q := by
  induction fuel generalizing w r with
  | zero => exact hr
  | succ fuel ih =>
    rw [rounds]
    split
    · exact hr
    · refine all_foldl ?_ hr
      intro u hu r hr
      have here : Q u.thread := by
        obtain ⟨v, hv, hu⟩ := List.mem_flatMap.1 hu
        obtain ⟨v', hv', hv⟩ := List.mem_flatMap.1 hv
        rw [left v u hu]
        exact leads v' (by rwa [entered w v' hv']) v hv
      have again (r : Rounds) (hr : r.All Q) :=
        @all_unlessDone Q wanted _ r hr (ih (back _ here) hr)
      have stop (r : Rounds) (hr : r.All Q) :=
        @all_unlessDone Q wanted (·.note u) r hr (all_note here hr)
      cases greedy with
      | true => exact stop _ (again r hr)
      | false => exact again _ (stop r hr)

theorem onceOrMore_leads {wanted : Places} {enter leave : Walker → List Walker} {greedy : Bool}
    (leads : Leads P Q one) (back : ∀ t, Q t → P t) (entered : Stands enter) (left : Stands leave) :
    Leads P Q (onceOrMore wanted enter one leave greedy) := by
  intro w hw u hu
  have nothing : ({} : Rounds).All Q := fun u hu => nomatch hu
  exact all_rounds leads back entered left hw nothing u (List.mem_reverse.1 (mem_of_mem_firsts hu))

theorem optional_leads {joint : Spot} {greedy : Bool} (leads : Leads P Q one)
    (skip : ∀ t, P t → Q t) : Leads P Q (optional one joint greedy) := by
  intro w hw u hu
  obtain ⟨v, hv, hu⟩ := List.mem_flatMap.1 hu
  rw [thread_of_mem_pass hu]
  rcases mem_prefer.1 (mem_of_mem_firsts hv) with hv | hv
  · exact leads w hw v hv
  · rw [List.mem_singleton.1 hv]
    exact skip _ hw

theorem anyNumber_leads {joint : Spot} {greedy : Bool} (leads : Leads P Q one)
    (back : ∀ t, Q t → P t) (skip : ∀ t, P t → Q t) : Leads P Q (anyNumber one joint greedy) := by
  intro w hw u hu
  obtain ⟨v, hv, hu⟩ := List.mem_flatMap.1 hu
  have hv : P v.thread := by rwa [thread_of_mem_pass hv]
  rcases mem_prefer.1 (mem_of_mem_firsts hu) with hu | hu
  · exact onceOrMore_leads leads back stands_singleton (stands_pass joint) v hv u hu
  · rw [List.mem_singleton.1 hu]
    exact skip _ hv

theorem repeats_some (wanted : Places) (body : Nat → Walker → List Walker)
    (mayTakeNothing greedy : Bool) (spot : Spot) (least m : Nat) (w : Walker) :
    repeats wanted body mayTakeNothing greedy spot least (some m) w =
      if m ≤ least then inTurn body least 0 [w]
      else (atMost body greedy (m - least) least ((inTurn body least 0 [w]).map (true, ·))).flatMap
        (·.pass (1 :: spot)) := by
  cases least <;> rfl

/-- A repetition leads where one round leads, unless it may be left out. -/
theorem repeats_leads (leads : ∀ i, Leads P Q (body i)) (back : ∀ t, Q t → P t) {least : Nat}
    (skip : least = 0 → ∀ t, P t → Q t) {wanted : Places} {mayTakeNothing greedy : Bool} {spot : Spot}
    {most : Option Nat} : Leads P Q (repeats wanted body mayTakeNothing greedy spot least most) := by
  intro w hw u hu
  have again (i : Nat) : Leads P Q (onceOrMore wanted (·.pass (0 :: spot)) (body i) ([·]) greedy) :=
    onceOrMore_leads (leads i) back (stands_pass _) stands_singleton
  cases most with
  | some m =>
    have turns : ∀ u ∈ inTurn body least 0 [w], Q u.thread :=
      inTurn_leads leads back (by simpa using hw) fun zero => by simpa using skip zero _ hw
    rw [repeats_some] at hu
    split at hu
    · exact turns u hu
    · obtain ⟨v, hv, hu⟩ := List.mem_flatMap.1 hu
      rw [thread_of_mem_pass hu]
      refine atMost_leads (fun i w hw u hu => leads i w (back _ hw) u hu) ?_ v hv
      intro way hway
      obtain ⟨v, hv, rfl⟩ := List.mem_map.1 hway
      exact turns v hv
  | none =>
    cases least with
    | zero =>
      unfold repeats at hu
      dsimp only at hu
      split at hu
      · exact optional_leads (again 0) (skip rfl) w hw u hu
      · exact anyNumber_leads (leads 0) back (skip rfl) w hw u hu
    | succ n =>
      obtain ⟨v, hv, hu⟩ := List.mem_flatMap.1 (mem_of_mem_firsts hu)
      have within : ∀ v ∈ inTurn body n 0 [w], P v.thread :=
        inTurn_leads (fun i w hw u hu => back _ (leads i w hw u hu)) (fun _ ht => ht)
          (by simpa using hw) fun _ => by simpa using hw
      exact again n v (within v hv) u hu

end

/-! ## Following

`body` follows one round to one of the given ends. -/

/-- From a thread with one property following leads to a thread with another. -/
def LeadsOn (P Q : Thread → Prop) (f : Thread → Option Thread) : Prop :=
  ∀ t, P t → ∀ u, f t = some u → Q u

section

variable {P Q : Thread → Prop} {body : Places → Thread → Option Thread}

theorem followAll_leads (leads : ∀ ends, LeadsOn P Q (body ends)) (back : ∀ t, Q t → P t)
    {list : List Places} (skip : list = [] → ∀ t, P t → Q t) : LeadsOn P Q (followAll body list) := by
  induction list with
  | nil =>
    intro t ht u hu
    cases hu
    exact skip rfl t ht
  | cons ends later ih =>
    intro t ht u hu
    obtain ⟨v, hv, hu⟩ := Option.bind_eq_some_iff.1 hu
    have here := leads ends t ht v hv
    cases later with
    | nil =>
      cases hu
      exact here
    | cons next later => exact ih (fun h => nomatch h) v (back v here) u hu

theorem followSome_leads (leads : ∀ ends, LeadsOn Q Q (body ends)) {round : Places → Places}
    {ends : Places} {greedy : Bool} {list : List Places} :
    LeadsOn Q Q (followSome body round ends greedy list) := by
  induction list with
  | nil =>
    intro t ht u hu
    cases hu
    exact ht
  | cons next later ih =>
    intro t ht u hu
    rw [followSome] at hu
    split at hu
    · obtain ⟨v, hv, hu⟩ := Option.bind_eq_some_iff.1 hu
      exact ih v (leads next t ht v hv) u hu
    · cases hu
      exact ht

theorem followMany_leads {one : Thread → Option Thread} (leads : LeadsOn Q Q one)
    {onward ends : Places} {greedy : Bool} {fuel : Nat} :
    LeadsOn Q Q (followMany one onward ends greedy fuel) := by
  induction fuel with
  | zero =>
    intro t ht u hu
    cases hu
    exact ht
  | succ fuel ih =>
    intro t ht u hu
    rw [followMany] at hu
    split at hu
    · obtain ⟨v, hv, hu⟩ := Option.bind_eq_some_iff.1 hu
      exact ih v (leads t ht v hv) u hu
    · cases hu
      exact ht

end

namespace Node

/-! ## Nodes -/

/-- From threads with one property every way through the node leads to threads with another. -/
structure Leads (P Q : Thread → Prop) (a : Node) : Prop where
  walk : ∀ spot, Regex.Leads P Q (a.walk spot)
  follow : ∀ x ends, LeadsOn P Q (a.follow x ends)

section

variable {P Q R : Thread → Prop} {a b : Node}

theorem leads_look {l : Look} (holds : ∀ t, P t → t.satisfies l = true → Q t) :
    (look l).Leads P Q where
  walk spot w hw u hu := by
    rw [Node.walk] at hu
    split at hu
    · rw [List.mem_singleton.1 hu]
      exact holds _ hw ‹_›
    · cases hu
  follow x ends t ht u hu := by
    rw [Node.follow] at hu
    split at hu
    · cases hu
      exact holds t ht ‹_›
    · cases hu

theorem leads_seq (ha : a.Leads P Q) (hb : b.Leads Q R) : (seq a b).Leads P R where
  walk spot w hw u hu := by
    obtain ⟨v, hv, hu⟩ := List.mem_flatMap.1 (mem_of_mem_firsts hu)
    exact hb.walk _ v (ha.walk _ w hw v hv) u hu
  follow x ends t ht u hu := by
    obtain ⟨v, hv, hu⟩ := Option.bind_eq_some_iff.1 hu
    exact hb.follow x _ v (ha.follow x _ t ht v hv) u hu

theorem leads_alt (ha : a.Leads P Q) (hb : b.Leads P Q) : (alt a b).Leads P Q where
  walk spot w hw u hu := by
    obtain ⟨v, hv, hu⟩ := List.mem_flatMap.1 hu
    rw [thread_of_mem_pass hu]
    rcases List.mem_append.1 (mem_of_mem_firsts hv) with hv | hv
    · exact ha.walk _ w hw v hv
    · exact hb.walk _ w hw v hv
  follow x ends t ht u hu := by
    rw [Node.follow] at hu
    split at hu
    · exact ha.follow x _ t ht u hu
    · exact hb.follow x _ t ht u hu

theorem leads_group (kept : Kept Q) (ha : a.Leads P Q) (i : Nat) (name : Option String) :
    (group i name a).Leads P Q where
  walk spot w hw u hu := by
    obtain ⟨v, hv, rfl⟩ := List.mem_map.1 hu
    exact kept.bind (ha.walk _ w hw v hv) i w.index
  follow x ends t ht u hu := by
    obtain ⟨v, hv, rfl⟩ := Option.map_eq_some_iff.1 hu
    exact kept.bind (ha.follow x _ t ht v hv) i t.index

/-- A repetition leads where its body leads, unless it may be left out. -/
theorem leads_rep (ha : a.Leads P Q) (back : ∀ t, Q t → P t) {least : Nat}
    (skip : least = 0 → ∀ t, P t → Q t) (most : Option Nat) (greedy : Bool) :
    (rep least most greedy a).Leads P Q where
  walk spot := repeats_leads (fun i => ha.walk _) back skip
  follow x ends t ht u hu := by
    have keep (ends : Places) : LeadsOn Q Q (a.follow x ends) :=
      fun t ht u hu => ha.follow x ends t (back t ht) u hu
    have required (ends : Places) :
        LeadsOn P Q (followAll (a.follow x) (Places.history (a.origins x) least ends)) := by
      apply followAll_leads (ha.follow x) back
      intro empty
      cases least with
      | zero => exact skip rfl
      | succ n =>
        rw [Places.history_succ] at empty
        cases empty
    cases most with
    | some m =>
      obtain ⟨v, hv, hu⟩ := Option.bind_eq_some_iff.1 hu
      exact followSome_leads keep v (required _ t ht v hv) u hu
    | none =>
      unfold Node.follow at hu
      dsimp only at hu
      split at hu
      · obtain ⟨w, hw, rfl⟩ := Option.map_eq_some_iff.1 hu
        have found := List.mem_of_find?_eq_some hw
        exact repeats_leads (fun i => ha.walk [i + 2]) back skip ⟨t, []⟩ ht w found
      · obtain ⟨v, hv, hu⟩ := Option.bind_eq_some_iff.1 hu
        exact followMany_leads (keep _) v (required _ t ht v hv) u hu

/-- What steps and bindings keep, every node keeps. -/
theorem leads_of_kept (kept : Kept P) (a : Node) : a.Leads P P := by
  induction a with
  | empty =>
    refine ⟨fun spot w hw u hu => ?_, fun x ends t ht u hu => ?_⟩
    · rw [List.mem_singleton.1 hu]
      exact hw
    · cases hu
      exact ht
  | set s =>
    refine ⟨fun spot w hw u hu => ?_, fun x ends t ht u hu => kept.step ht hu⟩
    obtain ⟨t, ht, rfl⟩ := List.mem_map.1 hu
    exact kept.step hw (Option.mem_toList.1 ht)
  | look l => exact leads_look fun _ ht _ => ht
  | seq a b iha ihb => exact leads_seq iha ihb
  | alt a b iha ihb => exact leads_alt iha ihb
  | group i name a ih => exact leads_group kept ih i name
  | rep least most greedy a ih => exact leads_rep ih (fun _ ht => ht) (fun _ _ ht => ht) most greedy

/-- From behind the start of the text a node that is tied to the start leads nowhere. -/
theorem leads_of_startsAtStart (h : a.startsAtStart = true) :
    a.Leads (·.before ≠ none) (fun _ => False) := by
  induction a with
  | empty | set => cases h
  | look l =>
    obtain rfl : l = .start := by simpa [startsAtStart] using h
    refine leads_look fun t ht holds => ht ?_
    simpa [Thread.satisfies, Look.holdsBetween] using holds
  | seq a b iha ihb =>
    rw [startsAtStart, Bool.or_eq_true, Bool.and_eq_true] at h
    rcases h with h | ⟨-, h⟩
    · exact leads_seq (iha h) (leads_of_kept kept_false b)
    · exact leads_seq (leads_of_kept kept_behind a) (ihb h)
  | alt a b iha ihb =>
    rw [startsAtStart, Bool.and_eq_true] at h
    exact leads_alt (iha h.1) (ihb h.2)
  | group i name a ih => exact leads_group kept_false (ih h) i name
  | rep least most greedy a ih =>
    rw [startsAtStart, Bool.and_eq_true, decide_eq_true_eq] at h
    exact leads_rep (ih h.2) (fun _ ht => ht.elim) (fun zero => by omega) most greedy

/-- A node that is tied to the end of the text leads nowhere else. -/
theorem leads_of_stopsAtStop (h : a.stopsAtStop = true) :
    a.Leads (fun _ => True) (·.rest = []) := by
  induction a with
  | empty | set => cases h
  | look l =>
    obtain rfl : l = .stop := by simpa [stopsAtStop] using h
    exact leads_look fun t _ holds => by simpa [Thread.satisfies, Look.holdsBetween] using holds
  | seq a b iha ihb =>
    rw [stopsAtStop, Bool.or_eq_true, Bool.and_eq_true] at h
    rcases h with h | ⟨-, h⟩
    · exact leads_seq (leads_of_kept kept_true a) (ihb h)
    · exact leads_seq (iha h) (leads_of_kept kept_done b)
  | alt a b iha ihb =>
    rw [stopsAtStop, Bool.and_eq_true] at h
    exact leads_alt (iha h.1) (ihb h.2)
  | group i name a ih => exact leads_group kept_done (ih h) i name
  | rep least most greedy a ih =>
    rw [stopsAtStop, Bool.and_eq_true, decide_eq_true_eq] at h
    exact leads_rep (ih h.2) (fun _ _ => trivial) (fun zero => by omega) most greedy

end

/-! ## Searching -/

/-- What a search finds, following from some place of the text has found. -/
theorem exists_of_searchFrom {node : Node} {x : Concordance} {starts : Places} {text : List Char}
    {rest passed : List Char} (split : text = passed ++ rest) {start : Nat} {u : Thread}
    (h : node.searchFrom x starts passed.length passed.getLast? rest = some (start, u)) :
    ∃ t : Thread, t.In text ∧ t.index = start ∧ node.follow x x.everywhere t = some u := by
  induction rest generalizing passed with
  | nil =>
    rw [searchFrom] at h
    split at h
    · obtain ⟨v, hv, he⟩ := Option.map_eq_some_iff.1 h
      cases he
      exact ⟨_, ⟨passed, split, rfl, rfl⟩, rfl, hv⟩
    · cases h
  | cons c rest ih =>
    rw [searchFrom] at h
    split at h
    · obtain ⟨v, hv, he⟩ := Option.map_eq_some_iff.1 h
      cases he
      exact ⟨_, ⟨passed, split, rfl, rfl⟩, rfl, hv⟩
    · have whole : text = (passed ++ [c]) ++ rest := by simpa using split
      exact ih whole (by simpa using h)

/-- A match of a node that is tied at both ends covers the whole text. -/
theorem search_of_tied {node : Node} (front : node.startsAtStart = true)
    (back : node.stopsAtStop = true) {text : List Char} {start : Nat} {u : Thread}
    (h : node.search text = some (start, u)) : start = 0 ∧ u.index = text.length := by
  have whole : text = [] ++ text := rfl
  obtain ⟨t, ht, rfl, hu⟩ := exists_of_searchFrom whole h
  have within := (leads_of_kept (kept_in text) node).follow _ _ t ht u hu
  constructor
  · rw [← ht.before_eq_none]
    apply Classical.byContradiction
    intro behind
    exact (leads_of_startsAtStart front).follow _ _ t behind u hu
  · rw [within.index_eq_length]
    exact (leads_of_stopsAtStop back).follow _ _ t trivial u hu

end Node

end Routing.Regex
