import Routing.Proofs.Router.Parts

/-!
# Redirects

A chain may ask for a redirect, whose cycle may end with another one. A command follows five of them at most,
and its depth is as before when it has ended.

* `head_legsWithin`, `next_legsWithin`: which redirects are followed
* `end_of_followWithin`, `dropped_followWithin`: what is left when they have ended
* `redirects_bounded`: the redirects of a command, for every router that there can be
-/
namespace Routing

open Router

variable {L : Type} [Host L]

theorem part_leg (limit : Nat) (l : Leg L) :
    Part limit ((visit limit l.target).start l.before) (l.trace limit) (l.before.setPath l.target)
      l.before.routes :=
  part_visit limit l.target l.before

/-! ## The redirects that are followed -/

theorem legsWithin_succ (limit budget : Nat) (target : String) (r : Router L) :
    legsWithin limit (budget + 1) (some target) r = ⟨target, r.redirected target⟩ ::
      (visit limit target).thereafter (legsWithin limit budget) (r.redirected target) := by
  simp only [legsWithin]

theorem length_legsWithin (limit budget : Nat) (asked : Option String) (r : Router L) :
    (legsWithin limit budget asked r).length ≤ budget := by
  induction budget generalizing asked r with
  | zero => cases asked <;> simp [legsWithin]
  | succ budget ih =>
    cases asked with
    | none => simp [legsWithin]
    | some target =>
      rw [legsWithin_succ, List.length_cons, Operation.thereafter]
      split
      · exact Nat.succ_le_succ (ih _ _)
      · exact Nat.succ_le_succ (Nat.zero_le budget)

/-- Each redirect that is followed is one deeper than the one before. -/
theorem legsWithin_settings {limit budget : Nat} {asked : Option String} {r : Router L} {i : Nat}
    {l : Leg L} (h : (legsWithin limit budget asked r)[i]? = some l) :
    l.before.redirectDepth = r.redirectDepth + i + 1 ∧ l.before.routes = r.routes ∧
      l.before.options = r.options := by
  induction budget generalizing asked r i with
  | zero => cases asked <;> simp [legsWithin] at h
  | succ budget ih =>
    cases asked with
    | none => simp [legsWithin] at h
    | some target =>
      rw [legsWithin_succ] at h
      cases i with
      | zero =>
        obtain rfl := Option.some.inj h
        exact ⟨rfl, rfl, rfl⟩
      | succ i =>
        rw [List.getElem?_cons_succ, Operation.thereafter] at h
        split at h
        · next asked' r' ended =>
          obtain ⟨depth, routes, options⟩ := ih h
          have keeps := (part_visit limit target _).keeps ended
          refine ⟨?_, routes.trans keeps.routes, options.trans keeps.options⟩
          rw [depth, keeps.redirectDepth]
          simp only [setPath, redirected]
          omega
        · cases h

theorem head_legsWithin {limit budget : Nat} {asked : Option String} {r : Router L} {l : Leg L} :
    (legsWithin limit budget asked r)[0]? = some l ↔
      0 < budget ∧ asked = some l.target ∧ l.before = r.redirected l.target := by
  cases budget with
  | zero => cases asked <;> simp [legsWithin]
  | succ budget =>
    cases asked with
    | none => simp [legsWithin]
    | some target =>
      rw [legsWithin_succ, List.getElem?_cons_zero, Option.some.injEq]
      constructor
      · rintro rfl
        exact ⟨Nat.succ_pos budget, rfl, rfl⟩
      · rintro ⟨-, same, before⟩
        obtain rfl := Option.some.inj same
        cases l
        exact congrArg _ before.symm

/-- A redirect is followed if the visit before it ended with it, as long as the budget lasts. -/
theorem next_legsWithin {limit budget : Nat} {asked : Option String} {r : Router L} {j : Nat} {l : Leg L} :
    (legsWithin limit budget asked r)[j + 1]? = some l ↔
      j + 1 < budget ∧ ∃ p r', (legsWithin limit budget asked r)[j]? = some p ∧
        (visit limit p.target).start p.before = some (.ok (some l.target), r') ∧
        l.before = r'.redirected l.target := by
  induction budget generalizing asked r j with
  | zero => cases asked <;> simp [legsWithin]
  | succ budget ih =>
    cases asked with
    | none => simp [legsWithin]
    | some target =>
      rw [legsWithin_succ, List.getElem?_cons_succ, Operation.thereafter]
      cases ended : (visit limit target).start (r.redirected target) with
      | none => cases j <;> simp [ended]
      | some o =>
        obtain ⟨e | asked', r'⟩ := o
        · cases j <;> simp [ended]
        · cases j with
          | zero =>
            rw [head_legsWithin]
            constructor
            · rintro ⟨room, rfl, before⟩
              exact ⟨Nat.succ_lt_succ room, _, r', rfl, ended, before⟩
            · rintro ⟨room, p, r'', first, visited, before⟩
              obtain rfl := Option.some.inj first
              obtain ⟨same, rfl⟩ := Prod.mk.inj (Option.some.inj (ended.symm.trans visited))
              exact ⟨Nat.lt_of_succ_lt_succ room, Except.ok.inj same, before⟩
          | succ j => simp [ih]

/-! ## What is left when they have ended -/

theorem end_of_followWithin {limit budget : Nat} {asked : Option String} {r r' : Router L}
    {out : Except RouterError Unit}
    (h : (followWithin limit budget asked).start r = some (out, r')) :
    r'.redirectDepth = r.redirectDepth ∧
      r'.location = (legsWithin limit budget asked r).foldl
        (fun location l => Host.setPath r.options l.target location) r.location := by
  induction budget generalizing asked r r' out with
  | zero =>
    cases asked with
    | none =>
      obtain ⟨-, rfl⟩ := Prod.mk.inj (Option.some.inj h)
      exact ⟨rfl, rfl⟩
    | some target =>
      obtain ⟨-, rfl⟩ := Prod.mk.inj (Option.some.inj h)
      exact ⟨rfl, rfl⟩
  | succ budget ih =>
    cases asked with
    | none =>
      obtain ⟨-, rfl⟩ := Prod.mk.inj (Option.some.inj h)
      exact ⟨rfl, rfl⟩
    | some target =>
      have started : (followWithin limit (budget + 1) (some target)).start r =
          ((visit limit target >>= followWithin limit budget).start (r.redirected target)).map fun o =>
            (o.1, { o.2 with redirectDepth := o.2.redirectDepth - 1 }) := rfl
      rw [started, Operation.start_bind] at h
      rw [legsWithin_succ, List.foldl_cons, Operation.thereafter]
      have visit := part_visit limit target (r.redirected target)
      obtain ⟨⟨out', r₂⟩, followed, same⟩ := Option.map_eq_some_iff.1 h
      obtain ⟨-, rfl⟩ := Prod.mk.inj same
      cases ended : (Router.visit limit target).start (r.redirected target) with
      | none => simp [ended] at followed
      | some o =>
        obtain ⟨e | asked', r₁⟩ := o
        · have keeps := visit.keeps ended
          rw [ended] at followed
          obtain ⟨-, rfl⟩ := Prod.mk.inj (Option.some.inj followed)
          exact ⟨congrArg (· - 1) keeps.redirectDepth, keeps.location⟩
        · have keeps := visit.keeps ended
          rw [ended] at followed
          obtain ⟨depth, location⟩ := ih followed
          refine ⟨congrArg (· - 1) (depth.trans keeps.redirectDepth), location.trans ?_⟩
          rw [keeps.options, keeps.location]
          rfl

/-- A redirect beyond the budget is dropped, and the location stays. -/
theorem dropped_followWithin {limit budget : Nat} {asked : Option String} {r : Router L} {i : Nat} {l : Leg L}
    (h : (legsWithin limit budget asked r)[i]? = some l) (last : i + 1 = budget) {target : String}
    {r₁ : Router L} (ended : (visit limit l.target).start l.before = some (.ok (some target), r₁)) :
    ∃ r', (followWithin limit budget asked).start r = some (.ok (), r') ∧
      r'.location = r₁.location := by
  induction budget generalizing asked r i with
  | zero => cases last
  | succ budget ih =>
    cases asked with
    | none => simp [legsWithin] at h
    | some first =>
      have started : (followWithin limit (budget + 1) (some first)).start r =
          ((visit limit first >>= followWithin limit budget).start (r.redirected first)).map fun o =>
            (o.1, { o.2 with redirectDepth := o.2.redirectDepth - 1 }) := rfl
      rw [started, Operation.start_bind]
      cases i with
      | zero =>
        rw [legsWithin_succ] at h
        obtain rfl := Option.some.inj h
        obtain rfl : budget = 0 := by omega
        rw [ended]
        exact ⟨_, rfl, rfl⟩
      | succ i =>
        rw [legsWithin_succ, List.getElem?_cons_succ, Operation.thereafter] at h
        split at h
        · next asked' r₀ visited =>
          obtain ⟨r', followed, location⟩ := ih h (by omega)
          rw [visited]
          simp only [Option.bind_some, followed]
          exact ⟨_, rfl, location⟩
        · cases h

/-! ## The redirects of a command -/

section
variable {limit : Nat} {c : Command L} {r : Router L}

theorem legs_of_own {asked : Option String} {r₁ : Router L}
    (ended : (c.own limit).start r = some (.ok asked, r₁)) :
    c.legs limit r = legsWithin limit (maxRedirectDepth - r.redirectDepth) asked r₁ ∧
      (c.perform limit).start r =
        (followWithin limit (maxRedirectDepth - r.redirectDepth) asked).start r₁ := by
  have depth : r₁.redirectDepth = r.redirectDepth :=
    ((part_own limit c r).keeps ended).redirectDepth.trans (c.setting_facts r).1
  rw [Command.start_perform, Operation.start_bind, Command.legs, Operation.thereafter, ended, ← depth]
  exact ⟨rfl, rfl⟩

theorem exists_of_leg {i : Nat} {l : Leg L} (h : (c.legs limit r)[i]? = some l) :
    ∃ asked r₁, (c.own limit).start r = some (.ok asked, r₁) ∧
      (legsWithin limit (maxRedirectDepth - r.redirectDepth) asked r₁)[i]? = some l := by
  cases ended : (c.own limit).start r with
  | none => simp [Command.legs, Operation.thereafter, ended] at h
  | some o =>
    obtain ⟨e | asked, r₁⟩ := o
    · simp [Command.legs, Operation.thereafter, ended] at h
    · rw [(legs_of_own ended).1] at h
      exact ⟨asked, r₁, rfl, h⟩

/-- Without a turn there is no redirect. -/
theorem legs_of_no_turn (h : turns (c.ownTrace limit r) = []) : c.legs limit r = [] := by
  cases first : (c.legs limit r)[0]? with
  | none => simpa using first
  | some l =>
    obtain ⟨asked, r₁, ended, here⟩ := exists_of_leg first
    obtain ⟨-, rfl, -⟩ := head_legsWithin.1 here
    obtain ⟨t, ht, -⟩ := (part_own limit c r).asks.1 ended
    rw [h] at ht
    cases ht

theorem length_legs (limit : Nat) (c : Command L) (r : Router L) :
    (c.legs limit r).length ≤ maxRedirectDepth := by
  rw [Command.legs, Operation.thereafter]
  split
  · exact Nat.le_trans (length_legsWithin ..) (Nat.sub_le ..)
  · exact Nat.zero_le _

theorem leg_settings {i : Nat} {l : Leg L} (h : (c.legs limit r)[i]? = some l) :
    l.before.redirectDepth = r.redirectDepth + i + 1 ∧
      l.before.routes = r.routes ++ (c.route? r).toList := by
  obtain ⟨asked, r₁, ended, here⟩ := exists_of_leg h
  obtain ⟨depth, routes, -⟩ := legsWithin_settings here
  have keeps := (part_own limit c r).keeps ended
  obtain ⟨depth', -, routes'⟩ := c.setting_facts r
  exact ⟨by rw [depth, keeps.redirectDepth, depth'], routes.trans (keeps.routes.trans routes')⟩

theorem mem_trace {o : Occasion L} : o ∈ c.trace limit r ↔ o ∈ c.ownTrace limit r ∨
    ∃ (i : Nat) (l : Leg L), (c.legs limit r)[i]? = some l ∧ o ∈ l.trace limit := by
  simp only [Command.trace, List.mem_append, List.mem_flatMap]
  refine or_congr_right ?_
  constructor
  · rintro ⟨l, hl, ho⟩
    obtain ⟨i, hi⟩ := List.getElem?_of_mem hl
    exact ⟨i, l, hi, ho⟩
  · rintro ⟨i, l, hl, ho⟩
    exact ⟨l, List.mem_of_getElem? hl, ho⟩

theorem depth_own {o : Occasion L} (h : o ∈ c.ownTrace limit r) :
    o.before.redirectDepth = r.redirectDepth :=
  ((part_own limit c r).inside o h).redirectDepth.trans (c.setting_facts r).1

theorem depth_leg {i : Nat} {l : Leg L} (h : (c.legs limit r)[i]? = some l) {o : Occasion L}
    (ho : o ∈ l.trace limit) : o.before.redirectDepth = r.redirectDepth + i + 1 :=
  ((part_leg limit l).inside o ho).redirectDepth.trans (leg_settings h).1

theorem followed_iff (flat : r.redirectDepth = 0) (i : Nat) (l : Leg L) :
    (c.legs limit r)[i]? = some l ↔ i < maxRedirectDepth ∧
      ∃ t ∈ turns (c.trace limit r), t.before.redirectDepth = i ∧
        ∃ r', t.asks? limit = some (l.target, r') ∧ l.before = r'.redirected l.target := by
  constructor
  · intro h
    obtain ⟨asked, r₁, ended, here⟩ := exists_of_leg h
    rw [flat] at here
    cases i with
    | zero =>
      obtain ⟨room, rfl, before⟩ := head_legsWithin.1 here
      obtain ⟨t, ht, asks⟩ := (part_own limit c r).asks.1 ended
      rw [mem_turns] at ht
      exact ⟨room, t, mem_turns.2 (mem_trace.2 (.inl ht)), (depth_own ht).trans flat, r₁, asks, before⟩
    | succ j =>
      obtain ⟨room, p, r', earlier, visited, before⟩ := next_legsWithin.1 here
      obtain ⟨t, ht, asks⟩ := (part_leg limit p).asks.1 visited
      rw [mem_turns] at ht
      have hp : (c.legs limit r)[j]? = some p := by
        rw [(legs_of_own ended).1, flat]
        exact earlier
      have depth : t.before.redirectDepth = r.redirectDepth + j + 1 := depth_leg hp ht
      rw [flat, Nat.zero_add] at depth
      exact ⟨room, t, mem_turns.2 (mem_trace.2 (.inr ⟨j, p, hp, ht⟩)), depth, r', asks, before⟩
  · rintro ⟨room, t, ht, depth, r', asks, before⟩
    obtain ht | ⟨j, p, hp, ht⟩ := mem_trace.1 (mem_turns.1 ht)
    · obtain rfl : i = 0 := depth.symm.trans ((depth_own ht).trans flat)
      have ended := (part_own limit c r).asks.2 ⟨t, mem_turns.2 ht, asks⟩
      rw [(legs_of_own ended).1, flat]
      exact head_legsWithin.2 ⟨room, rfl, before⟩
    · obtain rfl : i = j + 1 := by
        have deeper : t.before.redirectDepth = r.redirectDepth + j + 1 := depth_leg hp ht
        rw [← depth, deeper, flat, Nat.zero_add]
      have visited := (part_leg limit p).asks.2 ⟨t, mem_turns.2 ht, asks⟩
      obtain ⟨asked, r₁, ended, here⟩ := exists_of_leg hp
      rw [flat] at here
      rw [(legs_of_own ended).1, flat]
      exact next_legsWithin.2 ⟨room, p, r', here, visited, before⟩

theorem dropped_of_asks (flat : r.redirectDepth = 0) {t : Turn L} (ht : t ∈ turns (c.trace limit r))
    (deep : t.before.redirectDepth = maxRedirectDepth) {target : String} {r' : Router L}
    (asks : t.asks? limit = some (target, r')) :
    ∃ r'', (c.perform limit).start r = some (.ok (), r'') ∧ r''.location = t.before.location := by
  obtain ht | ⟨j, p, hp, ht⟩ := mem_trace.1 (mem_turns.1 ht)
  · have depth := (depth_own ht).trans flat
    exact absurd (depth.symm.trans deep) (by decide)
  · have depth := depth_leg hp ht
    have visited := (part_leg limit p).asks.2 ⟨t, mem_turns.2 ht, asks⟩
    obtain ⟨asked, r₁, ended, here⟩ := exists_of_leg hp
    have last : j + 1 = maxRedirectDepth - r.redirectDepth := by
      have := depth.symm.trans deep
      rw [flat] at this ⊢
      omega
    obtain ⟨r'', followed, location⟩ := dropped_followWithin here last visited
    refine ⟨r'', (legs_of_own ended).2.trans followed, location.trans ?_⟩
    exact ((part_leg limit p).keeps visited).location.trans
      ((part_leg limit p).inside _ ht).location.symm

theorem end_of_perform {out : Except RouterError Unit} {r' : Router L}
    (h : (c.perform limit).start r = some (out, r')) : r'.redirectDepth = r.redirectDepth ∧
      r'.location = (c.legs limit r).foldl
        (fun location l => Host.setPath r.options l.target location) (c.setting r).location := by
  obtain ⟨depth, options, -⟩ := c.setting_facts r
  cases ended : (c.own limit).start r with
  | none =>
    rw [Command.start_perform, Operation.start_bind, ended] at h
    cases h
  | some o =>
    have keeps := (part_own limit c r).keeps ended
    obtain ⟨e | asked, r₁⟩ := o
    · rw [Command.start_perform, Operation.start_bind, ended] at h
      obtain ⟨-, rfl⟩ := Prod.mk.inj (Option.some.inj h)
      rw [Command.legs, Operation.thereafter, ended]
      exact ⟨keeps.redirectDepth.trans depth, keeps.location⟩
    · obtain ⟨legs, performed⟩ := legs_of_own ended
      obtain ⟨depth', location⟩ := end_of_followWithin (performed.symm.trans h)
      rw [keeps.options, options, keeps.location] at location
      rw [legs]
      exact ⟨depth'.trans (keeps.redirectDepth.trans depth), location⟩

theorem length_turns_legs {ls : List (Leg L)} {n : Nat}
    (h : ∀ l ∈ ls, (turns (Leg.trace limit l)).length ≤ n) :
    (turns (ls.flatMap (Leg.trace limit))).length ≤ ls.length * n := by
  induction ls with
  | nil => exact Nat.zero_le _
  | cons l ls ih =>
    rw [List.flatMap_cons, turns_append, List.length_append, List.length_cons, Nat.succ_mul,
      Nat.add_comm]
    exact Nat.add_le_add (ih fun l' h' => h l' (List.mem_cons_of_mem _ h')) (h l List.mem_cons_self)

end

/-- What is to be said of a command's redirects. -/
structure RedirectsBounded (limit : Nat) (c : Command L) (r : Router L) : Prop where
  /-- No redirect is being followed, neither before nor after. -/
  depth_before : r.redirectDepth = 0
  depth_after : ∀ out r', (c.perform limit).start r = some (out, r') → r'.redirectDepth = 0
  depth_inside : ∀ o ∈ c.trace limit r, o.before.redirectDepth ≤ maxRedirectDepth ∧
    ∀ r', o.after? limit = some r' → r'.redirectDepth = o.before.redirectDepth
  legs : (c.legs limit r).length ≤ maxRedirectDepth
  /-- The command evaluates its own routes, and all routes for each redirect. -/
  own_routes : (turns (c.ownTrace limit r)).map (·.route) <+: c.table r
  leg_routes : ∀ l ∈ c.legs limit r,
    (turns (l.trace limit)).map (·.route) <+: r.routes ++ (c.route? r).toList
  evaluations : (turns (c.trace limit r)).length ≤ (c.table r).length +
    maxRedirectDepth * (r.routes ++ (c.route? r).toList).length
  /-- A target is followed exactly if a turn ends with it and the depth is below the bound. -/
  followed : ∀ i l, (c.legs limit r)[i]? = some l ↔ i < maxRedirectDepth ∧
    ∃ t ∈ turns (c.trace limit r), t.before.redirectDepth = i ∧
      ∃ r', t.asks? limit = some (l.target, r') ∧ l.before = r'.redirected l.target
  /-- And a turn ends with it exactly if it is the latest request on a chain that the router ran, at the
  moment at which the run had come to its end without a failure. -/
  asked : ∀ t ∈ turns (c.trace limit r), ∀ target r', t.asks? limit = some (target, r') ↔
    ∃ e s, t.entrance? limit = some e ∧ e.ran = true ∧
      (Session.run limit t.id).start e.moment.session = some (.ok (), s) ∧
      (requestsOf t.id (t.requested limit)).getLast? = some target ∧
      r' = { e.moment with session := (s.takeRedirect t.id).2 }
  /-- At the bound, a request ends the command, which succeeds, and the location stays. -/
  dropped : ∀ t ∈ turns (c.trace limit r), t.before.redirectDepth = maxRedirectDepth →
    ∀ target r', t.asks? limit = some (target, r') →
      ∃ r'', (c.perform limit).start r = some (.ok (), r'') ∧ r''.location = t.before.location
  /-- Nothing else moves the location, or the current chain. -/
  location : ∀ out r', (c.perform limit).start r = some (out, r') → r'.location =
    (c.legs limit r).foldl (fun location l => Host.setPath r.options l.target location)
      (c.setting r).location
  current : ∀ out r', (c.perform limit).start r = some (out, r') →
    r'.current = ((entrances limit (c.trace limit r)).getLast?.map (·.id)).or r.current
  /-- Actions from outside neither move the location nor the current chain. -/
  outside : ∀ chain actions, c = .act chain actions → c.legs limit r = [] ∧
    ∀ out r', (c.perform limit).start r = some (out, r') →
      r'.location = r.location ∧ r'.current = r.current
  /-- The command ends if all that handlers and listeners do in the course of it ends. -/
  ends : (c.perform limit).start r = none ↔ ∃ o ∈ c.trace limit r, o.after? limit = none

theorem RedirectsBounded.of_flat {limit : Nat} {c : Command L} {r : Router L} (flat : r.redirectDepth = 0) :
    RedirectsBounded limit c r where
  depth_before := flat
  depth_after _ _ h := (end_of_perform h).1.trans flat
  depth_inside o ho := by
    refine ⟨?_, fun _ after => (Occasion.keeps after).redirectDepth⟩
    obtain ho | ⟨i, l, hl, ho⟩ := mem_trace.1 ho
    · rw [depth_own ho, flat]
      exact Nat.zero_le _
    · have here := (List.getElem?_eq_some_iff.1 hl).1
      have all := length_legs limit c r
      rw [depth_leg hl ho, flat]
      omega
  legs := length_legs limit c r
  own_routes := (part_own limit c r).routes
  leg_routes l hl := by
    obtain ⟨i, hi⟩ := List.getElem?_of_mem hl
    rw [← (leg_settings hi).2]
    exact (part_leg limit l).routes
  evaluations := by
    have own : (turns (c.ownTrace limit r)).length ≤ (c.table r).length := by
      simpa using (part_own limit c r).routes.length_le
    have legs : (turns ((c.legs limit r).flatMap (Leg.trace limit))).length ≤
        (c.legs limit r).length * (r.routes ++ (c.route? r).toList).length := by
      refine length_turns_legs fun l hl => ?_
      obtain ⟨i, hi⟩ := List.getElem?_of_mem hl
      rw [← (leg_settings hi).2]
      simpa using (part_leg limit l).routes.length_le
    rw [Command.trace, turns_append, List.length_append]
    exact Nat.add_le_add own (Nat.le_trans legs (Nat.mul_le_mul_right _ (length_legs limit c r)))
  followed := followed_iff flat
  asked _ _ _ _ := Turn.asks?_iff
  dropped _ ht deep _ _ asks := dropped_of_asks flat ht deep asks
  location _ _ h := (end_of_perform h).2
  current _ _ h := ((Tracks.perform limit c).ends h).current
  outside := by
    rintro chain actions rfl
    have still : (Command.act chain actions).legs limit r = [] := legs_of_no_turn rfl
    refine ⟨still, fun out r' h => ⟨?_, ?_⟩⟩
    · rw [(end_of_perform h).2, still]
      rfl
    · rw [((Tracks.perform limit (.act chain actions)).ends h).current, Command.trace, still]
      rfl
  ends := by
    rw [← (Tracks.perform limit c r).stuck_iff, Option.map_eq_none_iff]

theorem redirectDepth_serve {limit : Nat} {commands : List (Command L)} {r r' : Router L}
    (h : serve limit commands r = some r') : r'.redirectDepth = r.redirectDepth := by
  induction commands generalizing r with
  | nil =>
    obtain rfl := Option.some.inj h
    rfl
  | cons c rest ih =>
    obtain ⟨⟨out, r₁⟩, performed, served⟩ := Option.bind_eq_some_iff.1 h
    exact (ih served).trans (end_of_perform performed).1

/-- Whatever was asked of a router before, and whatever its handlers and listeners do: a command follows five
redirects at most, one for each latest request of a chain that was run without a failure, and leaves the depth
at which it found the router. -/
theorem redirects_bounded (options : RouterOptions) (location : L)
    (library : List (String × Handler)) (limit : Nat) (earlier : List (Command L)) (r : Router L)
    (reached : serve limit earlier (.hosted options location library) = some r) (c : Command L) :
    RedirectsBounded limit c r :=
  .of_flat (redirectDepth_serve reached)

/-- A chain that asks for its own path again and again leads through all redirects that there can be. -/
theorem redirects_bounded_loop :
    ∃ r, serve 10 [.register (.path "/a") [] [.navigate "/a"]]
        (.created {} (.memory (.opened "/")) []) = some r ∧
      RedirectsBounded 10 (.navigate "/a") r ∧ (Command.legs 10 (.navigate "/a") r).length = 5 := by
  have loop : (serve 10 [.register (.path "/a") [] [.navigate "/a"]]
      (.created {} (.memory (.opened "/")) [])).map
        (fun r => (Command.legs 10 (.navigate "/a") r).length) = some 5 := by decide +kernel
  obtain ⟨r, reached, five⟩ := Option.map_eq_some_iff.1 loop
  exact ⟨r, reached, redirects_bounded {} _ [] 10 _ r reached (.navigate "/a"), five⟩

end Routing
