import Mathlib.Data.List.Forall2
import Mathlib.Data.List.Induction
import Routing.Proofs.Session.Links

/-!
# Sessions that are alike

Two sessions in which the same was done to chains of other numbers, and of which one may have more chains than
the other and may have observed more.

* `Chain.Alike`, `Session.Alike`: alike up to the numbers of chains
* `Spread`: a list with more in it than another one
* `SlotsAlike`: slots that hold the same up to the numbers of chains
* `Session.Alike.modify`, `Session.Alike.create`, `Session.Alike.link`: what is done in both sessions
* `Session.Alike.create_more`, `Session.Alike.modify_more`: what is done in one of them only
* `Session.Closed`: all numbers are numbers of chains
* `Session.Alike.eq_of_length`: sessions with each chain under its own number
-/
namespace Option.Rel

variable {α β γ δ : Type} {r : α → β → Prop} {s : γ → δ → Prop} {x : Option α} {y : Option β}

/-- Both are there, or neither is. -/
theorem either (h : Option.Rel r x y) :
    (x = .none ∧ y = .none) ∨ ∃ a b, x = .some a ∧ y = .some b ∧ r a b := by
  cases h with
  | none => exact .inl ⟨rfl, rfl⟩
  | some h => exact .inr ⟨_, _, rfl, rfl, h⟩

theorem imp {r' : α → β → Prop} (h : Option.Rel r x y) (k : ∀ a b, r a b → r' a b) : Option.Rel r' x y := by
  cases h with
  | none => exact .none
  | some h => exact .some (k _ _ h)

theorem map {f : α → γ} {g : β → δ} (h : Option.Rel r x y) (k : ∀ a b, r a b → s (f a) (g b)) :
    Option.Rel s (x.map f) (y.map g) := by
  cases h with
  | none => exact .none
  | some h => exact .some (k _ _ h)

theorem bind {f : α → Option γ} {g : β → Option δ} (h : Option.Rel r x y)
    (k : ∀ a b, r a b → Option.Rel s (f a) (g b)) : Option.Rel s (x.bind f) (y.bind g) := by
  cases h with
  | none => exact .none
  | some h => exact k _ _ h

/-- What is the same for values that are related. -/
theorem bind_eq {f : α → Option γ} {g : β → Option γ} (h : Option.Rel r x y)
    (k : ∀ a b, r a b → f a = g b) : x.bind f = y.bind g := by
  cases h with
  | none => rfl
  | some h => exact k _ _ h

theorem map_eq {f : α → γ} {g : β → γ} (h : Option.Rel r x y) (k : ∀ a b, r a b → f a = g b) :
    x.map f = y.map g := by
  cases h with
  | none => rfl
  | some h => exact congrArg Option.some (k _ _ h)

/-- If the results are the same, both have a certain result, or neither has it. -/
theorem both_or_neither {ε : Type} {x : Option (ε × α)} {y : Option (ε × β)}
    (h : Option.Rel (fun o o' => o'.1 = o.1 ∧ r o.2 o'.2) x y) (out : ε) :
    (∃ a b, x = .some (out, a) ∧ y = .some (out, b) ∧ r a b) ∨
      (∀ a, x ≠ .some (out, a)) ∧ ∀ b, y ≠ .some (out, b) := by
  obtain ⟨rfl, rfl⟩ | ⟨⟨left, a⟩, ⟨right, b⟩, rfl, rfl, same, related⟩ := h.either
  · exact .inr ⟨nofun, nofun⟩
  · obtain rfl : right = left := same
    by_cases here : right = out
    · exact .inl ⟨a, b, by rw [here], by rw [here], related⟩
    · exact .inr ⟨fun _ ended => here (Prod.mk.inj (Option.some.inj ended)).1,
        fun _ ended => here (Prod.mk.inj (Option.some.inj ended)).1⟩

end Option.Rel

namespace Routing

/-! ## More in a list -/

/-- The second list is the first one without some elements that may be in it. -/
inductive Spread {α : Type} (extra : α → Prop) : List α → List α → Prop where
  | nil : Spread extra [] []
  | both {xs ys : List α} (a : α) : Spread extra xs ys → Spread extra (xs ++ [a]) (ys ++ [a])
  | more {xs ys : List α} {a : α} : extra a → Spread extra xs ys → Spread extra (xs ++ [a]) ys

namespace Spread

variable {α : Type} {extra : α → Prop} {xs ys : List α}

theorem refl (extra : α → Prop) (xs : List α) : Spread extra xs xs := by
  induction xs using List.reverseRecOn with
  | nil => exact .nil
  | append_singleton xs a ih => exact .both a ih

theorem eq (h : Spread (fun _ : α => False) xs ys) : xs = ys := by
  induction h with
  | nil => rfl
  | both a _ ih => rw [ih]
  | more never _ _ => exact never.elim

end Spread

/-! ## Chains -/

/-- Which chain of one session corresponds to which chain of another one. -/
abbrev Renumbering :=
  ChainId → ChainId → Prop

/-- One pair of chains more. -/
def Renumbering.insert (R : Renumbering) (n m : ChainId) : Renumbering :=
  fun i j => R i j ∨ (i = n ∧ j = m)

namespace Chain

/-- A chain without its link. -/
def alone (c : Chain) : Chain :=
  { c with previous := none }

structure Alike (R : Renumbering) (c d : Chain) : Prop where
  alone : d.alone = c.alone
  previous : Option.Rel R c.previous d.previous

namespace Alike

variable {R R' : Renumbering} {c d : Chain}

/-- What does not look at the link is the same. -/
theorem same {α : Type} (h : c.Alike R d) {f : Chain → α} (blind : ∀ c, f c = f c.alone) : f d = f c := by
  rw [blind d, blind c, h.alone]

theorem value (h : c.Alike R d) : d.value = c.value :=
  h.same (f := Chain.value) fun _ => rfl

theorem context (h : c.Alike R d) : d.context = c.context :=
  h.same (f := Chain.context) fun _ => rfl

theorem queue (h : c.Alike R d) : d.queue = c.queue :=
  h.same (f := Chain.queue) fun _ => rfl

theorem mono (h : c.Alike R d) (le : ∀ i j, R i j → R' i j) : c.Alike R' d :=
  ⟨h.alone, h.previous.imp le⟩

/-- A change that neither looks at the link nor touches it. -/
theorem map (h : c.Alike R d) {f : Chain → Chain} (blind : ∀ c, (f c).alone = f c.alone)
    (keeps : ∀ c, (f c).previous = c.previous) : (f c).Alike R (f d) where
  alone := by rw [blind, blind, h.alone]
  previous := by rw [keeps, keeps]; exact h.previous

end Alike

end Chain

/-! ## Slots -/

/-- The same slots, with chains that correspond. -/
abbrev SlotsAlike (R : Renumbering) : List (String × ChainId) → List (String × ChainId) → Prop :=
  List.Forall₂ fun p q => q.1 = p.1 ∧ R p.2 q.2

namespace SlotsAlike

variable {R : Renumbering} {ps qs : List (String × ChainId)}

theorem names (h : SlotsAlike R ps qs) : qs.map (·.1) = ps.map (·.1) := by
  induction h with
  | nil => rfl
  | cons first _ ih => rw [List.map_cons, List.map_cons, first.1, ih]

theorem lookup (h : SlotsAlike R ps qs) (slot : String) :
    Option.Rel R (ps.lookup slot) (qs.lookup slot) := by
  induction h with
  | nil => exact .none
  | @cons p q ps qs first rest ih =>
    obtain ⟨name, i⟩ := p
    obtain ⟨_, j⟩ := q
    obtain ⟨rfl, at_⟩ := first
    rw [List.lookup_cons, List.lookup_cons]
    cases slot == _ with
    | true => exact .some at_
    | false => exact ih

theorem without (h : SlotsAlike R ps qs) (slot : String) :
    SlotsAlike R (ps.filter (·.1 != slot)) (qs.filter (·.1 != slot)) := by
  refine List.rel_filter (fun p q same => ?_) h
  change (p.1 != slot) = true ↔ (q.1 != slot) = true
  rw [same.1]

/-- A slot is filled with chains that correspond. -/
theorem put (h : SlotsAlike R ps qs) (slot : String) {i j : ChainId} (at_ : R i j) :
    SlotsAlike R ((slot, i) :: ps.filter (·.1 != slot)) ((slot, j) :: qs.filter (·.1 != slot)) :=
  .cons ⟨rfl, at_⟩ (h.without slot)

theorem self_iff {n : Nat} : SlotsAlike (fun i j => i = j ∧ i < n) ps ps ↔ ∀ p ∈ ps, p.2 < n := by
  rw [SlotsAlike, List.forall₂_same]
  simp

end SlotsAlike

/-! ## Sessions -/

namespace Session

/-- All is the same in two sessions but the numbers of chains. The first one may have more chains, and may have
observed more, but only what is `extra`. -/
structure Alike (R : Renumbering) (extra : Observation → Prop) (s t : Session) : Prop where
  unique : ∀ {i j i' j'}, R i j → R i' j' → (i = i' ↔ j = j')
  chains : ∀ {i j}, R i j → ∃ c d, s.chain? i = some c ∧ t.chain? j = some d ∧ c.Alike R d
  parked : SlotsAlike R s.parked t.parked
  handles : SlotsAlike R s.handles t.handles
  library : t.library = s.library
  counters : t.counters = s.counters
  observations : Spread extra s.observations t.observations

namespace Alike

variable {R : Renumbering} {extra : Observation → Prop} {s t : Session} {i j : ChainId}

theorem chain? (h : s.Alike R extra t) (at_ : R i j) :
    Option.Rel (Chain.Alike R) (s.chain? i) (t.chain? j) := by
  obtain ⟨c, d, hc, hd, alike⟩ := h.chains at_
  rw [hc, hd]
  exact .some alike

theorem lt (h : s.Alike R extra t) (at_ : R i j) : i < s.chains.length ∧ j < t.chains.length := by
  obtain ⟨c, d, hc, hd, -⟩ := h.chains at_
  exact ⟨lt_of_chain? hc, lt_of_chain? hd⟩

theorem report (h : s.Alike R extra t) (records more : List Log.Record) :
    (s.report records).Alike R extra (t.report more) :=
  ⟨h.unique, h.chains, h.parked, h.handles, h.library, h.counters, h.observations⟩

theorem observe (h : s.Alike R extra t) (o : Observation) :
    (s.observe o).Alike R extra (t.observe o) :=
  ⟨h.unique, h.chains, h.parked, h.handles, h.library, h.counters, h.observations.both o⟩

/-! ### What is read -/

theorem named (h : s.Alike R extra t) (name : String) : t.named name = s.named name := by
  rw [Session.named, Session.named, h.library]

theorem previous? (h : s.Alike R extra t) (at_ : R i j) :
    Option.Rel R (s.previous? i) (t.previous? j) :=
  (h.chain? at_).bind fun _ _ alike => alike.previous

theorem parent? (h : s.Alike R extra t) (at_ : R i j) : Option.Rel R (s.parent? i) (t.parent? j) := by
  refine (h.chain? at_).bind fun c d alike => alike.previous.bind fun a b before => ?_
  refine (h.chain? before).bind fun p q older => ?_
  rw [older.value, alike.value]
  split
  · exact .some before
  · exact .none

theorem summary? (h : s.Alike R extra t) (at_ : R i j) : t.summary? j = s.summary? i := by
  refine ((h.chain? at_).map_eq fun c d alike => ?_).symm
  exact (alike.same (f := Chain.summary) fun _ => rfl).symm

theorem chainReport? (h : s.Alike R extra t) (at_ : R i j) : t.chainReport? j = s.chainReport? i := by
  have summary {x y : Option ChainId} (related : Option.Rel R x y) : y.bind t.summary? = x.bind s.summary? :=
    (related.bind_eq fun _ _ there => (h.summary? there).symm).symm
  have previous := summary (h.previous? at_)
  have grandparent := summary ((h.previous? at_).bind fun _ _ there => h.previous? there)
  have parent := summary (h.parent? at_)
  refine ((h.chain? at_).map_eq fun c d alike => ?_).symm
  simp only [previous, grandparent, parent]
  exact (alike.same (f := fun c => (⟨c.route, c.value, c.pending, c.runsDefault, c.propagates, c.started,
    c.redirect, _, _, _, c.request.params⟩ : ChainReport)) fun _ => rfl).symm

/-! ### What is done in both sessions -/

theorem modify (h : s.Alike R extra t) (at_ : R i j) {f g : Chain → Chain}
    (change : ∀ c d, c.Alike R d → (f c).Alike R (g d)) :
    (s.modify i f).Alike R extra (t.modify j g) where
  unique := h.unique
  chains := by
    intro i' j' there
    obtain ⟨c, d, hc, hd, alike⟩ := h.chains there
    have both := h.unique at_ there
    rw [chain?_modify, chain?_modify, hc, hd]
    by_cases here : i = i'
    · rw [if_pos here, if_pos (both.1 here)]
      exact ⟨f c, g d, rfl, rfl, change c d alike⟩
    · rw [if_neg here, if_neg fun same => here (both.2 same)]
      exact ⟨c, d, rfl, rfl, alike⟩
  parked := h.parked
  handles := h.handles
  library := h.library
  counters := h.counters
  observations := h.observations

/-- A change that neither looks at links nor touches them. -/
theorem change (h : s.Alike R extra t) (at_ : R i j) {f : Chain → Chain}
    (blind : ∀ c, (f c).alone = f c.alone) (keeps : ∀ c, (f c).previous = c.previous) :
    (s.modify i f).Alike R extra (t.modify j f) :=
  h.modify at_ fun _ _ alike => alike.map blind keeps

theorem enqueue (h : s.Alike R extra t) (at_ : R i j) (batch : List Handler) :
    (s.enqueue i batch).Alike R extra (t.enqueue j batch) := by
  obtain ⟨c, d, hc, hd, -⟩ := h.chains at_
  rw [Session.enqueue, Session.enqueue, hc, hd]
  exact (h.change at_ (f := (·.enqueue batch)) (fun _ => rfl) fun _ => rfl).report _ _

theorem enqueueAt (h : s.Alike R extra t) (at_ : R i j) (index : Nat) (batch : List Handler) :
    (s.enqueueAt i index batch).Alike R extra (t.enqueueAt j index batch) := by
  obtain ⟨c, d, hc, hd, -⟩ := h.chains at_
  rw [Session.enqueueAt, Session.enqueueAt, hc, hd]
  exact (h.change at_ (f := (·.enqueueAt index batch)) (fun _ => rfl) fun _ => rfl).report _ _

theorem navigate (h : s.Alike R extra t) (at_ : R i j) (path : String) :
    (s.navigate i path).Alike R extra (t.navigate j path) := by
  obtain ⟨c, d, hc, hd, -⟩ := h.chains at_
  rw [Session.navigate, Session.navigate, hc, hd]
  exact (h.change at_ (f := (·.navigate path)) (fun _ => rfl) fun _ => rfl).report _ _

theorem takeRedirect (h : s.Alike R extra t) (at_ : R i j) :
    (t.takeRedirect j).1 = (s.takeRedirect i).1 ∧
      (s.takeRedirect i).2.Alike R extra (t.takeRedirect j).2 := by
  refine ⟨?_, h.change at_ (fun _ => rfl) fun _ => rfl⟩
  refine ((h.chain? at_).bind_eq fun c d alike => ?_).symm
  exact (alike.same (f := Chain.redirect) fun _ => rfl).symm

theorem park (h : s.Alike R extra t) (at_ : R i j) (slot : String) :
    (s.park slot i).Alike R extra (t.park slot j) where
  unique := h.unique
  chains := h.chains
  parked := h.parked.put slot at_
  handles := h.handles
  library := h.library
  counters := h.counters
  observations := h.observations

theorem keep (h : s.Alike R extra t) (at_ : R i j) (slot : String) :
    (s.keep slot i).Alike R extra (t.keep slot j) where
  unique := h.unique
  chains := h.chains
  parked := h.parked
  handles := h.handles.put slot at_
  library := h.library
  counters := h.counters
  observations := h.observations

theorem unpark? (h : s.Alike R extra t) (slot : String) :
    Option.Rel (fun p q => R p.1 q.1 ∧ p.2.Alike R extra q.2) (s.unpark? slot) (t.unpark? slot) := by
  exact (h.parked.lookup slot).map fun i j at_ => ⟨at_, h.unique, h.chains, h.parked.without slot, h.handles,
    h.library, h.counters, h.observations⟩

theorem count (h : s.Alike R extra t) (counter : String) :
    (t.count counter).1 = (s.count counter).1 ∧
      (s.count counter).2.Alike R extra (t.count counter).2 := by
  refine ⟨by simp only [Session.count, h.counters], h.unique, h.chains, h.parked, h.handles, h.library, ?_,
    h.observations⟩
  simp only [Session.count, h.counters]

theorem link (h : s.Alike R extra t) (at_ : R i j) {before before' : Option ChainId}
    (related : Option.Rel R before before') : (s.link i before).Alike R extra (t.link j before') := by
  have linked {s t : Session} (h : s.Alike R extra t) :
      (s.modify i fun c => { c with previous := before }).Alike R extra
        (t.modify j fun c => { c with previous := before' }) :=
    h.modify at_ fun _ _ alike => ⟨alike.alone, related⟩
  cases related with
  | none => exact linked h
  | some there => exact linked (h.modify there fun _ _ alike => ⟨alike.alone, .none⟩)

/-- A chain is made in both sessions. -/
theorem create (h : s.Alike R extra t) (c : Chain) (new : c.previous = none) :
    (s.create c).2.Alike (R.insert s.chains.length t.chains.length) extra (t.create c).2 where
  unique := by
    intro i j i' j' at_ there
    obtain old | ⟨rfl, rfl⟩ := at_ <;> obtain old' | ⟨rfl, rfl⟩ := there
    · exact h.unique old old'
    · obtain ⟨left, right⟩ := h.lt old
      exact iff_of_false (Nat.ne_of_lt left) (Nat.ne_of_lt right)
    · obtain ⟨left, right⟩ := h.lt old'
      exact iff_of_false (Nat.ne_of_gt left) (Nat.ne_of_gt right)
    · exact ⟨fun _ => rfl, fun _ => rfl⟩
  chains := by
    intro i j at_
    rw [chain?_create, chain?_create]
    obtain old | ⟨rfl, rfl⟩ := at_
    · obtain ⟨a, b, ha, hb, alike⟩ := h.chains old
      obtain ⟨left, right⟩ := h.lt old
      rw [if_neg (Nat.ne_of_lt left), if_neg (Nat.ne_of_lt right)]
      exact ⟨a, b, ha, hb, alike.mono fun _ _ there => .inl there⟩
    · refine ⟨c, c, if_pos rfl, if_pos rfl, rfl, ?_⟩
      rw [new]
      exact .none
  parked := h.parked.imp fun _ _ both => ⟨both.1, .inl both.2⟩
  handles := h.handles.imp fun _ _ both => ⟨both.1, .inl both.2⟩
  library := h.library
  counters := h.counters
  observations := h.observations

/-! ### What is done in one session only -/

/-- A chain is made that corresponds to none. -/
theorem create_more (h : s.Alike R extra t) (c : Chain) : (s.create c).2.Alike R extra t where
  unique := h.unique
  chains := by
    intro i j at_
    rw [chain?_create, if_neg (Nat.ne_of_lt (h.lt at_).1)]
    exact h.chains at_
  parked := h.parked
  handles := h.handles
  library := h.library
  counters := h.counters
  observations := h.observations

/-- A chain is changed that corresponds to none. -/
theorem modify_more (h : s.Alike R extra t) (out : ∀ j, ¬ R i j) (f : Chain → Chain) :
    (s.modify i f).Alike R extra t where
  unique := h.unique
  chains := by
    intro i' j' there
    have other : i ≠ i' := fun same => out j' (same ▸ there)
    rw [chain?_modify, if_neg other]
    exact h.chains there
  parked := h.parked
  handles := h.handles
  library := h.library
  counters := h.counters
  observations := h.observations

theorem observe_more (h : s.Alike R extra t) {o : Observation} (more : extra o) :
    (s.observe o).Alike R extra t :=
  ⟨h.unique, h.chains, h.parked, h.handles, h.library, h.counters, h.observations.more more⟩

theorem report_more (h : s.Alike R extra t) (records : List Log.Record) :
    (s.report records).Alike R extra t :=
  ⟨h.unique, h.chains, h.parked, h.handles, h.library, h.counters, h.observations⟩

theorem enqueue_more (h : s.Alike R extra t) (out : ∀ j, ¬ R i j) (batch : List Handler) :
    (s.enqueue i batch).Alike R extra t := by
  unfold Session.enqueue
  split
  · exact h
  · exact (h.modify_more out (·.enqueue batch)).report_more _

end Alike

/-! ## Sessions that are alike to themselves -/

/-- Whatever number stands for a chain, there is that chain. -/
structure Closed (s : Session) : Prop where
  previous : ∀ id before, s.previous? id = some before → before < s.chains.length
  parked : ∀ p ∈ s.parked, p.2 < s.chains.length
  handles : ∀ p ∈ s.handles, p.2 < s.chains.length

theorem Closed.report {s : Session} (h : s.Closed) (records : List Log.Record) :
    (s.report records).Closed :=
  ⟨h.previous, h.parked, h.handles⟩

/-- The chains up to a number, each under its own. -/
def upTo (n : Nat) : Renumbering :=
  fun i j => i = j ∧ i < n

theorem upTo_insert (n : Nat) : (upTo n).insert n n = upTo (n + 1) := by
  have more (i j n : Nat) : (i = j ∧ i < n) ∨ (i = n ∧ j = n) ↔ i = j ∧ i < n + 1 := by omega
  funext i j
  exact propext (more i j n)

theorem rel_upTo_iff {n : Nat} {x : Option ChainId} :
    Option.Rel (upTo n) x x ↔ ∀ id, x = some id → id < n := by
  cases x with
  | none => simp
  | some id => simp [upTo]

theorem alike_self_iff {s : Session} {extra : Observation → Prop} :
    s.Alike (upTo s.chains.length) extra s ↔ s.Closed := by
  constructor
  · intro h
    refine ⟨fun id before linked => ?_, SlotsAlike.self_iff.1 h.parked, SlotsAlike.self_iff.1 h.handles⟩
    · obtain ⟨c, hc, -⟩ := Option.bind_eq_some_iff.1 linked
      have related := h.previous? (i := id) (j := id) ⟨rfl, lt_of_chain? hc⟩
      rw [linked] at related
      exact (Option.rel_some_some.1 related).2
  · intro closed
    refine ⟨?_, ?_, SlotsAlike.self_iff.2 closed.parked, SlotsAlike.self_iff.2 closed.handles, rfl, rfl,
      .refl extra _⟩
    · rintro i j i' j' ⟨rfl, -⟩ ⟨rfl, -⟩
      rfl
    · rintro i j ⟨rfl, lt⟩
      have there : s.chain? i = some s.chains[i] := List.getElem?_eq_getElem lt
      refine ⟨_, _, there, there, rfl, rel_upTo_iff.2 fun before linked => closed.previous i before ?_⟩
      rw [Session.previous?, there]
      exact linked

theorem eq_of_rel_upTo {n : Nat} {x y : Option ChainId} (h : Option.Rel (upTo n) x y) : y = x := by
  cases h with
  | none => rfl
  | some there => exact congrArg some there.1.symm

/-- Sessions that are alike, each chain under its own number, are the same but for what was reported. -/
theorem Alike.eq_of_length {s t : Session} (h : s.Alike (upTo s.chains.length) (fun _ => False) t)
    (length : t.chains.length = s.chains.length) : t = { s with log := t.log } := by
  have chains : t.chains = s.chains := by
    apply List.ext_getElem length
    intro i _ lt
    obtain ⟨c, d, hc, hd, alike⟩ := h.chains (i := i) (j := i) ⟨rfl, lt⟩
    have same : d = c := by
      have linked (e : Chain) : { e.alone with previous := e.previous } = e := rfl
      rw [← linked d, ← linked c, alike.alone, eq_of_rel_upTo alike.previous]
    rw [Session.chain?, List.getElem?_eq_some_iff] at hc hd
    obtain ⟨_, hc⟩ := hc
    obtain ⟨_, hd⟩ := hd
    rw [hc, hd, same]
  have slots {ps qs : List (String × ChainId)} (same : SlotsAlike (upTo s.chains.length) ps qs) :
      ps = qs := by
    rw [← List.forall₂_eq_eq_eq]
    exact same.imp fun _ _ both => Prod.ext both.1.symm both.2.1
  have parked := slots h.parked
  have handles := slots h.handles
  have observations := h.observations.eq
  obtain ⟨_, _, _, _, _, _, _⟩ := t
  simp only [Session.mk.injEq]
  exact ⟨h.library, chains, parked.symm, handles.symm, h.counters, observations.symm, trivial⟩

end Session

end Routing
