import Routing.Proofs.Regex.Preference

/-!
# Expressions between anchors

* `Node.anchored`: a node between the assertions that the text starts and that it ends
* `Node.search_anchored`: a search for such a node starts at the front of the text or nowhere
-/
namespace Routing.Regex

theorem Thread.places_eq_cons (text : List Char) :
    ∃ others, Thread.places text = start text :: others ∧ ∀ t ∈ others, t.before.isSome = true := by
  have later (index : Nat) (before : Char) (rest : List Char) :
      ∀ t ∈ placesFrom index (some before) rest, t.before.isSome = true := by
    induction rest generalizing index before with
    | nil =>
      intro t ht
      rw [List.mem_singleton.1 ht]
      rfl
    | cons c rest ih =>
      intro t ht
      rcases List.mem_cons.1 ht with rfl | ht
      · rfl
      · exact ih _ _ t ht
  cases text with
  | nil => exact ⟨[], rfl, by simp⟩
  | cons c rest => exact ⟨placesFrom 1 (some c) rest, rfl, later 1 c rest⟩

namespace Node

/-- A node between the anchors. -/
def anchored (a : Node) : Node :=
  ((look .start).append a).append (look .stop)

theorem settled_anchored (a : Node) : a.anchored.settled = a.anchored := by
  apply settled_of_not_alt
  unfold anchored
  generalize (look .start).append a = b
  cases b <;> rfl

theorem ways_anchored (a : Node) (t : Thread) :
    a.anchored.ways t =
      if t.before.isNone then (a.ways t).flatMap fun u => if u.rest.isEmpty then [u] else []
      else [] := by
  rw [anchored, ways_append, ways_append]
  simp only [ways, Thread.satisfies, Look.holdsBetween]
  by_cases h : t.before.isNone = true
  · simp [h, List.isEmpty_iff]
  · simp [h]

/-- A search between the anchors starts at the front of the text or nowhere. -/
theorem search_anchored {a : Node} (orderly : a.orderly = true) (text : List Char) :
    a.anchored.search text =
      ((a.ways (.start text)).flatMap fun u => if u.rest.isEmpty then [u] else []).head?.map
        (0, ·) := by
  have whole : a.anchored.orderly = true := by
    rw [anchored, orderly_append, orderly_append, orderly]
    rfl
  obtain ⟨others, places, behind⟩ := Thread.places_eq_cons text
  have nowhere : others.findSome? (fun t => (a.anchored.ways t).head?.map (t.index, ·)) = none := by
    rw [List.findSome?_eq_none_iff]
    intro t ht
    rw [ways_anchored, if_neg (by simpa [Option.isSome_iff_ne_none] using behind t ht)]
    rfl
  rw [search_eq_findSome? whole, places, List.findSome?_cons, nowhere, ways_anchored]
  simp only [Thread.start, Option.isNone_none, if_true]
  cases ((a.ways ⟨0, none, text, []⟩).flatMap _).head? <;> rfl

end Node

end Routing.Regex
