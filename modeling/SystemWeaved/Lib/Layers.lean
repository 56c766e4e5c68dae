import Mathlib.Tactic

/-!
# Values given in layers

A layer gives values to some of the keys; `overlay` writes it over the values there are.

* `foldl_overlay`: after a list of layers a key has the value of the last layer that gives it one,
  and keeps its first value if none does.
* `overlay_eq_self_iff`: a layer goes unnoticed exactly if it repeats what it is written over.
-/

namespace SystemWeaved

variable {κ ν : Type*}

/-- The values after a layer. -/
def overlay (values : κ → ν) (layer : κ → Option ν) : κ → ν := fun k => (layer k).getD (values k)

theorem overlay_of_some {values : κ → ν} {layer : κ → Option ν} {k : κ} {v : ν} (h : layer k = some v) :
    overlay values layer k = v := by
  unfold overlay
  rw [h, Option.getD_some]

theorem overlay_of_none {values : κ → ν} {layer : κ → Option ν} {k : κ} (h : layer k = none) :
    overlay values layer k = values k := by
  unfold overlay
  rw [h, Option.getD_none]

/-- **The last layer that gives a key a value wins.** -/
theorem foldl_overlay (layers : List (κ → Option ν)) (values : κ → ν) (k : κ) :
    layers.foldl overlay values k = (layers.reverse.findSome? fun layer => layer k).getD (values k) := by
  induction layers generalizing values with
  | nil => rfl
  | cons layer layers ih =>
    rw [List.foldl_cons, ih, List.reverse_cons, List.findSome?_append]
    rcases h : layers.reverse.findSome? fun layer => layer k with _ | v
    · -- no later layer gives a value: the first one decides
      rcases hlayer : layer k with _ | v
      · simp [overlay_of_none hlayer, hlayer, h]
      · simp [overlay_of_some hlayer, hlayer, h]
    · rw [h]
      rfl

/-- **A layer goes unnoticed** exactly if it gives no key another value. -/
theorem overlay_eq_self_iff {values : κ → ν} {layer : κ → Option ν} :
    overlay values layer = values ↔ ∀ k v, layer k = some v → v = values k := by
  constructor
  · intro h k v hv
    rw [← h, overlay_of_some hv]
  · intro h
    funext k
    rcases hk : layer k with _ | v
    · exact overlay_of_none hk
    · rw [overlay_of_some hk, h k v hk]

end SystemWeaved
