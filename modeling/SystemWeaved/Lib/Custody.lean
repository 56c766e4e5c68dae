import Mathlib.Data.List.Range
import Mathlib.Logic.Function.Basic
import Mathlib.Tactic

/-!
# Numbered things that are handed on

Things are numbered as they are made, and each is kept in one place at a time; `held` lists
what is kept in all places together.

* `Custody.make`, `Custody.move`: a new thing is put into a place, and a thing changes places.
* `Custody.count`: each thing that has been made is in one place, once, and no other is anywhere.
* `filterMap_update`: places that keep one thing or none, with one of them written.
-/

namespace SystemWeaved

/-- Each of the first `made` things is held once. -/
def Custody (made : ℕ) (held : List ℕ) : Prop := held.Perm (List.range made)

namespace Custody

variable {made : ℕ} {held held' : List ℕ}

theorem start : Custody 0 [] := .refl _

/-- A change of places. -/
theorem move (h : Custody made held) (hmove : held'.Perm held) : Custody made held' := hmove.trans h

/-- The next thing is made, and put into a place. -/
theorem make (h : Custody made held) (hmake : held'.Perm (made :: held)) : Custody (made + 1) held' := by
  unfold Custody
  rw [List.range_succ]
  have hcons : (made :: held).Perm (List.range made ++ [made]) :=
    (h.cons made).trans (List.perm_append_singleton made _).symm
  exact hmake.trans hcons

/-- Both, from how often each thing is held. -/
theorem move_of_count (h : Custody made held) (hmove : ∀ k, held'.count k = held.count k) : Custody made held' :=
  h.move (List.perm_iff_count.2 hmove)

theorem make_of_count (h : Custody made held) (hmake : ∀ k, held'.count k = (made :: held).count k) :
    Custody (made + 1) held' :=
  h.make (List.perm_iff_count.2 hmake)

theorem nodup (h : Custody made held) : held.Nodup := (List.Perm.nodup_iff h).2 List.nodup_range

theorem mem_iff (h : Custody made held) {k : ℕ} : k ∈ held ↔ k < made :=
  (List.Perm.mem_iff h).trans List.mem_range

/-- **Each thing is held once**, and nothing else is held. -/
theorem count (h : Custody made held) (k : ℕ) : held.count k = if k < made then 1 else 0 := by
  by_cases hk : k < made
  · rw [if_pos hk]
    exact List.count_eq_one_of_mem h.nodup (h.mem_iff.2 hk)
  · rw [if_neg hk]
    exact List.count_eq_zero.2 fun hmem => hk (h.mem_iff.1 hmem)

end Custody

/-- What is in the places `keys` after one of them has been written. -/
theorem filterMap_update {κ : Type*} [DecidableEq κ] {keys : List κ} (hnodup : keys.Nodup) {k : κ} (hk : k ∈ keys)
    (f : κ → Option ℕ) (v : Option ℕ) :
    (keys.filterMap (Function.update f k v)).Perm (v.toList ++ (keys.erase k).filterMap f) := by
  have hsplit := (List.perm_cons_erase hk).filterMap (Function.update f k v)
  have hrest : (keys.erase k).filterMap (Function.update f k v) = (keys.erase k).filterMap f := by
    refine List.filterMap_congr fun j hj => ?_
    have hne : j ≠ k := ((List.Nodup.mem_erase_iff hnodup).1 hj).1
    exact Function.update_of_ne hne _ _
  have hcons : (k :: keys.erase k).filterMap (Function.update f k v) = v.toList ++ (keys.erase k).filterMap f := by
    rcases v with _ | n
    · rw [List.filterMap_cons_none (Function.update_self k none f), hrest]
      rfl
    · rw [List.filterMap_cons_some (Function.update_self k (some n) f), hrest]
      rfl
  rw [← hcons]
  exact hsplit

end SystemWeaved
