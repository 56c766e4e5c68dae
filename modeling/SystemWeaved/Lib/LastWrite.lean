import Mathlib.Data.Set.Function
import Mathlib.Tactic

/-!
# Maps written by a list of events

`put w` applies one event to a map: `w e` is the key and value `e` writes, if any.

* `fold_last`: after a list of events a key holds what the last event that wrote it
  has written; `fold_untouched`: a key that no event writes keeps its value.
* `represents_put`: a map kept at addresses still represents the map of the keys after
  a write on both sides, if no two keys share an address.
-/

namespace SystemWeaved

variable {ε κ ν ρ μ : Type*} [DecidableEq κ] [DecidableEq ρ]

/-- The map after one event. -/
def put (w : ε → Option (κ × ν)) (m : κ → ν) (e : ε) : κ → ν :=
  match w e with
  | none => m
  | some (k, v) => Function.update m k v

/-- The event writes the key `k`. -/
def Writes (w : ε → Option (κ × ν)) (k : κ) (e : ε) : Prop := ∃ v, w e = some (k, v)

theorem put_of_write {w : ε → Option (κ × ν)} {e : ε} {k : κ} {v : ν} (h : w e = some (k, v))
    (m : κ → ν) : put w m e = Function.update m k v := by
  simp only [put, h]

theorem put_of_not_writes {w : ε → Option (κ × ν)} {e : ε} {k : κ} (h : ¬ Writes w k e)
    (m : κ → ν) : put w m e k = m k := by
  unfold put
  cases hw : w e with
  | none => rfl
  | some p =>
    have hne : k ≠ p.1 := by
      rintro rfl
      exact h ⟨p.2, hw⟩
    exact Function.update_of_ne hne _ _

/-- **A key that no event writes keeps its value.** -/
theorem fold_untouched {w : ε → Option (κ × ν)} {k : κ} {es : List ε} (h : ∀ e ∈ es, ¬ Writes w k e)
    (m : κ → ν) : es.foldl (put w) m k = m k := by
  induction es generalizing m with
  | nil => rfl
  | cons e es ih =>
    rw [List.foldl_cons, ih (fun x hx => h x (List.mem_cons_of_mem _ hx)),
      put_of_not_writes (h e List.mem_cons_self)]

/-- **The last write wins.** -/
theorem fold_last {w : ε → Option (κ × ν)} {k : κ} {v : ν} {e : ε} (he : w e = some (k, v))
    (pre : List ε) {post : List ε} (h : ∀ x ∈ post, ¬ Writes w k x) (m : κ → ν) :
    (pre ++ e :: post).foldl (put w) m k = v := by
  rw [List.foldl_append, List.foldl_cons, fold_untouched h, put_of_write he, Function.update_self]

/-- The map `M` over addresses represents the map `m` over the keys in `K`. -/
def Represents (addr : κ → ρ) (R : ν → μ → Prop) (K : Set κ) (m : κ → ν) (M : ρ → μ) : Prop :=
  ∀ k ∈ K, R (m k) (M (addr k))

/-- **A write on both sides keeps the representation**, if the keys have different
addresses. -/
theorem represents_put {addr : κ → ρ} {R : ν → μ → Prop} {K : Set κ} (hinj : K.InjOn addr)
    {m : κ → ν} {M : ρ → μ} (h : Represents addr R K m M) {k : κ} (hk : k ∈ K) {v : ν} {u : μ}
    (hv : R v u) : Represents addr R K (Function.update m k v) (Function.update M (addr k) u) := by
  intro j hj
  by_cases hjk : j = k
  · subst hjk
    simpa using hv
  · have haddr : addr j ≠ addr k := fun he => hjk (hinj hj hk he)
    rw [Function.update_of_ne hjk, Function.update_of_ne haddr]
    exact h j hj

end SystemWeaved
