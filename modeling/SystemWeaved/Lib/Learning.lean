import SystemWeaved.Lib.Machine

/-!
# What a run learns

Facts that the events of a kind `A` do not take back, and the events that bring them about.

* `Keeps.run`: what every event of `A` keeps, a run of them keeps.
* `Keeps.learned`: a run has learned what one of its events teaches, whatever comes before and
  after it.
* `Keeps.learned_in_turn`: and what a second one teaches that builds on it.
-/

namespace SystemWeaved

namespace Machine

variable {σ ε : Type*} {M : Machine σ ε} {A K L : ε → Prop} {P Q R : σ → Prop} {s t : σ} {es fs : List ε}

/-- No event of `A` takes `P` back. -/
def Keeps (M : Machine σ ε) (A : ε → Prop) (P : σ → Prop) : Prop :=
  ∀ ⦃s e t⦄, A e → M.next s e = some t → P s → P t

/-- An event of `A` that is in `L`, too, makes `Q` of `P`. -/
def Teaches (M : Machine σ ε) (A L : ε → Prop) (P Q : σ → Prop) : Prop :=
  ∀ ⦃s e t⦄, A e → L e → M.next s e = some t → P s → Q t

theorem Keeps.run (hP : M.Keeps A P) (hes : ∀ e ∈ es, A e) (h : M.run s es = some t) (hs : P s) : P t := by
  induction es generalizing s with
  | nil =>
    cases h
    exact hs
  | cons e es ih =>
    obtain ⟨u, hu, h⟩ := Option.bind_eq_some_iff.1 h
    obtain ⟨he, hes⟩ := List.forall_mem_cons.1 hes
    exact ih hes h (hP he hu hs)

/-- **One lesson.** -/
theorem Keeps.learned (hP : M.Keeps A P) (hQ : M.Keeps A Q) (hL : M.Teaches A L P Q) (hes : ∀ e ∈ es, A e)
    (hlesson : ∃ e ∈ es, L e) (h : M.run s es = some t) (hs : P s) : Q t := by
  induction es generalizing s with
  | nil =>
    obtain ⟨e, hmem, -⟩ := hlesson
    cases hmem
  | cons e es ih =>
    obtain ⟨u, hu, hrun⟩ := Option.bind_eq_some_iff.1 h
    obtain ⟨he, hrest⟩ := List.forall_mem_cons.1 hes
    -- the lesson is the first event, or comes later
    rcases (List.exists_mem_cons_iff _ _ _).1 hlesson with hfirst | hlater
    · have hlearned : Q u := hL he hfirst hu hs
      exact hQ.run hrest hrun hlearned
    · exact ih hrest hlater hrun (hP he hu hs)

/-- **Two lessons, the second of which needs the first.** -/
theorem Keeps.learned_in_turn (hP : M.Keeps A P) (hQ : M.Keeps A Q) (hR : M.Keeps A R)
    (hK : M.Teaches A K P Q) (hL : M.Teaches A L Q R) (hes : ∀ e ∈ es ++ fs, A e) (hfirst : ∃ e ∈ es, K e)
    (hsecond : ∃ e ∈ fs, L e) (h : M.run s (es ++ fs) = some t) (hs : P s) : R t := by
  rw [run_append] at h
  obtain ⟨u, hu, h⟩ := Option.bind_eq_some_iff.1 h
  obtain ⟨hes, hfs⟩ := List.forall_mem_append.1 hes
  have hmid : Q u := hP.learned hQ hK hes hfirst hu hs
  exact hQ.learned hR hL hfs hsecond h hmid

end Machine

end SystemWeaved
