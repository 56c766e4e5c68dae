import SystemWeaved.Lib.Machine

/-!
# Simulations between event machines

A machine `M` is simulated by a machine `N` if what an event does to `M` is done to `N` by the
event that `f` makes of it, or by nothing where `f` drops it.

* `Simulation.run`: a run of `M` is a run of `N`, on the events that `f` makes of its own.
* `Simulation.of_unwinding`: the case of one machine that does not see the dropped events.
* `Lockstep.run`: two machines of which each takes the steps of the other take the same runs.
* `Along`: a property holds in all states of a run. `along_iff_meets`: what holds of a state
  after a step exactly if the step meets `G` holds along a run exactly if all steps meet `G`.
-/

namespace SystemWeaved

variable {σ τ ε δ : Type*} {M : Machine σ ε} {N : Machine τ δ}

/-- The steps of `M` on events in `A` are simulated by `N`, as `R` relates their states. -/
structure Simulation (M : Machine σ ε) (N : Machine τ δ) (A : ε → Prop) (f : ε → Option δ)
    (R : σ → τ → Prop) : Prop where
  skip : ∀ s t e s', R s t → A e → f e = none → M.next s e = some s' → R s' t
  step : ∀ s t e s' d, R s t → A e → f e = some d → M.next s e = some s' →
    ∃ t', N.next t d = some t' ∧ R s' t'

/-- **Simulation of runs.** -/
theorem Simulation.run {A : ε → Prop} {f : ε → Option δ} {R : σ → τ → Prop} (h : Simulation M N A f R)
    {s s' : σ} {t : τ} {es : List ε} (hR : R s t) (hA : ∀ e ∈ es, A e) (hrun : M.run s es = some s') :
    ∃ t', N.run t (es.filterMap f) = some t' ∧ R s' t' := by
  induction es generalizing s t with
  | nil =>
    cases hrun
    exact ⟨t, rfl, hR⟩
  | cons e es ih =>
    obtain ⟨u, hu, hrun⟩ := Option.bind_eq_some_iff.1 hrun
    obtain ⟨he, hes⟩ := List.forall_mem_cons.1 hA
    cases hf : f e with
    | none =>
      rw [List.filterMap_cons_none hf]
      exact ih (h.skip s t e u hR he hf hu) hes hrun
    | some d =>
      obtain ⟨v, hv, hR'⟩ := h.step s t e u d hR he hf hu
      rw [List.filterMap_cons_some hf, Machine.run_cons hv]
      exact ih hR' hes hrun

/-- A machine that is in the same state whether an event happens or what `f` makes of it. -/
theorem Simulation.of_unwinding {A : ε → Prop} {f : ε → Option ε} {I : σ → Prop}
    (hI : ∀ s e t, I s → A e → M.next s e = some t → I t)
    (hskip : ∀ s e t, I s → A e → f e = none → M.next s e = some t → t = s)
    (hstep : ∀ s e d, I s → A e → f e = some d → M.next s d = M.next s e) :
    Simulation M M A f fun s t => t = s ∧ I s where
  skip := by
    rintro s t e s' ⟨rfl, hs⟩ he hf hn
    exact ⟨(hskip _ e s' hs he hf hn).symm, hI _ e s' hs he hn⟩
  step := by
    rintro s t e s' d ⟨rfl, hs⟩ he hf hn
    exact ⟨s', (hstep _ e d hs he hf).trans hn, rfl, hI _ e s' hs he hn⟩

/-- Both machines take a step, or none does, as `R` relates their states. -/
def Lockstep (M : Machine σ ε) (N : Machine τ δ) (f : ε → δ) (R : σ → τ → Prop) : Prop :=
  ∀ s t e, R s t → Option.Rel R (M.next s e) (N.next t (f e))

/-- **Runs in lockstep.** -/
theorem Lockstep.run {f : ε → δ} {R : σ → τ → Prop} (h : Lockstep M N f R) {s : σ} {t : τ} (hR : R s t)
    (es : List ε) : Option.Rel R (M.run s es) (N.run t (es.map f)) := by
  induction es generalizing s t with
  | nil => exact .some hR
  | cons e es ih =>
    show Option.Rel R ((M.next s e).bind fun s => M.run s es) ((N.next t (f e)).bind fun t => N.run t (es.map f))
    have hnext := h s t e hR
    generalize M.next s e = s' at hnext ⊢
    generalize N.next t (f e) = t' at hnext ⊢
    cases hnext with
    | none => exact .none
    | some hR' => exact ih hR'

namespace Machine

variable {G : σ → ε → Prop} {P Q : σ → Prop}

/-- All states of the run of a list of events satisfy `Q`. -/
def Along (M : Machine σ ε) (Q : σ → Prop) : σ → List ε → Prop
  | s, [] => Q s
  | s, e :: es => Q s ∧ ∀ t, M.next s e = some t → M.Along Q t es

theorem Along.head {s : σ} {es : List ε} (h : M.Along Q s es) : Q s := by
  cases es with
  | nil => exact h
  | cons e es => exact h.1

/-- **The exact condition for a property along a run**, from that of a step. -/
theorem along_iff_meets (hP : ∀ s e t, P s → M.next s e = some t → P t)
    (hQ : ∀ s e t, P s → Q s → M.next s e = some t → (Q t ↔ G s e)) {s : σ} {es : List ε}
    (hPs : P s) (hQs : Q s) (hrun : (M.run s es).isSome) : M.Along Q s es ↔ M.Meets G s es := by
  induction es generalizing s with
  | nil => exact iff_of_true hQs trivial
  | cons e es ih =>
    obtain ⟨u, hu⟩ := Option.isSome_iff_exists.1 hrun
    obtain ⟨t, ht, hu⟩ := Option.bind_eq_some_iff.1 hu
    have hiff := hQ s e t hPs hQs ht
    have hrest : Q t → (M.Along Q t es ↔ M.Meets G t es) :=
      fun hQt => ih (hP s e t hPs ht) hQt (Option.isSome_iff_exists.2 ⟨u, hu⟩)
    constructor
    · rintro ⟨-, h⟩
      have hQt := (h t ht).head
      refine ⟨hiff.1 hQt, fun v hv => ?_⟩
      rw [ht] at hv
      cases hv
      exact (hrest hQt).1 (h t ht)
    · rintro ⟨hG, h⟩
      refine ⟨hQs, fun v hv => ?_⟩
      rw [ht] at hv
      cases hv
      exact (hrest (hiff.2 hG)).2 (h t ht)

end Machine

end SystemWeaved
