import Mathlib.Tactic

/-!
# Event machines

A machine starts in one of its start states and takes one event at a time;
`next s e = none` says that `e` cannot happen in `s`.

* `ReachIf G`: the states of the runs whose steps all meet the condition `G` on the
  event and the state it finds. `Reach` is the case without a condition.
* `ReachIf.invariant`: what holds at the start and is preserved by one step of such a
  run holds in all of its states.
* `run`: a run as a list of events, to be computed on concrete inputs
  (`run_reachIf` leads back to `ReachIf`), and `runIf`: one whose steps are checked for `G`.
* `Meets`: all steps of a run meet `G`. `run_iff_meets`: what each step preserves exactly if it
  meets `G` is preserved by a run exactly if all of its steps do (`run_iff_meets_of`: by a run on
  events of one kind).
-/

namespace SystemWeaved

/-- A machine: where it can start, and what one event does. -/
structure Machine (σ ε : Type*) where
  start : σ → Prop
  next : σ → ε → Option σ

namespace Machine

variable {σ ε : Type*} {M : Machine σ ε} {G H : σ → ε → Prop} {P : σ → Prop}

/-- The states of the runs whose steps all meet `G`. -/
inductive ReachIf (M : Machine σ ε) (G : σ → ε → Prop) : σ → Prop
  | start {s : σ} (h : M.start s) : ReachIf M G s
  | step {s t : σ} {e : ε} (hr : ReachIf M G s) (hg : G s e) (hn : M.next s e = some t) :
      ReachIf M G t

/-- The states of all runs. -/
abbrev Reach (M : Machine σ ε) : σ → Prop := M.ReachIf fun _ _ => True

/-- **The invariant rule.** -/
theorem ReachIf.invariant (h0 : ∀ s, M.start s → P s)
    (hs : ∀ s e t, M.ReachIf G s → P s → G s e → M.next s e = some t → P t) :
    ∀ {s}, M.ReachIf G s → P s := by
  intro s h
  induction h with
  | start h => exact h0 _ h
  | step hr hg hn ih => exact hs _ _ _ hr ih hg hn

/-- A weaker condition allows more runs. -/
theorem ReachIf.mono (hGH : ∀ s e, G s e → H s e) {s : σ} (h : M.ReachIf G s) : M.ReachIf H s := by
  induction h with
  | start h => exact .start h
  | step _ hg hn ih => exact .step ih (hGH _ _ hg) hn

theorem ReachIf.reach {s : σ} (h : M.ReachIf G s) : M.Reach s := h.mono fun _ _ _ => trivial

/-- The state after a list of events. -/
def run (M : Machine σ ε) : σ → List ε → Option σ
  | s, [] => some s
  | s, e :: es => (M.next s e).bind fun t => M.run t es

theorem run_cons {s t : σ} {e : ε} (h : M.next s e = some t) (es : List ε) : M.run s (e :: es) = M.run t es := by
  show (M.next s e).bind _ = _
  rw [h, Option.bind_some]

theorem run_append (M : Machine σ ε) (s : σ) (es fs : List ε) :
    M.run s (es ++ fs) = (M.run s es).bind fun t => M.run t fs := by
  induction es generalizing s with
  | nil => rfl
  | cons e es ih =>
    show (M.next s e).bind (fun t => M.run t (es ++ fs)) = ((M.next s e).bind fun t => M.run t es).bind _
    rw [Option.bind_assoc]
    exact congrArg _ (funext ih)

/-- The state that events which meet a condition lead to is reached by a run. -/
theorem run_reachIf {P : ε → Prop} {s t : σ} {es : List ε} (hs : M.ReachIf (fun _ e => P e) s)
    (hP : ∀ e ∈ es, P e) (h : M.run s es = some t) : M.ReachIf (fun _ e => P e) t := by
  induction es generalizing s with
  | nil =>
    cases h
    exact hs
  | cons e es ih =>
    obtain ⟨u, hu, h⟩ := Option.bind_eq_some_iff.1 h
    obtain ⟨he, hes⟩ := List.forall_mem_cons.1 hP
    exact ih (hs.step he hu) hes h

theorem run_reach {s t : σ} {es : List ε} (hs : M.Reach s) (h : M.run s es = some t) : M.Reach t :=
  run_reachIf (P := fun _ => True) hs (fun _ _ => trivial) h

/-- The state after a list of events, if all of them meet `G` when they happen. -/
def runIf (M : Machine σ ε) (G : σ → ε → Prop) [∀ s e, Decidable (G s e)] : σ → List ε → Option σ
  | s, [] => some s
  | s, e :: es => if G s e then (M.next s e).bind fun t => M.runIf G t es else none

theorem runIf_reachIf [∀ s e, Decidable (G s e)] {s t : σ} {es : List ε} (hs : M.ReachIf G s)
    (h : M.runIf G s es = some t) : M.ReachIf G t := by
  induction es generalizing s with
  | nil =>
    cases h
    exact hs
  | cons e es ih =>
    unfold runIf at h
    split at h
    · rename_i hg
      obtain ⟨u, hu, h⟩ := Option.bind_eq_some_iff.1 h
      exact ih (hs.step hg hu) h
    · cases h

/-- All steps of the run of a list of events meet `G`. -/
def Meets (M : Machine σ ε) (G : σ → ε → Prop) : σ → List ε → Prop
  | _, [] => True
  | s, e :: es => G s e ∧ ∀ t, M.next s e = some t → M.Meets G t es

/-- **The exact condition of a run** whose events are in `A`, from that of a step and an
invariant `P`. -/
theorem run_iff_meets_of {A : ε → Prop} {Q : σ → Prop}
    (hP : ∀ s e t, P s → A e → M.next s e = some t → P t)
    (hQ : ∀ s e t, P s → A e → M.next s e = some t → (Q t ↔ Q s ∧ G s e)) {s t : σ} {es : List ε}
    (hs : P s) (hA : ∀ e ∈ es, A e) (h : M.run s es = some t) : Q t ↔ Q s ∧ M.Meets G s es := by
  induction es generalizing s with
  | nil =>
    cases h
    exact (and_iff_left trivial).symm
  | cons e es ih =>
    obtain ⟨u, hu, h⟩ := Option.bind_eq_some_iff.1 h
    obtain ⟨he, hes⟩ := List.forall_mem_cons.1 hA
    have hmeets : M.Meets G s (e :: es) ↔ G s e ∧ M.Meets G u es := by
      constructor
      · intro hm
        exact ⟨hm.1, hm.2 u hu⟩
      · rintro ⟨hg, hm⟩
        refine ⟨hg, fun t ht => ?_⟩
        rw [hu] at ht
        cases ht
        exact hm
    rw [ih (hP s e u hs he hu) hes h, hQ s e u hs he hu, hmeets, and_assoc]

/-- The same, for all runs. -/
theorem run_iff_meets {Q : σ → Prop} (hP : ∀ s e t, P s → M.next s e = some t → P t)
    (hQ : ∀ s e t, P s → M.next s e = some t → (Q t ↔ Q s ∧ G s e)) {s t : σ} {es : List ε}
    (hs : P s) (h : M.run s es = some t) : Q t ↔ Q s ∧ M.Meets G s es :=
  run_iff_meets_of (A := fun _ => True) (fun s e t hs _ => hP s e t hs) (fun s e t hs _ => hQ s e t hs) hs
    (fun _ _ => trivial) h

end Machine

end SystemWeaved
