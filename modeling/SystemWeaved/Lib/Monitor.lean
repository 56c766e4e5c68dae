import SystemWeaved.Lib.Machine

/-!
# Monitors

A monitor reads what a system has done so far, its `trace`, which only grows. `view` tells from
the state of the system where the monitor is then.

* `Follows`: between two states the monitor accepts what has been done, and ends where it should.
* `Conforms.next`, `reach_conforms`: if each step follows, the trace of every run is accepted.
-/

namespace SystemWeaved

/-- A machine that reads the traces of a system, and how it looks at its states. -/
structure Monitor (σ τ δ : Type*) where
  machine : Machine τ δ
  trace : σ → List δ
  view : σ → τ

namespace Monitor

variable {σ τ δ ε : Type*} {N : Monitor σ τ δ} {s t u : σ}

/-- What is done between the states is accepted. -/
def Follows (N : Monitor σ τ δ) (s t : σ) : Prop :=
  ∃ ds, N.trace t = N.trace s ++ ds ∧ N.machine.run (N.view s) ds = some (N.view t)

/-- All that has been done is accepted. -/
def Conforms (N : Monitor σ τ δ) (s : σ) : Prop :=
  ∃ n, N.machine.start n ∧ N.machine.run n (N.trace s) = some (N.view s)

/-- Nothing is done that the monitor sees. -/
theorem Follows.quiet (htrace : N.trace t = N.trace s) (hview : N.view t = N.view s) : N.Follows s t := by
  refine ⟨[], ?_, ?_⟩
  · rw [htrace, List.append_nil]
  · rw [hview]
    rfl

theorem Follows.refl (s : σ) : N.Follows s s := .quiet rfl rfl

theorem Follows.one {d : δ} (htrace : N.trace t = N.trace s ++ [d])
    (hnext : N.machine.next (N.view s) d = some (N.view t)) : N.Follows s t :=
  ⟨[d], htrace, Machine.run_cons hnext []⟩

theorem Follows.trans (h : N.Follows s t) (h' : N.Follows t u) : N.Follows s u := by
  obtain ⟨ds, htrace, hrun⟩ := h
  obtain ⟨ds', htrace', hrun'⟩ := h'
  refine ⟨ds ++ ds', ?_, ?_⟩
  · rw [htrace', htrace, List.append_assoc]
  · rw [Machine.run_append, hrun, Option.bind_some, hrun']

theorem Conforms.next (hs : N.Conforms s) (h : N.Follows s t) : N.Conforms t := by
  obtain ⟨n, hn, hrun⟩ := hs
  obtain ⟨ds, htrace, hrun'⟩ := h
  refine ⟨n, hn, ?_⟩
  rw [htrace, Machine.run_append, hrun, Option.bind_some, hrun']

/-- **Every run conforms** if every step follows. -/
theorem reach_conforms {M : Machine σ ε} (h0 : ∀ s, M.start s → N.Conforms s)
    (hs : ∀ s e t, M.Reach s → M.next s e = some t → N.Follows s t) (h : M.Reach s) : N.Conforms s :=
  Machine.ReachIf.invariant h0 (fun s e t hr hc _ hn => hc.next (hs s e t hr hn)) h

end Monitor

end SystemWeaved
