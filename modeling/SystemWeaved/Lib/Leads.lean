import SystemWeaved.Lib.Machine

/-!
# What a machine can still do

`M.LeadsIn n s t`: at most `n` events lead from `s` to `t`.

* `LeadsIn.trans`: the events of two ways one after the other.
* `LeadsIn.reach`: the end of a way is reached if its start is.
-/

namespace SystemWeaved

namespace Machine

variable {σ ε : Type*} {M : Machine σ ε} {s t u : σ} {m n : ℕ}

/-- At most `n` events lead from `s` to `t`. -/
def LeadsIn (M : Machine σ ε) (n : ℕ) (s t : σ) : Prop := ∃ es, es.length ≤ n ∧ M.run s es = some t

theorem LeadsIn.refl (s : σ) (n : ℕ) : M.LeadsIn n s s := ⟨[], Nat.zero_le n, rfl⟩

theorem LeadsIn.one {e : ε} (h : M.next s e = some t) : M.LeadsIn 1 s t :=
  ⟨[e], le_rfl, run_cons h []⟩

theorem LeadsIn.trans (h : M.LeadsIn m s t) (h' : M.LeadsIn n t u) : M.LeadsIn (m + n) s u := by
  obtain ⟨es, hes, hrun⟩ := h
  obtain ⟨fs, hfs, hrun'⟩ := h'
  refine ⟨es ++ fs, ?_, ?_⟩
  · rw [List.length_append]
    omega
  · rw [run_append, hrun, Option.bind_some, hrun']

theorem LeadsIn.mono (h : M.LeadsIn m s t) (hmn : m ≤ n) : M.LeadsIn n s t := by
  obtain ⟨es, hes, hrun⟩ := h
  exact ⟨es, hes.trans hmn, hrun⟩

theorem LeadsIn.reach (hs : M.Reach s) (h : M.LeadsIn n s t) : M.Reach t := by
  obtain ⟨es, -, hrun⟩ := h
  exact run_reach hs hrun

end Machine

end SystemWeaved
