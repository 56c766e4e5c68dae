import Mathlib.Logic.Relation
import Mathlib.Tactic

/-!
# Requests served one at a time

Requests are numbered as they come. One of them may be in progress; each is answered by
a report. A request is refused with a report of its own, or it is taken up, if none is in
progress, and then finished with a report, or dropped.

* `Step.tidy`, `Steps.tidy`: no request is reported twice, and none that is in progress
  has been reported.
* `Kept.accounted`: without drops, every request is in progress or reported.
* `Steps.settled`: the report on a request that is no longer in progress is final.
-/

namespace SystemWeaved

/-- The number of requests, the one in progress, and the reports (newest first). -/
structure Attempts (ρ : Type*) where
  calls : ℕ
  current : Option ℕ
  reports : List (ℕ × ρ)

namespace Attempts

variable {ρ : Type*} {a b : Attempts ρ}

/-- The steps that account for the request they end. -/
inductive KeptStep : Attempts ρ → Attempts ρ → Prop
  | refuse (n : ℕ) (c : Option ℕ) (rs : List (ℕ × ρ)) (r : ρ) : KeptStep ⟨n, c, rs⟩ ⟨n + 1, c, (n, r) :: rs⟩
  | accept (n : ℕ) (rs : List (ℕ × ρ)) : KeptStep ⟨n, none, rs⟩ ⟨n + 1, some n, rs⟩
  | finish (n k : ℕ) (rs : List (ℕ × ρ)) (r : ρ) : KeptStep ⟨n, some k, rs⟩ ⟨n, none, (k, r) :: rs⟩

/-- All steps: the request in progress may also be dropped. -/
inductive Step : Attempts ρ → Attempts ρ → Prop
  | kept {a b : Attempts ρ} (h : KeptStep a b) : Step a b
  | drop (n : ℕ) (c : Option ℕ) (rs : List (ℕ × ρ)) : Step ⟨n, c, rs⟩ ⟨n, none, rs⟩

abbrev Kept : Attempts ρ → Attempts ρ → Prop := Relation.ReflTransGen KeptStep

abbrev Steps : Attempts ρ → Attempts ρ → Prop := Relation.ReflTransGen Step

theorem Kept.steps (h : Kept a b) : Steps a b := h.lift id fun _ _ => Step.kept

/-- No request is reported twice, or while it is in progress. -/
structure Tidy (a : Attempts ρ) : Prop where
  reported : ∀ p ∈ a.reports, p.1 < a.calls
  nodup : (a.reports.map Prod.fst).Nodup
  current : ∀ k, a.current = some k → k < a.calls ∧ k ∉ a.reports.map Prod.fst

theorem Step.tidy (h : Step a b) (ha : a.Tidy) : b.Tidy := by
  obtain ⟨hr, hn, hc⟩ := ha
  rcases h with (⟨n, c, rs, r⟩ | ⟨n, rs⟩ | ⟨n, k, rs, r⟩) | ⟨n, c, rs⟩
  · -- a refused request has a new number
    have hnew : n ∉ rs.map Prod.fst := by
      intro hmem
      obtain ⟨p, hp, he⟩ := List.mem_map.1 hmem
      have := hr p hp
      simp only at this
      omega
    refine ⟨?_, List.nodup_cons.2 ⟨hnew, hn⟩, ?_⟩
    · intro p hp
      rcases List.mem_cons.1 hp with rfl | hp
      · exact Nat.lt_succ_self n
      · exact Nat.lt_succ_of_lt (hr p hp)
    · intro k hk
      obtain ⟨h1, h2⟩ := hc k hk
      simp only at h1
      refine ⟨Nat.lt_succ_of_lt h1, ?_⟩
      rw [List.map_cons, List.mem_cons, not_or]
      exact ⟨by omega, h2⟩
  · refine ⟨fun p hp => Nat.lt_succ_of_lt (hr p hp), hn, ?_⟩
    rintro k ⟨rfl⟩
    refine ⟨Nat.lt_succ_self n, fun hmem => ?_⟩
    obtain ⟨p, hp, he⟩ := List.mem_map.1 hmem
    have := hr p hp
    simp only at this
    omega
  · obtain ⟨h1, h2⟩ := hc k rfl
    refine ⟨?_, List.nodup_cons.2 ⟨h2, hn⟩, fun k hk => by simp at hk⟩
    intro p hp
    rcases List.mem_cons.1 hp with rfl | hp
    · exact h1
    · exact hr p hp
  · exact ⟨hr, hn, fun k hk => by simp at hk⟩

theorem Steps.tidy (h : Steps a b) (ha : a.Tidy) : b.Tidy := by
  induction h with
  | refl => exact ha
  | tail _ hs ih => exact hs.tidy ih

/-- Every request is in progress or has been reported. -/
def Accounted (a : Attempts ρ) : Prop :=
  ∀ k < a.calls, a.current = some k ∨ k ∈ a.reports.map Prod.fst

theorem KeptStep.accounted (h : KeptStep a b) (ha : a.Accounted) : b.Accounted := by
  intro j hj
  rcases h with ⟨n, c, rs, r⟩ | ⟨n, rs⟩ | ⟨n, k, rs, r⟩ <;>
    simp only [List.map_cons, List.mem_cons] at hj ⊢
  · rcases Nat.lt_succ_iff_lt_or_eq.1 hj with h | h
    · exact (ha j h).imp id .inr
    · exact .inr (.inl h)
  · rcases Nat.lt_succ_iff_lt_or_eq.1 hj with h | h
    · exact (ha j h).elim (fun hcur => by simp at hcur) .inr
    · exact .inl (congrArg some h.symm)
  · rcases ha j hj with h | h
    · exact .inr (.inl (Option.some.inj h).symm)
    · exact .inr (.inr h)

theorem Kept.accounted (h : Kept a b) (ha : a.Accounted) : b.Accounted := by
  induction h with
  | refl => exact ha
  | tail _ hs ih => exact hs.accounted ih

/-- Two reports on one request are the same report. -/
theorem Tidy.unique (ha : a.Tidy) {k : ℕ} {r r' : ρ} (h : (k, r) ∈ a.reports) (h' : (k, r') ∈ a.reports) :
    r = r' := by
  have := List.inj_on_of_nodup_map ha.nodup h h' rfl
  exact (Prod.mk.inj this).2

/-- The request has been made, and is not in progress. -/
def Settled (a : Attempts ρ) (k : ℕ) : Prop := k < a.calls ∧ a.current ≠ some k

theorem Step.settled {k : ℕ} (h : Step a b) (ha : a.Settled k) :
    b.Settled k ∧ ∀ r, (k, r) ∈ b.reports ↔ (k, r) ∈ a.reports := by
  obtain ⟨hk, hcur⟩ := ha
  rcases h with (⟨n, c, rs, r⟩ | ⟨n, rs⟩ | ⟨n, j, rs, r⟩) | ⟨n, c, rs⟩
  · -- a refused request has a new number
    have hne : k ≠ n := ne_of_lt hk
    refine ⟨⟨Nat.lt_succ_of_lt hk, hcur⟩, fun r' => ?_⟩
    simp [hne]
  · have hne : n ≠ k := (ne_of_lt hk).symm
    exact ⟨⟨Nat.lt_succ_of_lt hk, by simpa using hne⟩, fun _ => Iff.rfl⟩
  · have hne : k ≠ j := by
      rintro rfl
      exact hcur rfl
    refine ⟨⟨hk, by simp⟩, fun r' => ?_⟩
    simp [hne]
  · exact ⟨⟨hk, by simp⟩, fun _ => Iff.rfl⟩

theorem Steps.settled {k : ℕ} (h : Steps a b) (ha : a.Settled k) :
    b.Settled k ∧ ∀ r, (k, r) ∈ b.reports ↔ (k, r) ∈ a.reports := by
  induction h with
  | refl => exact ⟨ha, fun _ => Iff.rfl⟩
  | tail _ hs ih =>
    obtain ⟨hset, hrep⟩ := ih
    obtain ⟨hset', hrep'⟩ := hs.settled hset
    exact ⟨hset', fun r => (hrep' r).trans (hrep r)⟩

end Attempts

end SystemWeaved
