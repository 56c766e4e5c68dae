import Mathlib.Data.Set.Insert
import Mathlib.Logic.Function.Basic

/-!
# Replicas that are told what to read

A store of keyed values, and a replica of it somewhere else. A write sends a notice of the
keys it has changed; the replica receives the notices in order and reads the keys of a
notice one by one, while the store may go on. A read can fail: its key is skipped.

* `Covered`: a key that has changed is up to date, or a notice of it is under way.
* `Whole`: what the replica will be after the notice it is working on (`outcome`) is one of the
  states that have been held, or has a blank in it. Reading keeps it as it is
  (`whole_read`); what a write, a new notice or a skipped key makes of it is `Fits`.
-/

namespace SystemWeaved

structure Replica (κ α β : Type*) where
  store : κ → α
  replica : κ → β
  inFlight : List (List κ)
  /-- The keys of the current notice that are still to be read. -/
  reading : List κ

namespace Replica

variable {κ α β : Type*} {view : α → β} {s : Replica κ α β}

/-- The store changes, and a notice is sent. -/
def write (s : Replica κ α β) (store : κ → α) (keys : List κ) : Replica κ α β :=
  { s with store, inFlight := s.inFlight ++ [keys] }

/-- The replica turns to the next notice. -/
def receive (s : Replica κ α β) (keys : List κ) (rest : List (List κ)) : Replica κ α β :=
  { s with inFlight := rest, reading := keys }

/-- The replica reads a key. -/
def read [DecidableEq κ] (view : α → β) (s : Replica κ α β) (k : κ) (rest : List κ) : Replica κ α β :=
  { s with replica := Function.update s.replica k (view (s.store k)), reading := rest }

/-- The replica skips a key. -/
def skip (s : Replica κ α β) (rest : List κ) : Replica κ α β := { s with reading := rest }

/-! ## Nothing is lost -/

/-- A key that has changed is up to date in the replica, or will be read. -/
def Covered (view : α → β) (changed : Set κ) (s : Replica κ α β) : Prop :=
  ∀ k ∈ changed, s.replica k = view (s.store k) ∨ k ∈ s.reading ∨ ∃ keys ∈ s.inFlight, k ∈ keys

theorem Covered.write {changed changed' : Set κ} {store : κ → α} {keys : List κ}
    (h : Covered view changed s) (hkeys : ∀ k, store k ≠ s.store k → k ∈ keys)
    (hchanged : ∀ k ∈ changed', k ∈ changed ∨ store k ≠ s.store k) :
    Covered view changed' (s.write store keys) := by
  intro k hk
  have hsent : keys ∈ s.inFlight ++ [keys] := List.mem_append_right _ List.mem_cons_self
  by_cases hne : store k = s.store k
  · rcases h k ((hchanged k hk).resolve_right (not_not.2 hne)) with hr | hr | ⟨keys', hmem, hr⟩
    · exact .inl (hr.trans (congrArg view hne.symm))
    · exact .inr (.inl hr)
    · exact .inr (.inr ⟨keys', List.mem_append_left _ hmem, hr⟩)
  · exact .inr (.inr ⟨keys, hsent, hkeys k hne⟩)

theorem Covered.receive {changed : Set κ} {keys : List κ} {rest : List (List κ)}
    (h : Covered view changed s) (hidle : s.reading = []) (hnext : s.inFlight = keys :: rest) :
    Covered view changed (s.receive keys rest) := by
  intro k hk
  rcases h k hk with hr | hr | ⟨keys', hmem, hr⟩
  · exact .inl hr
  · rw [hidle] at hr
    cases hr
  · rw [hnext] at hmem
    rcases List.mem_cons.1 hmem with rfl | hmem
    · exact .inr (.inl hr)
    · exact .inr (.inr ⟨keys', hmem, hr⟩)

theorem Covered.read [DecidableEq κ] {changed : Set κ} {k : κ} {rest : List κ} (h : Covered view changed s)
    (hnext : s.reading = k :: rest) : Covered view changed (s.read view k rest) := by
  intro k' hk'
  by_cases heq : k' = k
  · subst heq
    exact .inl (Function.update_self _ _ _)
  · rcases h k' hk' with hr | hr | hr
    · exact .inl ((Function.update_of_ne heq _ _).trans hr)
    · rw [hnext] at hr
      exact .inr (.inl ((List.mem_cons.1 hr).resolve_left heq))
    · exact .inr (.inr hr)

/-! ## Nothing is torn -/

variable [DecidableEq κ]

/-- The replica after the keys have been read from the store. -/
def outcome (view : α → β) (replica : κ → β) (store : κ → α) (keys : List κ) (k : κ) : β :=
  if k ∈ keys then view (store k) else replica k

/-- The values that stay in the replica and those that it will read belong together: they are
one state that has been held, or one of them is blank. -/
def Fits (view : α → β) (blank : β) (held : Set (κ → β)) (replica : κ → β) (store : κ → α) (keys : List κ) : Prop :=
  outcome view replica store keys ∈ held ∨ ∃ k, outcome view replica store keys k = blank

/-- If the store stays as it is, the replica will be a state that has been held, or will have
a blank. -/
def Whole (view : α → β) (blank : β) (held : Set (κ → β)) (s : Replica κ α β) : Prop :=
  Fits view blank held s.replica s.store s.reading

variable {blank : β} {held held' : Set (κ → β)}

theorem Fits.mono {replica : κ → β} {store : κ → α} {keys : List κ}
    (h : Fits view blank held replica store keys) (hsub : held ⊆ held') :
    Fits view blank held' replica store keys := by
  rcases h with hheld | hblank
  · exact .inl (hsub hheld)
  · exact .inr hblank

/-- Only the values that will be read matter. -/
theorem Fits.store_congr {replica : κ → β} {store store' : κ → α} {keys : List κ}
    (h : Fits view blank held replica store keys) (hsame : ∀ k ∈ keys, store' k = store k) :
    Fits view blank held replica store' keys := by
  have houtcome : outcome view replica store' keys = outcome view replica store keys := by
    funext k
    unfold outcome
    split
    · rename_i hk
      rw [hsame k hk]
    · rfl
  unfold Fits
  rw [houtcome]
  exact h

/-- Reading does not change what the replica will be. -/
theorem whole_read {k : κ} {rest : List κ} (hnext : s.reading = k :: rest) :
    Whole view blank held (s.read view k rest) ↔ Whole view blank held s := by
  have houtcome : outcome view (s.read view k rest).replica s.store rest =
      outcome view s.replica s.store s.reading := by
    funext k'
    unfold outcome
    rw [hnext]
    by_cases hrest : k' ∈ rest
    · rw [if_pos hrest, if_pos (List.mem_cons_of_mem _ hrest)]
    · rw [if_neg hrest]
      by_cases hk : k' = k
      · subst hk
        rw [if_pos List.mem_cons_self]
        exact Function.update_self _ _ _
      · rw [if_neg fun hmem => hrest ((List.mem_cons.1 hmem).resolve_left hk)]
        exact Function.update_of_ne hk _ _
  unfold Whole Fits
  rw [← houtcome]
  rfl

/-- With nothing to read, the replica is what it will be. -/
theorem whole_idle (hidle : s.reading = []) :
    Whole view blank held s ↔ s.replica ∈ held ∨ ∃ k, s.replica k = blank := by
  have houtcome : outcome view s.replica s.store s.reading = s.replica := by
    funext k
    unfold outcome
    rw [hidle, if_neg List.not_mem_nil]
  unfold Whole Fits
  rw [houtcome]

end Replica

end SystemWeaved
