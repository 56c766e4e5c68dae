import SystemWeaved.Lib.Machine

/-!
# Resources that are acquired and released

`ledger` keeps the resources in hand, by their names. Only a resource in hand can be released;
its name may then come again.

* `ledger_count`: every acquisition of a name has been released once, but for those in hand.
* `ledger_pair`: to acquire a resource and to release it at once changes nothing.
-/

namespace SystemWeaved

/-- One use of a resource of that name. -/
inductive Use (α : Type*)
  | acquire (r : α)
  | release (r : α)
  deriving DecidableEq

variable {α : Type*} [DecidableEq α]

/-- The resources in hand. -/
def ledger (α : Type*) [DecidableEq α] : Machine (List α) (Use α) where
  start held := held = []
  next held
    | .acquire r => some (r :: held)
    | .release r => if r ∈ held then some (held.erase r) else none

theorem ledger_release (held : List α) (r : α) (uses : List (Use α)) :
    (ledger α).run (r :: held) (.release r :: uses) = (ledger α).run held uses := by
  have hrelease : (ledger α).next (r :: held) (.release r) = some held := by
    show (if r ∈ r :: held then some ((r :: held).erase r) else none) = some held
    rw [if_pos List.mem_cons_self, List.erase_cons_head]
  exact Machine.run_cons hrelease uses

theorem ledger_pair (held : List α) (r : α) (uses : List (Use α)) :
    (ledger α).run held (.acquire r :: .release r :: uses) = (ledger α).run held uses := by
  have hacquire : (ledger α).next held (.acquire r) = some (r :: held) := rfl
  rw [Machine.run_cons hacquire, ledger_release]

/-- One use moves a name from the acquired ones into the hand, or out of it. -/
theorem ledger_next_count {held held' : List α} {use : Use α} (h : (ledger α).next held use = some held')
    (r : α) : [use].count (.acquire r) + held.count r = [use].count (.release r) + held'.count r := by
  rcases use with r' | r'
  · have heq : r' :: held = held' := Option.some.inj h
    by_cases hr : r' = r
    · simp [← heq, hr, Nat.add_comm]
    · simp [← heq, hr]
  · change (if r' ∈ held then some (held.erase r') else none) = some held' at h
    by_cases hmem : r' ∈ held
    · have heq : held.erase r' = held' := by simpa [hmem] using h
      rw [← heq]
      by_cases hr : r' = r
      · have hpos : 0 < held.count r' := List.count_pos_iff.2 hmem
        simp only [hr, List.count_erase_self, List.count_singleton, beq_self_eq_true, if_true, beq_iff_eq,
          reduceCtorEq, if_false] at hpos ⊢
        omega
      · have hne : r ≠ r' := Ne.symm hr
        simp [hr, List.count_erase_of_ne hne]
    · simp [hmem] at h

/-- **Every acquisition is released once or still in hand.** -/
theorem ledger_count {held held' : List α} {uses : List (Use α)}
    (h : (ledger α).run held uses = some held') (r : α) :
    uses.count (.acquire r) + held.count r = uses.count (.release r) + held'.count r := by
  induction uses generalizing held with
  | nil =>
    cases h
    rfl
  | cons use uses ih =>
    obtain ⟨next, hnext, hrun⟩ := Option.bind_eq_some_iff.1 h
    have hstep := ledger_next_count hnext r
    have hrest := ih hrun
    rw [← List.singleton_append, List.count_append, List.count_append]
    omega

end SystemWeaved
