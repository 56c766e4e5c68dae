import SystemWeaved.Lib.Ledger
import SystemWeaved.Spec.SocketStream

/-!
# The descriptors of a connection

The descriptors are kept in a `ledger`: `socket()` acquires one, `close()` releases it.

* `connectLoop_fd`, `connectLoop_tried`, `connectLoop_held`: the loop stops at the first address
  that connects, with its descriptor and no other one in hand (`Connects`).
* `NoLeak`: what a call of `ConnectBlocking` should do; `NoLeak.closed_once` counts the calls.
* `noLeak_iff`: it does so **exactly when** the first address that connects has not got
  descriptor 0, which the loop takes for a success and `ConnectBlocking` for a failure.
-/

namespace SystemWeaved

/-- The address can be connected. -/
def Address.connects (a : Address) : Bool := decide (0 ≤ a.socketResult ∧ a.connectResult = 0)

/-- The address that a call tries. -/
def SocketCall.tried : SocketCall → Option AddrInfo
  | socket info _ => some info
  | _ => none

/-- The use of a descriptor. A negative result of `socket()` is none. -/
def SocketCall.use : SocketCall → Option (Use ℤ)
  | socket _ result => if result < 0 then none else some (.acquire result)
  | close fd => some (.release fd)
  | _ => none

namespace ConnectAnswers

/-- The resolved addresses. -/
def addresses (answers : ConnectAnswers) : List Address := answers.getaddrinfo.getD []

/-- The first address that can be connected. -/
def first (answers : ConnectAnswers) : Option Address := answers.addresses.find? Address.connects

end ConnectAnswers

/-- The addresses up to the first that can be connected. -/
def upToFirst (addresses : List Address) : List Address :=
  addresses.takeWhile (fun a => !a.connects) ++ (addresses.find? Address.connects).toList

namespace SocketStream

variable {answers : ConnectAnswers} {a : Address} {rest : List Address} {fd : ℤ}

/-! ## The loop -/

theorem connectLoop_failed (h : a.socketResult < 0) : connectLoop (a :: rest) fd =
    ((connectLoop rest a.socketResult).1, .socket a.info a.socketResult :: (connectLoop rest a.socketResult).2) := by
  rw [connectLoop]
  exact if_pos h

theorem connectLoop_connected (h : a.connects) : connectLoop (a :: rest) fd =
    (a.socketResult, [.socket a.info a.socketResult, .connect a.socketResult a.info.addr]) := by
  obtain ⟨hfd, hconnect⟩ := of_decide_eq_true h
  rw [connectLoop]
  dsimp only
  rw [if_neg (by omega), if_pos hconnect]

theorem connectLoop_refused (hfd : 0 ≤ a.socketResult) (h : ¬ a.connects) : connectLoop (a :: rest) fd =
    ((connectLoop rest (-1)).1, .socket a.info a.socketResult ::
      .connect a.socketResult a.info.addr :: .close a.socketResult :: (connectLoop rest (-1)).2) := by
  have hconnect : ¬ a.connectResult = 0 := fun h0 => h (decide_eq_true ⟨hfd, h0⟩)
  rw [connectLoop]
  dsimp only
  rw [if_neg (by omega), if_neg hconnect]

/-- An address connects, or gets no socket, or gets one that is refused. -/
theorem outcome_cases (a : Address) :
    a.connects ∨ (a.socketResult < 0 ∧ ¬ a.connects) ∨ (0 ≤ a.socketResult ∧ ¬ a.connects) := by
  by_cases hc : a.connects
  · exact .inl hc
  · rcases lt_or_ge a.socketResult 0 with hs | hs
    · exact .inr (.inl ⟨hs, hc⟩)
    · exact .inr (.inr ⟨hs, hc⟩)

theorem find_nonneg {addresses : List Address} (h : addresses.find? Address.connects = some a) :
    0 ≤ a.socketResult := by
  have hc := List.find?_some h
  exact (of_decide_eq_true hc).1

/-- **The loop leaves the descriptor of the first address that connects**, or a negative value. -/
theorem connectLoop_fd (addresses : List Address) :
    ∀ fd < 0, (∀ a, addresses.find? Address.connects = some a → (connectLoop addresses fd).1 = a.socketResult) ∧
      (addresses.find? Address.connects = none → (connectLoop addresses fd).1 < 0) := by
  induction addresses with
  | nil =>
    intro fd hfd
    refine ⟨fun b hb => ?_, fun _ => hfd⟩
    cases hb
  | cons a rest ih =>
    intro fd hfd
    rcases outcome_cases a with hc | ⟨hs, hc⟩ | ⟨hs, hc⟩
    · rw [List.find?_cons_of_pos hc, connectLoop_connected hc]
      refine ⟨fun b hb => ?_, fun hnone => absurd hnone (Option.some_ne_none a)⟩
      have hab : a = b := Option.some.inj hb
      rw [hab]
    · rw [List.find?_cons_of_neg hc, connectLoop_failed hs]
      exact ih _ hs
    · rw [List.find?_cons_of_neg hc, connectLoop_refused hs hc]
      exact ih (-1) (by omega)

@[simp] theorem upToFirst_of_connects (hc : a.connects) : upToFirst (a :: rest) = [a] := by
  simp [upToFirst, hc]

@[simp] theorem upToFirst_of_not_connects (hc : ¬ a.connects) :
    upToFirst (a :: rest) = a :: upToFirst rest := by
  simp [upToFirst, hc]

/-- **The loop tries the addresses up to the first that connects**, in their order. -/
theorem connectLoop_tried (addresses : List Address) : ∀ fd,
    (connectLoop addresses fd).2.filterMap SocketCall.tried = (upToFirst addresses).map Address.info := by
  induction addresses with
  | nil => exact fun _ => rfl
  | cons a rest ih =>
    intro fd
    rcases outcome_cases a with hc | ⟨hs, hc⟩ | ⟨hs, hc⟩
    · rw [connectLoop_connected hc, upToFirst_of_connects hc]
      rfl
    · rw [upToFirst_of_not_connects hc, List.map_cons, connectLoop_failed hs, ← ih a.socketResult]
      rfl
    · rw [upToFirst_of_not_connects hc, List.map_cons, connectLoop_refused hs hc, ← ih (-1)]
      rfl

/-- The uses of descriptors in a list of calls. -/
def uses (calls : List SocketCall) : List (Use ℤ) := calls.filterMap SocketCall.use

theorem uses_append (calls calls' : List SocketCall) : uses (calls ++ calls') = uses calls ++ uses calls' :=
  List.filterMap_append

/-- **After the loop the descriptor of the first address that connects is in hand**, and no
other one. -/
theorem connectLoop_held (addresses : List Address) : ∀ fd,
    (ledger ℤ).run [] (uses (connectLoop addresses fd).2) =
      some ((addresses.find? Address.connects).toList.map Address.socketResult) := by
  induction addresses with
  | nil => exact fun _ => rfl
  | cons a rest ih =>
    intro fd
    rcases outcome_cases a with hc | ⟨hs, hc⟩ | ⟨hs, hc⟩
    · have hfd : ¬ a.socketResult < 0 := not_lt.2 (of_decide_eq_true hc).1
      rw [connectLoop_connected hc, List.find?_cons_of_pos hc]
      simp only [uses, List.filterMap_cons, SocketCall.use, if_neg hfd, List.filterMap_nil]
      rfl
    · -- no descriptor has come into hand
      rw [List.find?_cons_of_neg hc, connectLoop_failed hs, ← ih a.socketResult]
      simp only [uses, List.filterMap_cons, SocketCall.use, if_pos hs]
    · -- it is closed before the next address is tried
      rw [List.find?_cons_of_neg hc, connectLoop_refused hs hc, ← ih (-1)]
      simp only [uses, List.filterMap_cons, SocketCall.use, if_neg (not_lt.2 hs)]
      exact ledger_pair _ _ _

/-! ## The calls -/

/-- What `ConnectSocket` does: `fd` is what it returns. -/
structure Connects (answers : ConnectAnswers) (fd : ℤ) (calls : List SocketCall) : Prop where
  found : ∀ a, answers.first = some a → fd = a.socketResult
  nothing : answers.first = none → fd < 0
  tried : calls.filterMap SocketCall.tried = (upToFirst answers.addresses).map Address.info
  held : (ledger ℤ).run [] (uses calls) = some (answers.first.toList.map Address.socketResult)

theorem connectSocket_connects (answers : ConnectAnswers) (host : String) (port : UInt16) :
    Connects answers (connectSocket answers host port).1 (connectSocket answers host port).2 := by
  unfold connectSocket
  rcases hresolve : answers.getaddrinfo with _ | result
  · have haddresses : answers.addresses = [] := by simp [ConnectAnswers.addresses, hresolve]
    have hfirst : answers.first = none := by simp [ConnectAnswers.first, haddresses]
    refine ⟨fun a ha => ?_, fun _ => by simp, ?_, ?_⟩
    · rw [hfirst] at ha
      cases ha
    · rw [haddresses]
      rfl
    · rw [hfirst]
      rfl
  · have haddresses : answers.addresses = result := by simp [ConnectAnswers.addresses, hresolve]
    have hfirst : answers.first = result.find? Address.connects := by rw [ConnectAnswers.first, haddresses]
    have hfd := connectLoop_fd result (-1) (by omega)
    rw [← hfirst] at hfd
    refine ⟨hfd.1, hfd.2, ?_, ?_⟩
    · have htried := connectLoop_tried result (-1)
      rw [haddresses]
      simpa [List.filterMap_cons, SocketCall.tried] using htried
    · have hheld := connectLoop_held result (-1)
      rw [hfirst]
      simpa [uses, List.filterMap_cons, SocketCall.use] using hheld

/-- **How `ConnectBlocking` ends**, by the descriptor it goes on with. -/
inductive ConnectCases (answers : ConnectAnswers) (calls : List SocketCall) (fd : ℤ) :
    Option SocketStream × List SocketCall → Prop
  | failed (hfd : fd ≤ 0) : ConnectCases answers calls fd (none, calls)
  | made (hfd : 0 < fd) (hmade : answers.fromFileDescriptor fd = true) :
      ConnectCases answers calls fd (some ⟨fd⟩, calls ++ [.fromFileDescriptor fd true])
  | refused (hfd : 0 < fd) (hmade : answers.fromFileDescriptor fd = false) :
      ConnectCases answers calls fd (none, calls ++ [.fromFileDescriptor fd true, .close fd])

theorem connectBlocking_cases (answers : ConnectAnswers) (host : String) (port : UInt16) :
    ConnectCases answers (connectSocket answers host port).2 (connectSocket answers host port).1
      (connectBlocking answers host port) := by
  unfold connectBlocking
  dsimp only
  by_cases hfd : (connectSocket answers host port).1 ≤ 0
  · rw [if_pos hfd]
    exact .failed hfd
  · rw [if_neg hfd]
    rcases hmade : answers.fromFileDescriptor (connectSocket answers host port).1
    · exact .refused (by omega) hmade
    · exact .made (by omega) hmade

/-! ## No leak -/

/-- **No descriptor leaks**: what `ConnectBlocking` should return, and the calls it should make. -/
structure NoLeak (answers : ConnectAnswers) (result : Option SocketStream × List SocketCall) : Prop where
  /-- A stream comes back exactly if an address connects and the stream can be made. -/
  made : result.1.isSome ↔ ∃ a, answers.first = some a ∧ answers.fromFileDescriptor a.socketResult = true
  /-- It owns the descriptor of the first address that connects. -/
  owned : ∀ stream, result.1 = some stream → ∃ a, answers.first = some a ∧ stream.fd = a.socketResult
  /-- No later address is tried. -/
  tried : result.2.filterMap SocketCall.tried = (upToFirst answers.addresses).map Address.info
  /-- Only the descriptor of the stream is still in hand. -/
  held : (ledger ℤ).run [] (uses result.2) = some (result.1.toList.map SocketStream.fd)

/-- Every opening of a descriptor is closed once, but for the one that the stream owns. -/
theorem NoLeak.closed_once {result : Option SocketStream × List SocketCall} (h : NoLeak answers result) (fd : ℤ) :
    (uses result.2).count (.acquire fd) =
      (uses result.2).count (.release fd) + (result.1.toList.map SocketStream.fd).count fd :=
  ledger_count h.held fd

namespace Connects

variable {calls : List SocketCall} (h : Connects answers fd calls)
include h

/-- A descriptor comes from the first address that connects. -/
theorem address (hfd : 0 ≤ fd) : ∃ a, answers.first = some a ∧ fd = a.socketResult := by
  rcases hfirst : answers.first with _ | a
  · have := h.nothing hfirst
    omega
  · exact ⟨a, rfl, h.found a hfirst⟩

theorem ne_zero_iff : (∀ a, answers.first = some a → a.socketResult ≠ 0) ↔ fd ≠ 0 := by
  constructor
  · intro hne hzero
    obtain ⟨a, hfirst, hfd⟩ := h.address (by omega)
    exact hne a hfirst (by omega)
  · intro hne a hfirst
    rw [← h.found a hfirst]
    exact hne

/-- Without a descriptor there is nothing to close; descriptor 0 stays in hand. -/
theorem failed_iff (hfd : fd ≤ 0) : NoLeak answers (none, calls) ↔ fd ≠ 0 := by
  constructor
  · intro hleak hzero
    obtain ⟨a, hfirst, -⟩ := h.address (by omega)
    have hhand := h.held.symm.trans hleak.held
    simp [hfirst] at hhand
  · intro hne
    have hfirst : answers.first = none := by
      rcases hfirst : answers.first with _ | a
      · rfl
      · have hnonneg := find_nonneg hfirst
        have := h.found a hfirst
        omega
    refine ⟨by simp [hfirst], fun stream hstream => ?_, h.tried, ?_⟩
    · cases hstream
    · rw [h.held, hfirst]
      rfl

/-- The stream owns the descriptor in hand. -/
theorem made (hfd : 0 < fd) (hmade : answers.fromFileDescriptor fd = true) :
    NoLeak answers (some ⟨fd⟩, calls ++ [.fromFileDescriptor fd true]) := by
  obtain ⟨a, hfirst, rfl⟩ := h.address (by omega)
  refine ⟨by simp [hfirst, hmade], fun stream hstream => ⟨a, hfirst, ?_⟩, ?_, ?_⟩
  · rw [← Option.some.inj hstream]
  · simpa [List.filterMap_cons, SocketCall.tried] using h.tried
  · rw [uses_append, Machine.run_append, h.held, hfirst]
    rfl

/-- The descriptor in hand is closed. -/
theorem refused (hfd : 0 < fd) (hmade : answers.fromFileDescriptor fd = false) :
    NoLeak answers (none, calls ++ [.fromFileDescriptor fd true, .close fd]) := by
  obtain ⟨a, hfirst, rfl⟩ := h.address (by omega)
  refine ⟨by simp [hfirst, hmade], fun stream hstream => ?_, ?_, ?_⟩
  · cases hstream
  · simpa [List.filterMap_cons, SocketCall.tried] using h.tried
  · rw [uses_append, Machine.run_append, h.held, hfirst]
    exact ledger_release [] a.socketResult []

end Connects

/-- **When nothing leaks**: exactly when the first address that connects has another descriptor
than 0. -/
theorem noLeak_iff (answers : ConnectAnswers) (host : String) (port : UInt16) :
    NoLeak answers (connectBlocking answers host port) ↔
      ∀ a, answers.first = some a → a.socketResult ≠ 0 := by
  have h := connectSocket_connects answers host port
  have hcases := connectBlocking_cases answers host port
  rw [h.ne_zero_iff]
  generalize connectBlocking answers host port = result at hcases ⊢
  cases hcases with
  | failed hfd => exact h.failed_iff hfd
  | made hfd hmade => exact ⟨fun _ => by omega, fun _ => h.made hfd hmade⟩
  | refused hfd hmade => exact ⟨fun _ => by omega, fun _ => h.refused hfd hmade⟩

/-- One address, which connects on the descriptor of the closed standard input. -/
def stdinAnswers : ConnectAnswers where
  getaddrinfo := some [⟨⟨2, 1, 6, [127, 0, 0, 1]⟩, 0, 0⟩]
  fromFileDescriptor _ := true

/-- Descriptor 0 is connected, not returned and not closed. -/
theorem descriptor_zero_leaks : ¬ NoLeak stdinAnswers (connectBlocking stdinAnswers "localhost" 443) := by
  intro h
  have hmade := h.made
  revert hmade
  decide

end SocketStream

end SystemWeaved
