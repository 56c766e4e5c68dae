import SystemWeaved.Lib.Simulation
import SystemWeaved.Proof.Attempts

/-!
# The error a connect attempt reports

An attempt should end as its own signals say. `Attempt` is that model: an attempt sees the
state, strength and error values of its service, its timeout and what drops it.

* `attempt_simulation`: `ShillClient` serves an attempt as the model does, but for the error of
  a failed one: `CleanupConnectingService` does not reset `connecting_service_error_`, so an
  attempt that has got no `Error` value fails with the one remembered from before.
* `same_outcome_iff`: two clients without an attempt serve a call in the same way exactly if
  they remember errors of one code, or the attempt does not fail with the remembered error.
-/

namespace SystemWeaved

/-! ## The model of an attempt -/

/-- What an attempt sees. -/
inductive AttemptInput
  | state (state : NetworkState)
  | strength
  | error (value : String)
  | expired
  | dropped
  deriving DecidableEq

/-- An attempt: whether the service has been told to connect again and the last error value in
the attempt, and how it has ended. -/
inductive Attempt
  | running (called : Bool) (error : Option String)
  | dropped
  | connected
  | failed (called : Bool) (error : Option String)
  deriving DecidableEq

namespace AttemptInput

/-- The inputs on which an attempt fails. -/
def fails : AttemptInput → Bool
  | .state .error | .expired => true
  | _ => false

/-- The inputs on which an attempt ends. -/
def ends : AttemptInput → Bool
  | .state .online | .state .error | .expired | .dropped => true
  | _ => false

def isError : AttemptInput → Bool
  | .error _ => true
  | _ => false

end AttemptInput

namespace Attempt

/-- One input. -/
def step : Attempt → AttemptInput → Attempt
  | .running _ _, .state .online => .connected
  | .running called error, .state .error => .failed called error
  | .running called error, .state _ => .running called error
  | .running _ error, .strength => .running true error
  | .running called _, .error value => .running called (some value)
  | .running called error, .expired => .failed called error
  | .running _ _, .dropped => .dropped
  | a, _ => a

/-- The attempt has ended. -/
def isOver : Attempt → Bool
  | .running _ _ => false
  | _ => true

theorem exists_running {a : Attempt} (h : a.isOver = false) : ∃ called old, a = .running called old := by
  cases a with
  | running called old => exact ⟨called, old, rfl⟩
  | _ => cases h

theorem foldl_step_over {a : Attempt} (h : a.isOver) (inputs : List AttemptInput) : inputs.foldl step a = a := by
  induction inputs with
  | nil => rfl
  | cons i inputs ih =>
    have hstep : a.step i = a := by
      cases a with
      | running _ _ => cases h
      | _ => rfl
    rw [List.foldl_cons, hstep, ih]

/-- The code of a reported error value. -/
def errorCode (error : String) : String := if error = "" then shill.kErrorInternal else error

/-- What is reported at the end, with the error value to take for one that the attempt did not get. -/
def report (remembered : String) : Attempt → Option Report
  | .running _ _ | .dropped => none
  | .connected => some (.ran none)
  | .failed called error =>
    let code := errorCode (if called then error.getD remembered else shill.kErrorOutOfRange)
    some (.ran (addTo none ⟨code, "Failed to connect to WiFi network"⟩))

/-- The attempt has failed with an error it did not get. -/
def Leaks (a : Attempt) : Prop := a = .failed true none

theorem report_eq_iff (a : Attempt) (e₁ e₂ : String) :
    a.report e₁ = a.report e₂ ↔ errorCode e₁ = errorCode e₂ ∨ ¬a.Leaks := by
  cases a with
  | failed called error =>
    cases called with
    | false => simp [report, Leaks]
    | true =>
      cases error with
      | some value => simp [report, Leaks]
      | none => simp [report, Leaks, addTo]
  | _ => simp [report, Leaks]

end Attempt

/-- An attempt, whose service has been told to connect again if `called`, fails with an error
it did not get: it fails on its inputs, with the service told by then and no error value before. -/
def LeaksFrom (called : Bool) (inputs : List AttemptInput) : Prop :=
  ∃ before i after, inputs = before ++ i :: after ∧ i.fails ∧ (called ∨ .strength ∈ before) ∧
    ∀ j ∈ before, ¬j.ends ∧ ¬j.isError

/-- The attempt of these inputs fails with an error it did not get. -/
abbrev LeaksError (inputs : List AttemptInput) : Prop := LeaksFrom false inputs

theorem leaksFrom_cons {called : Bool} {i : AttemptInput} {inputs : List AttemptInput} :
    LeaksFrom called (i :: inputs) ↔ i.fails ∧ called ∨
      (¬i.ends ∧ ¬i.isError) ∧ LeaksFrom (called || decide (i = .strength)) inputs := by
  have hcond : (called || decide (i = .strength)) = true ↔ called = true ∨ .strength = i := by
    rw [Bool.or_eq_true, decide_eq_true_iff, eq_comm (a := i)]
  constructor
  · rintro ⟨before, j, after, heq, hfails, hcalled, hbefore⟩
    cases before with
    | nil =>
      obtain ⟨rfl, rfl⟩ := List.cons.inj heq
      exact .inl ⟨hfails, by simpa using hcalled⟩
    | cons b before =>
      obtain ⟨rfl, rfl⟩ := List.cons.inj heq
      obtain ⟨hb, hrest⟩ := List.forall_mem_cons.1 hbefore
      refine .inr ⟨hb, before, j, after, rfl, hfails, ?_, hrest⟩
      rwa [List.mem_cons, ← or_assoc, ← hcond] at hcalled
  · rintro (⟨hfails, hcalled⟩ | ⟨hi, before, j, after, rfl, hfails, hcalled, hbefore⟩)
    · exact ⟨[], i, inputs, rfl, hfails, .inl hcalled, by simp⟩
    · refine ⟨i :: before, j, after, rfl, hfails, ?_, List.forall_mem_cons.2 ⟨hi, hbefore⟩⟩
      rwa [List.mem_cons, ← or_assoc, ← hcond]

/-- An error value that the attempt has got is not forgotten. -/
theorem foldl_step_some (called : Bool) (value : String) (inputs : List AttemptInput) :
    ¬(inputs.foldl Attempt.step (.running called (some value))).Leaks := by
  induction inputs generalizing called value with
  | nil => simp [Attempt.Leaks]
  | cons i inputs ih =>
    have hover : ∀ a : Attempt, a.isOver → ¬a.Leaks → ¬(inputs.foldl Attempt.step a).Leaks := by
      intro a ha hnot
      rwa [Attempt.foldl_step_over ha]
    rw [List.foldl_cons]
    cases i with
    | state n =>
      cases n with
      | offline => exact ih called value
      | connecting => exact ih called value
      | online => exact hover _ rfl (by simp [Attempt.step, Attempt.Leaks])
      | error => exact hover _ rfl (by simp [Attempt.step, Attempt.Leaks])
    | strength => exact ih true value
    | error v => exact ih called v
    | expired => exact hover _ rfl (by simp [Attempt.step, Attempt.Leaks])
    | dropped => exact hover _ rfl (by simp [Attempt.step, Attempt.Leaks])

theorem leaks_foldl_iff (inputs : List AttemptInput) (called : Bool) :
    (inputs.foldl Attempt.step (.running called none)).Leaks ↔ LeaksFrom called inputs := by
  induction inputs generalizing called with
  | nil => simp [LeaksFrom, Attempt.Leaks]
  | cons i inputs ih =>
    have hover : ∀ a : Attempt, a.isOver → ((inputs.foldl Attempt.step a).Leaks ↔ a.Leaks) := by
      intro a ha
      rw [Attempt.foldl_step_over ha]
    rw [List.foldl_cons, leaksFrom_cons]
    cases i with
    | state n =>
      cases n with
      | offline =>
        refine (ih called).trans ?_
        simp [AttemptInput.fails, AttemptInput.ends, AttemptInput.isError]
      | connecting =>
        refine (ih called).trans ?_
        simp [AttemptInput.fails, AttemptInput.ends, AttemptInput.isError]
      | online =>
        refine (hover _ rfl).trans ?_
        simp [Attempt.step, Attempt.Leaks, AttemptInput.fails, AttemptInput.ends]
      | error =>
        refine (hover _ rfl).trans ?_
        simp [Attempt.step, Attempt.Leaks, AttemptInput.fails, AttemptInput.ends]
    | strength =>
      refine (ih true).trans ?_
      simp [AttemptInput.fails, AttemptInput.ends, AttemptInput.isError]
    | error v =>
      refine iff_of_false (foldl_step_some called v inputs) ?_
      simp [AttemptInput.fails, AttemptInput.isError]
    | expired =>
      refine (hover _ rfl).trans ?_
      simp [Attempt.step, Attempt.Leaks, AttemptInput.fails, AttemptInput.ends]
    | dropped =>
      refine (hover _ rfl).trans ?_
      simp [Attempt.step, Attempt.Leaks, AttemptInput.fails, AttemptInput.ends]

/-! ## What the events are to an attempt -/

namespace ShillClient

variable {s t : ShillClient}

/-- A property value of the service. -/
def propertyInput (name : String) (value : Any) : List AttemptInput :=
  if name = shill.kStateProperty then
    if value.tryGetString = "" then [] else [.state (shillServiceStateToNetworkState value.tryGetString)]
  else if name = shill.kSignalStrengthProperty then if value.tryGetUInt8 = 0 then [] else [.strength]
  else if name = shill.kErrorProperty then [.error value.tryGetString]
  else []

/-- A property of the service, if it is there. -/
def dictionaryInput (properties : VariantDictionary) (name : String) : List AttemptInput :=
  match properties name with
  | none => []
  | some value => propertyInput name value

/-- What the attempt for the service at `path` sees of an event. A timeout is its own. -/
def Event.inputs (path : ObjectPath) : Event → List AttemptInput
  | .serviceProperty p name value _ => if p = path then propertyInput name value else []
  | .serviceRegistration p success replies _ =>
    if p ≠ path then []
    else if !success then [.dropped]
    else
      match replies.service with
      | none => []
      | some properties =>
        [shill.kStateProperty, shill.kSignalStrengthProperty, shill.kErrorProperty].flatMap
          (dictionaryInput properties)
  | .timeout _ _ => [.expired]
  | .ownerChange _ _ => [.dropped]
  | _ => []

/-- The event, with any timeout that of the attempt of call `k` at `path`. -/
def Event.forCall (k : ℕ) (path : ObjectPath) : Event → Event
  | .timeout _ reentry => .timeout ⟨.connect k, path⟩ reentry
  | e => e

/-- The only timeout is that of the attempt. -/
def Event.OwnTimeout (k : ℕ) (path : ObjectPath) : Event → Prop
  | .timeout service _ => service = ⟨.connect k, path⟩
  | _ => True

/-- The model of an attempt for the service at `path`, on the client's events. -/
def attemptModel (path : ObjectPath) : Machine Attempt Event where
  start a := a = .running false none
  next a e := some ((e.inputs path).foldl Attempt.step a)

theorem attemptModel_run (path : ObjectPath) (es : List Event) (a : Attempt) :
    (attemptModel path).run a es = some ((es.flatMap (Event.inputs path)).foldl Attempt.step a) := by
  induction es generalizing a with
  | nil => rfl
  | cons e es ih =>
    rw [List.flatMap_cons, List.foldl_append]
    exact ih _

/-! ## The client serves an attempt as the model does -/

/-- The attempt of call `k` for the service at `path` is in the state `a`, in a client that
remembered the error `e₀` before it. -/
inductive AttemptAt (k : ℕ) (path : ObjectPath) (e₀ : String) (s : ShillClient) : Attempt → Prop
  | running {called : Bool} {error : Option String} (hlinked : Linked s) (hk : k < s.calls)
      (hcallback : s.connectDoneCallback = some k) (hservice : s.connectingService = some ⟨.connect k, path⟩)
      (hcalled : s.haveCalledConnect = called) (herror : s.connectingServiceError = error.getD e₀)
      (hreports : ∀ r, (k, r) ∉ s.attempts.reports) : AttemptAt k path e₀ s (.running called error)
  | ended {a : Attempt} (hlinked : Linked s) (hover : a.isOver) (hsettled : s.attempts.Settled k)
      (hreports : ∀ r, (k, r) ∈ s.attempts.reports ↔ a.report e₀ = some r) : AttemptAt k path e₀ s a

/-- The attempt is unchanged, with what it knows of the service. -/
structure SameConnecting (s t : ShillClient) : Prop extends SameAttempt s t where
  called : t.haveCalledConnect = s.haveCalledConnect
  error : t.connectingServiceError = s.connectingServiceError

variable {k : ℕ} {path : ObjectPath} {e₀ : String} {a : Attempt} {keep : Prop} {ok : ℕ → Prop}

theorem AttemptAt.linked (h : AttemptAt k path e₀ s a) : Linked s := by
  cases h with
  | running hlinked => exact hlinked
  | ended hlinked => exact hlinked

/-- The reports of a client are final for an attempt that has ended. -/
theorem AttemptAt.ended_moves (h : AttemptAt k path e₀ s a) (hover : a.isOver) (hm : Moves keep ok s t) :
    AttemptAt k path e₀ t a := by
  cases h with
  | running => cases hover
  | ended hlinked _ hsettled hreports =>
    obtain ⟨hset, hrep⟩ := (hm.steps hlinked).settled hsettled
    exact .ended (hm.linked hlinked) hover hset fun r => (hrep r).trans (hreports r)

theorem SameAttempt.linked (h : SameAttempt s t) (hs : Linked s) : Linked t := by
  have hmove : Move True (fun _ => True) s t := .quiet h
  exact hmove.linked hs

theorem AttemptAt.quiet (h : AttemptAt k path e₀ s a) (hst : SameConnecting s t) : AttemptAt k path e₀ t a := by
  have hsame := hst.toSameAttempt
  have hlinked : Linked t := hsame.linked h.linked
  cases h with
  | running _ hk hcallback hservice hcalled herror hreports =>
    refine .running hlinked (hsame.calls ▸ hk) (hsame.callback.trans hcallback) (hsame.service.trans hservice)
      (hst.called.trans hcalled) (hst.error.trans herror) ?_
    rw [hsame.attempts]
    exact hreports
  | ended _ hover hsettled hreports =>
    refine .ended hlinked hover (hsame.attempts ▸ hsettled) ?_
    rw [hsame.attempts]
    exact hreports

theorem AttemptAt.callback {called : Bool} {old : Option String}
    (h : AttemptAt k path e₀ s (.running called old)) : s.connectDoneCallback = some k := by
  cases h with
  | ended _ hover' => cases hover'
  | running _ _ hcallback => exact hcallback

/-- The callback of a running attempt is run. -/
theorem AttemptAt.ran {called : Bool} {old : Option String} (h : AttemptAt k path e₀ s (.running called old))
    {error : ErrorPtr WeaveError} (hover : a.isOver) (hreport : a.report e₀ = some (.ran error)) :
    AttemptAt k path e₀ (s.cleanupConnectingService.emit (.runDone k error)) a := by
  cases h with
  | ended _ hover' => cases hover'
  | running hlinked hk hcallback hservice _ _ hreports =>
    have hmove : Move True (fun _ => True) s (s.cleanupConnectingService.emit (.runDone k error)) :=
      .finish s k error hcallback fun _ => trivial
    refine .ended (hmove.linked hlinked) hover ⟨hk, by simp [attempts, emit, cleanupConnectingService]⟩ fun r => ?_
    have hcleanup := cleanup_reports s
    simp only [attempts] at hcleanup hreports
    simp only [attempts, emit, List.filterMap_cons, Effect.report, hcleanup, List.mem_cons, hreports r, or_false,
      Prod.mk.injEq, true_and]
    rw [hreport, Option.some_inj, eq_comm]

/-- A running attempt is finished: what its callback calls comes after the report. -/
theorem AttemptAt.finish {called : Bool} {old : Option String} (h : AttemptAt k path e₀ s (.running called old))
    {error : ErrorPtr WeaveError} (hover : a.isOver) (hreport : a.report e₀ = some (.ran error))
    (reentry : List ConnectCall) : AttemptAt k path e₀ (s.finish error reentry) a := by
  have hreentry : Moves True (fun _ => True) (s.cleanupConnectingService.emit (.runDone k error)) _ :=
    foldl_connect_moves reentry _
  unfold ShillClient.finish runDone
  rw [h.callback]
  exact (h.ran hover hreport).ended_moves hover hreentry

/-- A running attempt is dropped without a report. -/
theorem AttemptAt.drop {called : Bool} {old : Option String} (h : AttemptAt k path e₀ s (.running called old)) :
    AttemptAt k path e₀ s.cleanupConnectingService .dropped := by
  cases h with
  | ended _ hover' => cases hover'
  | running hlinked hk _ _ _ _ hreports =>
    have hmove : Move False (fun _ => True) s s.cleanupConnectingService := .clear s False.elim
    refine .ended (hmove.linked hlinked) rfl ⟨hk, by simp [attempts, cleanupConnectingService]⟩ fun r => ?_
    rw [cleanup_reports]
    exact iff_of_false (hreports r) (by simp [Attempt.report])

theorem AttemptAt.isConnecting {called : Bool} {old : Option String}
    (h : AttemptAt k path e₀ s (.running called old)) (p : ObjectPath) : s.isConnecting p ↔ p = path := by
  cases h with
  | ended _ hover' => cases hover'
  | running _ _ _ hservice =>
    rw [isConnecting_iff, hservice]
    simp [eq_comm]

/-- The error of a running attempt that fails now. -/
theorem AttemptAt.failure {called : Bool} {old : Option String} (h : AttemptAt k path e₀ s (.running called old)) :
    (Attempt.failed called old).report e₀ = some (.ran s.failure) := by
  cases h with
  | ended _ hover' => cases hover'
  | running _ _ _ _ hcalled herror =>
    simp only [Attempt.report, Attempt.errorCode, ShillClient.failure, attemptError, hcalled, herror]

theorem onStateChangeForSelectedService_sameConnecting (s : ShillClient) (p : ObjectPath) (state : String) :
    SameConnecting s (s.onStateChangeForSelectedService p state) := by
  refine ⟨onStateChangeForSelectedService_sameAttempt s p state, ?_, ?_⟩
  · unfold onStateChangeForSelectedService
    split <;> rfl
  · unfold onStateChangeForSelectedService
    split <;> rfl

/-- A state of the service of a running attempt. -/
theorem AttemptAt.state {called : Bool} {old : Option String} (h : AttemptAt k path e₀ s (.running called old))
    (state : String) (reentry : List ConnectCall) :
    AttemptAt k path e₀ (s.onStateChangeForConnectingService state reentry)
      ((Attempt.running called old).step (.state (shillServiceStateToNetworkState state))) := by
  rw [onStateChangeForConnectingService_eq]
  cases shillServiceStateToNetworkState state with
  | offline => exact h
  | connecting => exact h
  | online => exact h.finish rfl rfl reentry
  | error =>
    dsimp only
    rw [if_neg (by simp [h.callback])]
    exact h.finish rfl h.failure reentry

/-- The signal strength of the service of a running attempt. -/
theorem AttemptAt.strength {called : Bool} {old : Option String} (h : AttemptAt k path e₀ s (.running called old))
    (strength : UInt8) : AttemptAt k path e₀ (s.onStrengthChangeForConnectingService strength)
      ((if strength = 0 then [] else [.strength]).foldl Attempt.step (.running called old)) := by
  have hsame := (onStrengthChangeForConnectingService_same s strength).2
  have hlinked : Linked (s.onStrengthChangeForConnectingService strength) := hsame.linked h.linked
  cases h with
  | ended _ hover' => cases hover'
  | running _ hk hcallback hservice hcalled herror hreports =>
    have hnow : ∀ called', (s.onStrengthChangeForConnectingService strength).haveCalledConnect = called' →
        AttemptAt k path e₀ (s.onStrengthChangeForConnectingService strength) (.running called' old) := by
      intro called' hcalled'
      refine .running hlinked (hsame.calls ▸ hk) (hsame.callback.trans hcallback) (hsame.service.trans hservice)
        hcalled' ?_ (hsame.attempts ▸ hreports)
      rw [← herror]
      unfold onStrengthChangeForConnectingService
      split <;> rfl
    unfold onStrengthChangeForConnectingService at hnow ⊢
    by_cases hzero : strength = 0
    · rw [if_pos (.inl hzero)] at hnow ⊢
      rw [if_pos hzero]
      exact hnow called hcalled
    · rw [if_neg hzero]
      refine hnow true ?_
      split
      · rename_i hstop
        exact hstop.resolve_left hzero
      · rfl

/-- **A property of a service**, which the attempt sees if the service is its own. -/
theorem AttemptAt.property (h : AttemptAt k path e₀ s a) (p : ObjectPath) (name : String) (value : Any)
    (reentry : List ConnectCall) : AttemptAt k path e₀ (s.onServicePropertyChange p name value reentry)
      ((if p = path then propertyInput name value else []).foldl Attempt.step a) := by
  cases hover : a.isOver with
  | true =>
    have hmoves : Moves True (fun _ => True) s (s.onServicePropertyChange p name value reentry) :=
      onServicePropertyChange_moves s p name value reentry fun _ _ _ _ _ => trivial
    rw [Attempt.foldl_step_over hover]
    exact h.ended_moves hover hmoves
  | false =>
    obtain ⟨called, old, rfl⟩ := Attempt.exists_running hover
    have hconn := h.isConnecting p
    unfold onServicePropertyChange propertyInput
    dsimp only
    by_cases hstate : name = shill.kStateProperty
    · simp only [if_pos hstate]
      by_cases hempty : value.tryGetString = ""
      · simpa [if_pos hempty] using h
      · have hquiet := h.quiet (onStateChangeForSelectedService_sameConnecting s p value.tryGetString)
        rw [if_neg hempty, if_neg hempty]
        by_cases hp : p = path
        · rw [if_pos (hconn.2 hp), if_pos hp]
          exact hquiet.state _ _
        · rw [if_neg fun h => hp (hconn.1 h), if_neg hp]
          exact hquiet
    · simp only [if_neg hstate]
      by_cases hp : p = path
      · simp only [if_pos hp, if_pos (hconn.2 hp)]
        by_cases hstrength : name = shill.kSignalStrengthProperty
        · simp only [if_pos hstrength]
          exact h.strength _
        · simp only [if_neg hstrength]
          by_cases herror : name = shill.kErrorProperty
          · simp only [if_pos herror]
            cases h with
            | ended _ hover' => cases hover'
            | running hlinked hk hcallback hservice hcalled _ hreports =>
              have hsame : SameAttempt s { s with connectingServiceError := value.tryGetString } :=
                ⟨List.suffix_rfl, rfl, rfl, rfl⟩
              exact .running (hsame.linked hlinked) hk hcallback hservice hcalled rfl hreports
          · simp only [if_neg herror]
            exact h
      · have hnot : ¬s.isConnecting p = true := fun h => hp (hconn.1 h)
        simp only [if_neg hp, if_neg hnot, ite_self]
        exact h

theorem AttemptAt.replay (h : AttemptAt k path e₀ s a) (p : ObjectPath) (properties : VariantDictionary)
    (reentry : List ConnectCall) (name : String) :
    AttemptAt k path e₀ (s.replayProperty p properties reentry name)
      ((if p = path then dictionaryInput properties name else []).foldl Attempt.step a) := by
  unfold replayProperty dictionaryInput
  cases properties name with
  | none => simpa using h
  | some value => exact h.property p name value reentry

/-- The result of the registration of a service's signals. -/
theorem AttemptAt.registration (h : AttemptAt k path e₀ s a) (p : ObjectPath) (success : Bool)
    (replies : Replies) (reentry : List ConnectCall) :
    AttemptAt k path e₀ (s.onServicePropertyChangeRegistration p success replies reentry)
      (((Event.serviceRegistration p success replies reentry).inputs path).foldl Attempt.step a) := by
  cases hover : a.isOver with
  | true =>
    rw [Attempt.foldl_step_over hover]
    exact h.ended_moves hover (onServicePropertyChangeRegistration_moves s p success replies reentry)
  | false =>
    obtain ⟨called, old, rfl⟩ := Attempt.exists_running hover
    have hconn := h.isConnecting p
    unfold onServicePropertyChangeRegistration Event.inputs
    cases success with
    | false =>
      simp only [Bool.not_false, Bool.and_true, Bool.or_true, if_true]
      by_cases hp : p = path
      · rw [if_pos (hconn.2 hp), if_neg (not_not.2 hp)]
        exact h.drop
      · rw [if_neg fun h => hp (hconn.1 h), if_pos hp]
        exact h
    | true =>
      simp only [Bool.not_true, Bool.and_false, Bool.false_eq_true, if_false, Bool.or_false]
      -- the three properties in turn, each an input only if the service is that of the attempt
      have hreplay : ∀ properties : VariantDictionary,
          AttemptAt k path e₀
            (((s.replayProperty p properties reentry shill.kStateProperty).replayProperty p properties reentry
              shill.kSignalStrengthProperty).replayProperty p properties reentry shill.kErrorProperty)
            ((if p = path then [shill.kStateProperty, shill.kSignalStrengthProperty, shill.kErrorProperty].flatMap
                (dictionaryInput properties) else []).foldl Attempt.step (.running called old)) := by
        intro properties
        have h3 := ((h.replay p properties reentry shill.kStateProperty).replay p properties reentry
          shill.kSignalStrengthProperty).replay p properties reentry shill.kErrorProperty
        by_cases hp : p = path
        · simpa [hp, List.foldl_append] using h3
        · simpa [hp] using h3
      by_cases hp : p = path
      · rw [hconn.2 hp, if_neg (not_not.2 hp)]
        simp only [Bool.true_or, Bool.not_true, Bool.false_eq_true, if_false]
        cases replies.service with
        | none => exact h
        | some properties => simpa only [List.foldl_cons, List.foldl_nil, if_pos hp] using hreplay properties
      · rw [if_pos hp]
        split
        · exact h
        · cases replies.service with
          | none => exact h
          | some properties => simpa only [List.foldl_cons, List.foldl_nil, if_neg hp] using hreplay properties

/-! ## The other events -/

theorem selectService_sameConnecting (s : ShillClient) (path : ObjectPath) (device : DeviceState)
    (servicePath : ObjectPath) (replies : Replies) :
    SameConnecting s (s.selectService path device servicePath replies) := by
  have hfields : (s.selectService path device servicePath replies).haveCalledConnect = s.haveCalledConnect ∧
      (s.selectService path device servicePath replies).connectingServiceError = s.connectingServiceError := by
    unfold selectService
    split
    · exact ⟨rfl, rfl⟩
    · split <;> exact ⟨rfl, rfl⟩
  exact ⟨selectService_sameAttempt s path device servicePath replies, hfields.1, hfields.2⟩

theorem DeviceMove.sameConnecting (h : DeviceMove s t) : SameConnecting s t := by
  have hattempt := h.sameAttempt
  cases h with
  | added => exact ⟨hattempt, rfl, rfl⟩
  | selected path device servicePath replies => exact selectService_sameConnecting s path device servicePath replies
  | reselected path device servicePath replies =>
    have hselect := selectService_sameConnecting s path device servicePath replies
    exact ⟨hattempt, hselect.called, hselect.error⟩
  | removed => exact ⟨hattempt, rfl, rfl⟩

theorem AttemptAt.deviceMoves (h : AttemptAt k path e₀ s a) (hm : DeviceMoves s t) : AttemptAt k path e₀ t a := by
  induction hm with
  | refl => exact h
  | tail _ hm ih => exact ih.quiet (DeviceMove.sameConnecting hm)

/-- A call of `Connect` is refused while the attempt runs. -/
theorem AttemptAt.connect {called : Bool} {old : Option String} (h : AttemptAt k path e₀ s (.running called old))
    (c : ConnectCall) : AttemptAt k path e₀ (s.connect c) (.running called old) := by
  have hlinked := connect_linked h.linked c
  cases h with
  | ended _ hover' => cases hover'
  | running _ hk hcallback hservice hcalled herror hreports =>
    have hcases := connect_cases s c
    generalize s.connect c = t at hcases hlinked ⊢
    cases hcases with
    | busy _ =>
      refine .running hlinked (Nat.lt_succ_of_lt hk) hcallback hservice hcalled herror fun r => ?_
      have hne : k ≠ s.calls := ne_of_lt hk
      have hr := hreports r
      simp only [attempts] at hr
      simpa [attempts, emit, Effect.report, hne] using hr
    | failed hidle => simp [hidle] at hservice
    | began hidle => simp [hidle] at hservice

/-- The timeout of the attempt leaves the queue, and the attempt fails. -/
theorem AttemptAt.timeout {called : Bool} {old : Option String} (h : AttemptAt k path e₀ s (.running called old))
    (reentry : List ConnectCall) :
    AttemptAt k path e₀
      (connectToServiceError { s with timeouts := s.timeouts.erase ⟨.connect k, path⟩ } (some ⟨.connect k, path⟩)
        reentry) (.failed called old) := by
  have hservice : s.connectingService = some ⟨.connect k, path⟩ := by
    cases h with
    | ended _ hover' => cases hover'
    | running _ _ _ hservice => exact hservice
  have hcallback := h.callback
  have hran := h.ran (a := .failed called old) rfl h.failure
  -- the attempt may as well end first and the entry leave the queue then
  have hqueue : Moves True (fun _ => True) (s.cleanupConnectingService.emit (.runDone k s.failure)) _ :=
    .single (.expire _ ⟨.connect k, path⟩ (by simp [emit, cleanupConnectingService]))
  rw [connectToServiceError_eq, if_neg (by simp [hservice, hcallback])]
  unfold ShillClient.finish runDone
  simp only [hcallback]
  exact hran.ended_moves rfl (hqueue.trans (foldl_connect_moves reentry _))

/-- **An event is to an attempt what the model makes of it.** -/
theorem AttemptAt.next (h : AttemptAt k path e₀ s a) {e : Event} (he : e.OwnTimeout k path)
    (hn : s.next e = some t) : AttemptAt k path e₀ t ((e.inputs path).foldl Attempt.step a) := by
  cases hover : a.isOver with
  | true =>
    rw [Attempt.foldl_step_over hover]
    exact h.ended_moves hover (next_moves h.linked hn)
  | false =>
    obtain ⟨called, old, rfl⟩ := Attempt.exists_running hover
    cases e with
    | connect c => cases hn; exact h.connect c
    | addConnectionChangedCallback l =>
      cases hn
      exact h.quiet ⟨⟨List.suffix_rfl, rfl, rfl, rfl⟩, rfl, rfl⟩
    | ownerChange newOwner replies =>
      have hreset : SameConnecting s.cleanupConnectingService s.reset := ⟨⟨List.suffix_rfl, rfl, rfl, rfl⟩, rfl, rfl⟩
      exact (h.drop.quiet hreset).deviceMoves (onShillServiceOwnerChange_reset hn)
    | serviceRegistration p success replies reentry => cases hn; exact h.registration p success replies reentry
    | serviceProperty p name value reentry => cases hn; exact h.property p name value reentry
    | timeout service reentry =>
      obtain rfl : service = ⟨.connect k, path⟩ := he
      simp only [ShillClient.next] at hn
      split at hn
      · cases hn
        exact h.timeout reentry
      · cases hn
    | notify =>
      refine h.quiet ⟨notifyConnectivityListeners_sameAttempt hn, ?_, ?_⟩
      all_goals
        simp only [ShillClient.next, notifyConnectivityListeners] at hn
        split at hn <;> cases hn
        rfl
    | _ => exact h.deviceMoves (next_deviceMoves rfl hn)

theorem attempt_simulation (k : ℕ) (path : ObjectPath) (e₀ : String) :
    Simulation machine (attemptModel path) (Event.OwnTimeout k path) some (AttemptAt k path e₀) where
  skip s a e s' _ _ hsome := by cases hsome
  step s a e s' d h he hsome hn := by
    obtain rfl := Option.some_inj.1 hsome
    exact ⟨_, rfl, h.next he hn⟩

/-! ## The outcome of a call -/

/-- An accepted call of an idle client begins an attempt. -/
theorem connect_attemptAt (hs : AttemptInv s) (hidle : s.connectingService = none) {c : ConnectCall}
    (hc : c.accepted = some path) :
    AttemptAt s.calls path s.connectingServiceError (s.connect c) (.running false none) := by
  have hlinked := connect_linked hs.linked c
  have hcases := connect_cases s c
  generalize s.connect c = t at hcases hlinked ⊢
  cases hcases with
  | busy hbusy => simp [hidle] at hbusy
  | failed _ queries _ e haccepted => simp [hc] at haccepted
  | began _ queries hq p haccepted =>
    obtain rfl : path = p := Option.some_inj.1 (hc.symm.trans haccepted)
    refine .running hlinked (Nat.lt_succ_self _) rfl rfl rfl rfl fun r hr => ?_
    -- the number of the call is new
    have hask := asked_reports s hq
    simp only [attempts, beginAttempt, List.filterMap_cons, Effect.report] at hask hr
    rw [hask] at hr
    exact lt_irrefl _ (hs.tidy.reported (s.calls, r) hr)

theorem AttemptAt.reports (h : AttemptAt k path e₀ s a) (r : Report) :
    (k, r) ∈ s.attempts.reports ↔ a.report e₀ = some r := by
  cases h with
  | running _ _ _ _ _ _ hreports => exact iff_of_false (hreports r) (by simp [Attempt.report])
  | ended _ _ _ hreports => exact hreports r

theorem inputs_forCall (k : ℕ) (path : ObjectPath) (e : Event) :
    (e.forCall k path).inputs path = e.inputs path ∧ (e.forCall k path).OwnTimeout k path := by
  cases e <;> exact ⟨rfl, by trivial⟩

/-- **The outcome of a call** is that of the model, with the error remembered from before. -/
theorem attempt_outcome (hs : machine.Reach s) (hidle : s.connectingService = none) {c : ConnectCall}
    (hc : c.accepted = some path) {es : List Event}
    (hrun : machine.run s (.connect c :: es.map (Event.forCall s.calls path)) = some t) (r : Report) :
    (s.calls, r) ∈ t.attempts.reports ↔
      ((es.flatMap (Event.inputs path)).foldl Attempt.step (.running false none)).report s.connectingServiceError =
        some r := by
  have hbegan := connect_attemptAt (reach_attemptInv hs) hidle hc
  have hown : ∀ e ∈ es.map (Event.forCall s.calls path), e.OwnTimeout s.calls path := by
    intro e he
    obtain ⟨e, -, rfl⟩ := List.mem_map.1 he
    exact (inputs_forCall _ _ e).2
  have hstep : machine.next s (.connect c) = some (s.connect c) := rfl
  rw [Machine.run_cons hstep] at hrun
  obtain ⟨a, ha, hat⟩ := (attempt_simulation s.calls path s.connectingServiceError).run hbegan hown hrun
  rw [List.filterMap_some, attemptModel_run, List.flatMap_map] at ha
  simp only [(inputs_forCall _ _ _).1, Option.some_inj] at ha
  rw [ha]
  exact hat.reports r

/-- The callback of call `k₁` of one client has received what that of call `k₂` of another has. -/
def SameOutcome (k₁ : ℕ) (t₁ : ShillClient) (k₂ : ℕ) (t₂ : ShillClient) : Prop :=
  ∀ r, (k₁, r) ∈ t₁.attempts.reports ↔ (k₂, r) ∈ t₂.attempts.reports

/-- **When the outcome of a call does not depend on what was before it.** -/
theorem same_outcome_iff {s₁ s₂ t₁ t₂ : ShillClient} (hs₁ : machine.Reach s₁) (hs₂ : machine.Reach s₂)
    (hidle₁ : s₁.connectingService = none) (hidle₂ : s₂.connectingService = none) {c : ConnectCall}
    (hc : c.accepted = some path) {es : List Event}
    (hrun₁ : machine.run s₁ (.connect c :: es.map (Event.forCall s₁.calls path)) = some t₁)
    (hrun₂ : machine.run s₂ (.connect c :: es.map (Event.forCall s₂.calls path)) = some t₂) :
    SameOutcome s₁.calls t₁ s₂.calls t₂ ↔
      Attempt.errorCode s₁.connectingServiceError = Attempt.errorCode s₂.connectingServiceError ∨
        ¬LeaksError (es.flatMap (Event.inputs path)) := by
  have h₁ := attempt_outcome hs₁ hidle₁ hc hrun₁
  have h₂ := attempt_outcome hs₂ hidle₂ hc hrun₂
  rw [LeaksError, ← leaks_foldl_iff, ← Attempt.report_eq_iff]
  unfold SameOutcome
  simp only [h₁, h₂]
  constructor
  · exact fun h => Option.ext h
  · exact fun h r => by rw [h]

/-- An attempt that fails for a wrong passphrase. -/
def wrongPassphrase : List Event :=
  [.connect homeCall, .serviceProperty homeService shill.kErrorProperty (.string "bad-passphrase") [],
   .serviceProperty homeService shill.kStateProperty (.string "failure") []]

def afterWrongPassphrase : ShillClient := (machine.run idleClient wrongPassphrase).get rfl

theorem afterWrongPassphrase_reach : machine.Reach afterWrongPassphrase :=
  Machine.run_reach (.start idleClient_start) (Option.some_get rfl).symm

/-- The service is seen, is told to connect again, and does not connect in time. -/
def slowService : List Event :=
  [.serviceProperty homeService shill.kSignalStrengthProperty (.uint8 50) [], .timeout ⟨.connect 0, homeService⟩ []]

def slowRun (s : ShillClient) : List Event :=
  .connect homeCall :: slowService.map (Event.forCall s.calls homeService)

theorem same_outcome_iff_test :
    SameOutcome 0 ((machine.run idleClient (slowRun idleClient)).get rfl) 1
        ((machine.run afterWrongPassphrase (slowRun afterWrongPassphrase)).get rfl) ↔
      Attempt.errorCode "" = Attempt.errorCode "bad-passphrase" ∨
        ¬LeaksError (slowService.flatMap (Event.inputs homeService)) :=
  same_outcome_iff (.start idleClient_start) afterWrongPassphrase_reach rfl rfl rfl (Option.some_get _).symm
    (Option.some_get _).symm

/-- The slow attempt after the wrong passphrase reports that passphrase. -/
theorem remembered_error_reported :
    ¬∀ (s₁ s₂ t₁ t₂ : ShillClient) (c : ConnectCall) (path : ObjectPath) (es : List Event),
      machine.Reach s₁ → machine.Reach s₂ → s₁.connectingService = none → s₂.connectingService = none →
      c.accepted = some path →
      machine.run s₁ (.connect c :: es.map (Event.forCall s₁.calls path)) = some t₁ →
      machine.run s₂ (.connect c :: es.map (Event.forCall s₂.calls path)) = some t₂ →
      SameOutcome s₁.calls t₁ s₂.calls t₂ := by
  intro hall
  have h := hall idleClient afterWrongPassphrase ((machine.run idleClient (slowRun idleClient)).get rfl)
    ((machine.run afterWrongPassphrase (slowRun afterWrongPassphrase)).get rfl) homeCall homeService slowService
    (.start idleClient_start) afterWrongPassphrase_reach rfl rfl rfl (Option.some_get _).symm (Option.some_get _).symm
  have hwrong := (h (.ran (addTo none ⟨"bad-passphrase", "Failed to connect to WiFi network"⟩))).2
    (by decide +kernel)
  exact absurd hwrong (by decide +kernel)

end ShillClient

end SystemWeaved
