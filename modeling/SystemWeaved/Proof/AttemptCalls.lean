import SystemWeaved.Lib.Monitor
import SystemWeaved.Proof.Attempts
import SystemWeaved.Proof.ShillParts

/-!
# What a connect attempt asks of shill

A monitor reads the uses `ShillClient` makes of the services it connects to. `attempts_follow_protocol`:
one attempt at a time; each calls `Connect` on its service, and once more at most; each gets its
timeout; and when it ends, its proxy is released, once.

* `next_follows`: every event follows the monitor.
* `protocol_counts`: what the monitor accepts is balanced.
-/

namespace SystemWeaved

/-- What an attempt does with its service. -/
inductive ServiceUse
  | connect (service : ServiceProxy)
  | postTimeout (service : ServiceProxy)
  | release (path : ObjectPath)
  deriving DecidableEq

/-- Where an attempt is. -/
inductive AttemptPhase
  | idle
  | begun (service : ServiceProxy)
  | running (service : ServiceProxy) (haveCalledConnect : Bool)
  deriving DecidableEq

/-- The use an effect makes of the service of an attempt. -/
def Effect.serviceUse : Effect → Option ServiceUse
  | .connectService service => some (.connect service)
  | .postTimeout service => some (.postTimeout service)
  | .releaseService path => some (.release path)
  | _ => none

/-- An attempt after the other. -/
def attemptProtocol : Machine AttemptPhase ServiceUse where
  start phase := phase = .idle
  next
    | .idle, .connect service => some (.begun service)
    | .begun service, .postTimeout service' => if service' = service then some (.running service false) else none
    | .running service false, .connect service' =>
      if service' = service then some (.running service true) else none
    | .running service _, .release path => if path = service.path then some .idle else none
    | _, _ => none

theorem attemptProtocol_release (service : ServiceProxy) (called : Bool) :
    attemptProtocol.next (.running service called) (.release service.path) = some .idle := by
  cases called <;> exact if_pos rfl

theorem attemptProtocol_begin (service : ServiceProxy) :
    attemptProtocol.run .idle [.connect service, .postTimeout service] = some (.running service false) := by
  have hbegin : attemptProtocol.next .idle (.connect service) = some (.begun service) := rfl
  have hpost : attemptProtocol.next (.begun service) (.postTimeout service) = some (.running service false) :=
    if_pos rfl
  rw [Machine.run_cons hbegin, Machine.run_cons hpost]
  rfl

/-- The service gets a timeout, and it is at the path. -/
def ServiceUse.postsAt (path : ObjectPath) : ServiceUse → Bool
  | .postTimeout service => service.path == path
  | _ => false

namespace AttemptPhase

/-- The attempt is running, at the path. -/
def runsAt (path : ObjectPath) : AttemptPhase → Bool
  | .running service _ => service.path == path
  | _ => false

/-- The service has been connected to, and has no timeout yet. -/
def begins (service : ServiceProxy) : AttemptPhase → Bool
  | .begun service' => service' == service
  | _ => false

/-- It may be connected to once more. -/
def mayRetry (service : ServiceProxy) : AttemptPhase → Bool
  | .running service' haveCalledConnect => service' == service && !haveCalledConnect
  | _ => false

end AttemptPhase

/-- The steps of the protocol. -/
inductive AttemptStep : AttemptPhase → ServiceUse → AttemptPhase → Prop
  | begins (service : ServiceProxy) : AttemptStep .idle (.connect service) (.begun service)
  | posts (service : ServiceProxy) : AttemptStep (.begun service) (.postTimeout service) (.running service false)
  | retries (service : ServiceProxy) :
      AttemptStep (.running service false) (.connect service) (.running service true)
  | releases (service : ServiceProxy) (called : Bool) :
      AttemptStep (.running service called) (.release service.path) .idle

theorem attemptProtocol_cases {phase phase' : AttemptPhase} {use : ServiceUse}
    (h : attemptProtocol.next phase use = some phase') : AttemptStep phase use phase' := by
  unfold attemptProtocol at h
  dsimp only at h
  split at h
  · cases h
    exact .begins _
  · split at h
    · rename_i heq
      cases h
      rw [heq]
      exact .posts _
    · cases h
  · split at h
    · rename_i heq
      cases h
      rw [heq]
      exact .retries _
    · cases h
  · split at h
    · rename_i heq
      cases h
      rw [heq]
      exact .releases _ _
    · cases h
  · cases h

/-- One use keeps the balance. -/
theorem AttemptStep.counts {phase phase' : AttemptPhase} {use : ServiceUse} (h : AttemptStep phase use phase') :
    (∀ path, [use].countP (ServiceUse.postsAt path) + (phase.runsAt path).toNat =
      [use].count (.release path) + (phase'.runsAt path).toNat) ∧
    ∀ service, [use].count (.connect service) + (phase'.mayRetry service).toNat + (phase.begins service).toNat ≤
      2 * [use].count (.postTimeout service) + (phase.mayRetry service).toNat + (phase'.begins service).toNat := by
  cases h with
  | begins service =>
    refine ⟨fun path => by simp [ServiceUse.postsAt, AttemptPhase.runsAt], fun service' => ?_⟩
    by_cases hs : service = service' <;> simp [AttemptPhase.mayRetry, AttemptPhase.begins, hs]
  | posts service =>
    constructor
    · intro path
      simp [ServiceUse.postsAt, AttemptPhase.runsAt, List.countP_singleton, Bool.toNat, Bool.cond_eq_ite]
    · intro service'
      by_cases hs : service = service' <;> simp [AttemptPhase.mayRetry, AttemptPhase.begins, hs]
  | retries service =>
    refine ⟨fun path => by simp [ServiceUse.postsAt, AttemptPhase.runsAt], fun service' => ?_⟩
    by_cases hs : service = service' <;> simp [AttemptPhase.mayRetry, AttemptPhase.begins, hs]
  | releases service called =>
    constructor
    · intro path
      by_cases hp : service.path = path <;> simp [ServiceUse.postsAt, AttemptPhase.runsAt, hp]
    · intro service'
      simp [AttemptPhase.mayRetry, AttemptPhase.begins]

/-- **What the protocol says**: a timeout at a path is followed by one release of the path, and a
service is connected to twice for each timeout, at most. -/
theorem protocol_counts {uses : List ServiceUse} : ∀ {phase phase' : AttemptPhase},
    attemptProtocol.run phase uses = some phase' →
    (∀ path, uses.countP (ServiceUse.postsAt path) + (phase.runsAt path).toNat =
      uses.count (.release path) + (phase'.runsAt path).toNat) ∧
    ∀ service, uses.count (.connect service) + (phase'.mayRetry service).toNat + (phase.begins service).toNat ≤
      2 * uses.count (.postTimeout service) + (phase.mayRetry service).toNat + (phase'.begins service).toNat := by
  induction uses with
  | nil =>
    intro phase phase' h
    cases h
    exact ⟨fun path => rfl, fun service => le_of_eq (by simp)⟩
  | cons use uses ih =>
    intro phase phase' h
    obtain ⟨next, hnext, hrun⟩ := Option.bind_eq_some_iff.1 h
    obtain ⟨hrelease, hconnect⟩ := (attemptProtocol_cases hnext).counts
    obtain ⟨hrelease', hconnect'⟩ := ih hrun
    constructor
    · intro path
      have hone := hrelease path
      have hrest := hrelease' path
      rw [← List.singleton_append, List.countP_append, List.count_append]
      omega
    · intro service
      have hone := hconnect service
      have hrest := hconnect' service
      rw [← List.singleton_append, List.count_append, List.count_append]
      omega

namespace ShillClient

variable {s t u : ShillClient}

/-- Where the attempt is between two events. -/
def phase (s : ShillClient) : AttemptPhase :=
  match s.connectingService with
  | none => .idle
  | some service => .running service s.haveCalledConnect

theorem phase_idle (h : s.connectingService = none) : s.phase = .idle := by
  unfold phase
  rw [h]

theorem phase_running {service : ServiceProxy} (h : s.connectingService = some service) :
    s.phase = .running service s.haveCalledConnect := by
  unfold phase
  rw [h]

/-- The monitor of the attempts. -/
def attemptMonitor : Monitor ShillClient AttemptPhase ServiceUse where
  machine := attemptProtocol
  trace s := (s.log.filterMap Effect.serviceUse).reverse
  view := phase

/-! ## Every event follows -/

/-- An attempt goes on, or there is none, and nothing is done with its service. -/
structure Untouched (s t : ShillClient) : Prop where
  uses : t.log.filterMap Effect.serviceUse = s.log.filterMap Effect.serviceUse
  service : t.connectingService = s.connectingService
  called : t.haveCalledConnect = s.haveCalledConnect

theorem Untouched.follows (h : Untouched s t) : attemptMonitor.Follows s t := by
  refine .quiet (congrArg List.reverse h.uses) ?_
  show t.phase = s.phase
  unfold phase
  rw [h.service, h.called]

theorem trace_cons {e : Effect} {use : ServiceUse} (h : t.log = e :: s.log) (he : e.serviceUse = some use) :
    attemptMonitor.trace t = attemptMonitor.trace s ++ [use] := by
  show (t.log.filterMap Effect.serviceUse).reverse = _
  rw [h, List.filterMap_cons_some he, List.reverse_cons]
  rfl

/-- The end of an attempt releases its service. -/
theorem cleanup_follows (s : ShillClient) : attemptMonitor.Follows s s.cleanupConnectingService := by
  have hidle : s.cleanupConnectingService.phase = .idle := phase_idle rfl
  cases hs : s.connectingService with
  | none =>
    refine .quiet ?_ (hidle.trans (phase_idle hs).symm)
    show (s.cleanupConnectingService.log.filterMap Effect.serviceUse).reverse = _
    rw [cleanup_log, hs]
    rfl
  | some service =>
    have hlog : s.cleanupConnectingService.log = .releaseService service.path :: s.log := by
      rw [cleanup_log, hs]
      rfl
    refine .one (trace_cons hlog rfl) ?_
    show attemptProtocol.next s.phase (.release service.path) = some s.cleanupConnectingService.phase
    rw [phase_running hs, hidle]
    exact attemptProtocol_release service _

theorem serviceUse_of_isQuery (x : Effect) (h : x.isQuery) : x.serviceUse = none := by
  cases x <;> simp_all [Effect.isQuery, Effect.serviceUse]

/-- A new attempt connects, and gets its timeout. -/
theorem beginAttempt_follows (hs : s.connectingService = none) (hcalled : s.haveCalledConnect = false) (call : ℕ)
    (path : ObjectPath) : attemptMonitor.Follows s (s.beginAttempt call path) := by
  refine ⟨[.connect ⟨.connect call, path⟩, .postTimeout ⟨.connect call, path⟩], ?_, ?_⟩
  · have hlog : (s.beginAttempt call path).log.filterMap Effect.serviceUse =
        .postTimeout ⟨.connect call, path⟩ :: .connect ⟨.connect call, path⟩ :: s.log.filterMap Effect.serviceUse := rfl
    show ((s.beginAttempt call path).log.filterMap Effect.serviceUse).reverse = _
    rw [hlog, List.reverse_cons, List.reverse_cons, List.append_assoc]
    rfl
  · have hrunning : (s.beginAttempt call path).phase = .running ⟨.connect call, path⟩ s.haveCalledConnect := rfl
    show attemptProtocol.run s.phase _ = some (s.beginAttempt call path).phase
    rw [phase_idle hs, hrunning, hcalled]
    exact attemptProtocol_begin _

theorem connect_follows (s : ShillClient) (c : ConnectCall) : attemptMonitor.Follows s (s.connect c) := by
  have h := connect_cases s c
  generalize s.connect c = t at h ⊢
  have hasked : ∀ queries : List Effect, (∀ x ∈ queries, x.isQuery) → s.connectingService = none →
      attemptMonitor.Follows s (s.asked queries) := by
    intro queries hq hidle
    have hphase : (s.asked queries).phase = .idle := phase_idle hidle
    refine .quiet ?_ (hphase.trans (phase_idle hidle).symm)
    show ((queries ++ s.log).filterMap Effect.serviceUse).reverse = _
    rw [filterMap_queries serviceUse_of_isQuery hq]
    rfl
  cases h with
  | busy _ => exact Untouched.follows ⟨rfl, rfl, rfl⟩
  | failed hidle queries hq e _ =>
    have hpost : Untouched (s.asked queries) ((s.asked queries).emit (.postDone s.calls (convertError e none))) :=
      ⟨rfl, rfl, rfl⟩
    exact (hasked queries hq hidle).trans hpost.follows
  | began hidle queries hq path _ =>
    have hbegin := beginAttempt_follows (s := s.asked queries) hidle rfl s.calls path
    exact (hasked queries hq hidle).trans hbegin

/-- A service that can be seen is connected to, once. -/
theorem onStrengthChangeForConnectingService_follows (s : ShillClient) (strength : UInt8) :
    attemptMonitor.Follows s (s.onStrengthChangeForConnectingService strength) := by
  unfold onStrengthChangeForConnectingService
  split
  · exact .refl s
  · rename_i hcall
    have hcalled : s.haveCalledConnect = false := Bool.eq_false_iff.2 fun h => hcall (.inr h)
    cases hs : s.connectingService with
    | none =>
      refine .quiet rfl ?_
      exact (phase_idle hs).symm
    | some service =>
      refine .one (trace_cons rfl rfl) ?_
      have hcall : attemptProtocol.next (.running service false) (.connect service) =
          some (.running service true) := if_pos rfl
      show attemptProtocol.next s.phase (.connect service) = some (.running service true)
      rw [phase_running hs, hcalled, hcall]

theorem onStateChangeForSelectedService_untouched (s : ShillClient) (path : ObjectPath) (state : String) :
    Untouched s (s.onStateChangeForSelectedService path state) := by
  unfold onStateChangeForSelectedService
  cases s.deviceSelecting path <;> exact ⟨rfl, rfl, rfl⟩

theorem DeviceMove.untouched (h : DeviceMove s t) : Untouched s t := by
  have hselect : ∀ (path : ObjectPath) (device : DeviceState) (servicePath : ObjectPath) (replies : Replies),
      Untouched s (s.selectService path device servicePath replies) := by
    intro path device servicePath replies
    unfold selectService
    split
    · exact ⟨rfl, rfl, rfl⟩
    · split <;> exact ⟨rfl, rfl, rfl⟩
  cases h with
  | added path _ => exact ⟨rfl, rfl, rfl⟩
  | selected path device servicePath replies _ _ _ => exact hselect path device servicePath replies
  | reselected path device servicePath replies _ =>
    obtain ⟨huses, hservice, hcalled⟩ := hselect path device servicePath replies
    exact ⟨huses, hservice, hcalled⟩
  | removed paths => exact ⟨rfl, rfl, rfl⟩

theorem notifyConnectivityListeners_untouched (h : s.notifyConnectivityListeners = some t) : Untouched s t := by
  unfold notifyConnectivityListeners at h
  split at h
  · cases h
  · cases h
    refine ⟨?_, rfl, rfl⟩
    have hnone : (s.connectivityListeners.map Effect.runListener).reverse.filterMap Effect.serviceUse = [] := by
      simp [List.filterMap_eq_nil_iff, Effect.serviceUse]
    simp only [List.filterMap_append, hnone, List.nil_append]

theorem Part.follows (h : Part s t) : attemptMonitor.Follows s t := by
  cases h with
  | connect c => exact connect_follows s c
  | cleanup => exact cleanup_follows s
  | strength strength => exact onStrengthChangeForConnectingService_follows s strength
  | state path state => exact (onStateChangeForSelectedService_untouched s path state).follows
  | device h => exact h.untouched.follows
  | notify h => exact (notifyConnectivityListeners_untouched h).follows
  | runDone call error => exact Untouched.follows ⟨rfl, rfl, rfl⟩
  | error error => exact Untouched.follows ⟨rfl, rfl, rfl⟩
  | timeout service => exact Untouched.follows ⟨rfl, rfl, rfl⟩
  | forget => exact Untouched.follows ⟨rfl, rfl, rfl⟩

theorem Parts.follows (h : Parts s t) : attemptMonitor.Follows s t := by
  induction h with
  | refl => exact .refl s
  | tail _ hpart ih => exact ih.trans hpart.follows

/-- **Every event follows the monitor.** -/
theorem next_follows {e : Event} (h : s.next e = some t) : attemptMonitor.Follows s t := by
  cases e with
  | addConnectionChangedCallback l => cases h; exact Untouched.follows ⟨rfl, rfl, rfl⟩
  | _ => exact Parts.follows (next_parts (fun l he => by cases he) h)

theorem create_conforms {deviceWhitelist : List String} {replies : Replies}
    (h : create deviceWhitelist replies = some s) : attemptMonitor.Conforms s := by
  have hnew : attemptMonitor.Conforms { deviceWhitelist } := ⟨.idle, rfl, rfl⟩
  exact (hnew.next (reset_parts _).follows).next (onManagerProperties_moves h).parts.follows

theorem reach_conforms (h : machine.Reach s) : attemptMonitor.Conforms s := by
  refine Monitor.reach_conforms ?_ (fun _ _ _ _ hn => next_follows hn) h
  rintro s ⟨deviceWhitelist, replies, hs⟩
  exact create_conforms hs

/-- The uses of services by attempts, oldest first. -/
def serviceUses (s : ShillClient) : List ServiceUse := attemptMonitor.trace s

/-- **Attempts keep to their protocol.** In every run, one attempt is made at a time; each
connects to its service, gets its timeout, connects to it once more at most, and releases it when
it ends. So a path has been released as often as attempts at it have ended, and a proxy has been
connected to at most twice for each attempt. -/
theorem attempts_follow_protocol (h : machine.Reach s) :
    attemptProtocol.run .idle s.serviceUses = some s.phase ∧
    (∀ path, s.serviceUses.countP (ServiceUse.postsAt path) =
      s.serviceUses.count (.release path) + (s.isConnecting path).toNat) ∧
    ∀ service, s.serviceUses.count (.connect service) ≤ 2 * s.serviceUses.count (.postTimeout service) := by
  obtain ⟨phase, rfl, hrun⟩ := reach_conforms h
  have hrun : attemptProtocol.run .idle s.serviceUses = some s.phase := hrun
  obtain ⟨hrelease, hconnect⟩ := protocol_counts hrun
  refine ⟨hrun, fun path => ?_, fun service => ?_⟩
  · have hruns : s.phase.runsAt path = s.isConnecting path := by
      unfold phase isConnecting
      cases s.connectingService <;> rfl
    rw [← hruns]
    exact hrelease path
  · have hbegins : s.phase.begins service = false := by
      unfold phase
      cases s.connectingService <;> rfl
    have hcount := hconnect service
    rw [hbegins] at hcount
    simp only [AttemptPhase.mayRetry, AttemptPhase.begins, Bool.toNat_false] at hcount
    omega

/-- An attempt whose service is seen, and goes online. -/
theorem attempts_follow_protocol_test :
    attemptProtocol.run .idle [.connect ⟨.connect 0, homeService⟩, .postTimeout ⟨.connect 0, homeService⟩,
      .connect ⟨.connect 0, homeService⟩, .release homeService] = some .idle := by
  have hreach : machine.Reach (((idleClient.connect homeCall).onServicePropertyChange homeService
      shill.kSignalStrengthProperty (.uint8 40) []).onServicePropertyChange homeService shill.kStateProperty
      (.string "online") []) :=
    .step (.step (.step (.start idleClient_start) (e := .connect homeCall) trivial rfl)
      (e := .serviceProperty homeService shill.kSignalStrengthProperty (.uint8 40) []) trivial rfl)
      (e := homeOnline) trivial rfl
  exact (attempts_follow_protocol hreach).1

end ShillClient

end SystemWeaved
