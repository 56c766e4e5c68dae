import SystemWeaved.Lib.Attempts
import SystemWeaved.Spec.Shill

/-!
# What the handlers of `ShillClient` leave alone

The members of `ShillClient` fall into two groups: those of the connect attempt and those
of the devices and their connectivity. Most functions touch one group only:

* `SameNetwork`: the devices, the connectivity and its notifications are unchanged; so it
  is for `Connect` and all that ends an attempt.
* `SameAttempt`: the attempt, its queued timeouts and the reports to the callers are
  unchanged; so it is for the device and manager handlers.

Every function only adds to the log (`Grows`). The device and manager handlers are made of
four kinds of moves (`DeviceMove`, `next_deviceMoves`).
-/

namespace SystemWeaved

/-- What `ShillClient` tells the caller of `Connect`. -/
inductive Report
  | posted (error : ErrorPtr WeaveError)
  | ran (error : ErrorPtr WeaveError)
  deriving DecidableEq

/-- The report an effect makes, with the call it is about. -/
def Effect.report : Effect → Option (ℕ × Report)
  | .postDone k e => some (k, .posted e)
  | .runDone k e => some (k, .ran e)
  | _ => none

/-- The effects of asking shill for a service. -/
def Effect.isQuery : Effect → Bool
  | .configureService _ | .requestScan => true
  | _ => false

/-- The service path of a call of `Connect` that shill accepts. -/
def ConnectCall.accepted (c : ConnectCall) : Option ObjectPath :=
  match c.configureService, c.requestScan with
  | .ok path, .ok () => some path
  | _, _ => none

namespace ShillClient

variable {s t u : ShillClient}

/-- The connect attempts, as requests served one at a time. -/
def attempts (s : ShillClient) : Attempts Report :=
  ⟨s.calls, s.connectDoneCallback, s.log.filterMap Effect.report⟩

/-- The log only grows. -/
def Grows (s t : ShillClient) : Prop := s.log <:+ t.log

structure SameNetwork (s t : ShillClient) : Prop where
  grows : Grows s t
  devices : t.devices = s.devices
  connectivity : t.connectivityState = s.connectivityState
  notifications : t.notifications = s.notifications

structure SameAttempt (s t : ShillClient) : Prop where
  grows : Grows s t
  service : t.connectingService = s.connectingService
  timeouts : t.timeouts = s.timeouts
  attempts : t.attempts = s.attempts

theorem Grows.refl (s : ShillClient) : Grows s s := List.suffix_rfl

theorem Grows.trans (h : Grows s t) (h' : Grows t u) : Grows s u := List.IsSuffix.trans h h'

theorem Grows.mem {e : Effect} (h : Grows s t) (he : e ∈ s.log) : e ∈ t.log := h.subset he

theorem SameNetwork.refl (s : ShillClient) : SameNetwork s s := ⟨Grows.refl s, rfl, rfl, rfl⟩

theorem SameNetwork.trans (h : SameNetwork s t) (h' : SameNetwork t u) : SameNetwork s u :=
  ⟨h.grows.trans h'.grows, h'.devices.trans h.devices, h'.connectivity.trans h.connectivity,
    h'.notifications.trans h.notifications⟩

theorem SameAttempt.refl (s : ShillClient) : SameAttempt s s := ⟨Grows.refl s, rfl, rfl, rfl⟩

theorem SameAttempt.trans (h : SameAttempt s t) (h' : SameAttempt t u) : SameAttempt s u :=
  ⟨h.grows.trans h'.grows, h'.service.trans h.service, h'.timeouts.trans h.timeouts,
    h'.attempts.trans h.attempts⟩

theorem SameAttempt.callback (h : SameAttempt s t) : t.connectDoneCallback = s.connectDoneCallback :=
  congrArg Attempts.current h.attempts

theorem SameAttempt.calls (h : SameAttempt s t) : t.calls = s.calls := congrArg Attempts.calls h.attempts

theorem emit_grows (s : ShillClient) (e : Effect) : Grows s (s.emit e) := List.suffix_cons e s.log

theorem emit_sameNetwork (s : ShillClient) (e : Effect) : SameNetwork s (s.emit e) :=
  ⟨emit_grows s e, rfl, rfl, rfl⟩

theorem isConnecting_iff (s : ShillClient) (path : ObjectPath) :
    s.isConnecting path ↔ ∃ id, s.connectingService = some ⟨id, path⟩ := by
  unfold isConnecting
  cases s.connectingService with
  | none => simp
  | some service => cases service; simp

/-! ## The connect attempt leaves the network alone -/

theorem cleanup_log (s : ShillClient) : s.cleanupConnectingService.log =
    (s.connectingService.map fun service => .releaseService service.path).toList ++ s.log := by
  unfold cleanupConnectingService
  cases s.connectingService <;> rfl

theorem cleanup_grows (s : ShillClient) : Grows s s.cleanupConnectingService := by
  unfold Grows
  rw [cleanup_log]
  exact List.suffix_append _ _

theorem cleanup_sameNetwork (s : ShillClient) : SameNetwork s s.cleanupConnectingService :=
  ⟨cleanup_grows s, rfl, rfl, rfl⟩

theorem beginAttempt_sameNetwork (s : ShillClient) (call : ℕ) (path : ObjectPath) :
    SameNetwork s (s.beginAttempt call path) := ⟨List.suffix_append [_, _, _] s.log, rfl, rfl, rfl⟩

/-- The state of an idle client in which call `s.calls` has asked shill for a service. -/
def asked (s : ShillClient) (queries : List Effect) : ShillClient :=
  { s with
    calls := s.calls + 1
    connectDoneCallback := none
    haveCalledConnect := false
    log := queries ++ s.log }

/-- **How `Connect` ends**: it is busy, shill refuses, or an attempt begins. -/
inductive ConnectCases (s : ShillClient) (c : ConnectCall) : ShillClient → Prop
  | busy (hbusy : s.connectingService.isSome) :
      ConnectCases s c (({ s with calls := s.calls + 1 } : ShillClient).emit (.postDone s.calls
        (addTo none ⟨"busy", "Already connecting to WiFi network"⟩)))
  | failed (hidle : s.connectingService = none) (queries : List Effect)
      (hq : ∀ x ∈ queries, x.isQuery) (e : ErrorChain BrilloError) (haccepted : c.accepted = none) :
      ConnectCases s c ((s.asked queries).emit (.postDone s.calls (convertError e none)))
  | began (hidle : s.connectingService = none) (queries : List Effect)
      (hq : ∀ x ∈ queries, x.isQuery) (path : ObjectPath) (haccepted : c.accepted = some path) :
      ConnectCases s c ((s.asked queries).beginAttempt s.calls path)

theorem connect_cases (s : ShillClient) (c : ConnectCall) : ConnectCases s c (s.connect c) := by
  cases hs : s.connectingService with
  | some service =>
    have hbusy : s.connectingService.isSome := by rw [hs]; rfl
    have hc := ConnectCases.busy (c := c) hbusy
    unfold connect
    dsimp only
    rwa [if_pos hbusy]
  | none =>
    have hclean : ∀ x, (cleanupConnectingService { s with calls := s.calls + 1 }).emit x = s.asked [x] := by
      intro x
      simp only [cleanupConnectingService, emit, asked, hs, List.singleton_append]
    have hscan : ∀ x y, (s.asked [x]).emit y = s.asked [y, x] := fun _ _ => rfl
    unfold connect
    dsimp only
    rw [if_neg (by simp [hs]), hclean]
    cases hconfigure : c.configureService with
    | error e => exact .failed hs _ (by simp [Effect.isQuery]) e (by simp [ConnectCall.accepted, hconfigure])
    | ok path =>
      dsimp only
      rw [hscan]
      cases hrequest : c.requestScan with
      | error e =>
        exact .failed hs _ (by simp [Effect.isQuery]) e (by simp [ConnectCall.accepted, hconfigure, hrequest])
      | ok _ =>
        exact .began hs _ (by simp [Effect.isQuery]) path (by simp [ConnectCall.accepted, hconfigure, hrequest])

theorem filterMap_queries {α : Type} {f : Effect → Option α} (hf : ∀ x, x.isQuery → f x = none)
    {queries : List Effect} (hq : ∀ x ∈ queries, x.isQuery) (l : List Effect) :
    (queries ++ l).filterMap f = l.filterMap f := by
  rw [List.filterMap_append, List.filterMap_eq_nil_iff.2 (fun x hx => hf x (hq x hx)), List.nil_append]

theorem report_of_isQuery (x : Effect) (h : x.isQuery) : x.report = none := by
  cases x <;> simp_all [Effect.isQuery, Effect.report]

theorem asked_sameNetwork (s : ShillClient) (queries : List Effect) : SameNetwork s (s.asked queries) :=
  ⟨List.suffix_append _ _, rfl, rfl, rfl⟩

theorem connect_sameNetwork (s : ShillClient) (c : ConnectCall) : SameNetwork s (s.connect c) := by
  have h := connect_cases s c
  generalize s.connect c = t at h ⊢
  cases h with
  | busy _ => exact ⟨List.suffix_cons _ _, rfl, rfl, rfl⟩
  | failed _ queries hq e _ => exact (asked_sameNetwork s queries).trans (emit_sameNetwork _ _)
  | began _ queries hq path _ => exact (asked_sameNetwork s queries).trans (beginAttempt_sameNetwork _ _ _)

theorem foldl_connect_sameNetwork (reentry : List ConnectCall) :
    ∀ s, SameNetwork s (reentry.foldl connect s) := by
  induction reentry with
  | nil => exact SameNetwork.refl
  | cons c cs ih => exact fun s => (connect_sameNetwork s c).trans (ih _)

/-- The end of an attempt: the cleanup, then the callback with what it calls. -/
def finish (s : ShillClient) (error : ErrorPtr WeaveError) (reentry : List ConnectCall) : ShillClient :=
  s.cleanupConnectingService.runDone s.connectDoneCallback error reentry

theorem runDone_sameNetwork (s : ShillClient) (callback : Option ℕ) (error : ErrorPtr WeaveError)
    (reentry : List ConnectCall) : SameNetwork s (s.runDone callback error reentry) := by
  cases callback with
  | none => exact SameNetwork.refl s
  | some call => exact (emit_sameNetwork s _).trans (foldl_connect_sameNetwork reentry _)

theorem finish_sameNetwork (s : ShillClient) (error : ErrorPtr WeaveError) (reentry : List ConnectCall) :
    SameNetwork s (s.finish error reentry) :=
  (cleanup_sameNetwork s).trans (runDone_sameNetwork _ _ _ _)

/-! ## How an attempt ends -/

theorem attemptError_ne (s : ShillClient) : s.attemptError ≠ "" := by
  have hne : ∀ e : String, (if e = "" then shill.kErrorInternal else e) ≠ "" := by
    intro e
    split
    · decide
    · assumption
  exact hne _

/-- The error of an attempt that is given up. -/
def failure (s : ShillClient) : ErrorPtr WeaveError :=
  addTo none ⟨s.attemptError, "Failed to connect to WiFi network"⟩

/-- `ConnectToServiceError` does nothing, or ends the attempt it is about. -/
theorem connectToServiceError_eq (s : ShillClient) (service : Option ServiceProxy)
    (reentry : List ConnectCall) :
    s.connectToServiceError service reentry =
      if service ≠ s.connectingService ∨ s.connectDoneCallback = none then s
      else s.finish s.failure reentry := by
  unfold connectToServiceError onErrorChangeForConnectingService finish failure
  rw [if_neg (attemptError_ne s)]

/-- What a state of the connecting service does: the attempt succeeds, fails or goes on. -/
theorem onStateChangeForConnectingService_eq (s : ShillClient) (state : String)
    (reentry : List ConnectCall) :
    s.onStateChangeForConnectingService state reentry =
      match shillServiceStateToNetworkState state with
      | .online => s.finish none reentry
      | .error => if s.connectDoneCallback = none then s else s.finish s.failure reentry
      | .offline | .connecting => s := by
  unfold onStateChangeForConnectingService
  cases shillServiceStateToNetworkState state with
  | error => simp only [connectToServiceError_eq, ne_eq, not_true_eq_false, false_or]
  | _ => rfl

theorem onStateChangeForConnectingService_sameNetwork (s : ShillClient) (state : String)
    (reentry : List ConnectCall) : SameNetwork s (s.onStateChangeForConnectingService state reentry) := by
  rw [onStateChangeForConnectingService_eq]
  cases shillServiceStateToNetworkState state with
  | online => exact finish_sameNetwork _ _ _
  | error =>
    dsimp only
    split
    · exact SameNetwork.refl s
    · exact finish_sameNetwork _ _ _
  | offline => exact SameNetwork.refl s
  | connecting => exact SameNetwork.refl s

/-- Signal strength touches neither group: it only makes the service connect. -/
theorem onStrengthChangeForConnectingService_same (s : ShillClient) (strength : UInt8) :
    SameNetwork s (s.onStrengthChangeForConnectingService strength) ∧
    SameAttempt s (s.onStrengthChangeForConnectingService strength) := by
  unfold onStrengthChangeForConnectingService
  split
  · exact ⟨SameNetwork.refl s, SameAttempt.refl s⟩
  · cases h : s.connectingService with
    | none => exact ⟨⟨List.suffix_rfl, rfl, rfl, rfl⟩, ⟨List.suffix_rfl, h.symm, rfl, rfl⟩⟩
    | some service =>
      exact ⟨⟨List.suffix_cons _ _, rfl, rfl, rfl⟩,
        ⟨List.suffix_cons _ _, h.symm, rfl, rfl⟩⟩

/-- **What a signal registration does**: a failure ends the attempt at the path, and success
replays the properties of the service, the state first. -/
inductive Registered (s : ShillClient) (path : ObjectPath) (replies : Replies) (reentry : List ConnectCall) :
    Bool → ShillClient → Prop
  | failed (hconn : s.isConnecting path) : Registered s path replies reentry false s.cleanupConnectingService
  | ignored (success : Bool) : Registered s path replies reentry success s
  | replayed {properties : VariantDictionary} (hprops : replies.service = some properties) :
      Registered s path replies reentry true
        (((s.replayProperty path properties reentry shill.kStateProperty).replayProperty path properties reentry
          shill.kSignalStrengthProperty).replayProperty path properties reentry shill.kErrorProperty)

theorem registration_cases (s : ShillClient) (path : ObjectPath) (success : Bool) (replies : Replies)
    (reentry : List ConnectCall) :
    Registered s path replies reentry success
      (s.onServicePropertyChangeRegistration path success replies reentry) := by
  unfold onServicePropertyChangeRegistration
  cases success with
  | false =>
    simp only [Bool.not_false, Bool.and_true, Bool.or_true, if_true]
    split
    · rename_i hconn
      exact .failed hconn
    · exact .ignored _
  | true =>
    simp only [Bool.not_true, Bool.and_false, Bool.false_eq_true, if_false, Bool.or_false]
    split
    · exact .ignored _
    · cases hprops : replies.service with
      | none => exact .ignored _
      | some properties =>
        simp only [List.foldl_cons, List.foldl_nil]
        exact .replayed hprops

/-! ## The devices leave the attempt alone -/

theorem updateConnectivityState_sameAttempt (s : ShillClient) :
    SameAttempt s s.updateConnectivityState := ⟨List.suffix_rfl, rfl, rfl, rfl⟩

theorem onStateChangeForSelectedService_sameAttempt (s : ShillClient) (path : ObjectPath) (state : String) :
    SameAttempt s (s.onStateChangeForSelectedService path state) := by
  unfold onStateChangeForSelectedService
  cases s.deviceSelecting path with
  | none => exact SameAttempt.refl s
  | some kv => exact ⟨List.suffix_rfl, rfl, rfl, rfl⟩

theorem notifyConnectivityListeners_sameAttempt (h : s.notifyConnectivityListeners = some t) :
    SameAttempt s t := by
  unfold notifyConnectivityListeners at h
  split at h
  · cases h
  · cases h
    refine ⟨List.suffix_append _ _, rfl, rfl, ?_⟩
    have hnone : (s.connectivityListeners.map Effect.runListener).reverse.filterMap Effect.report = [] := by
      simp [List.filterMap_eq_nil_iff, Effect.report]
    simp only [attempts, List.filterMap_append, hnone, List.nil_append]

theorem selectService_sameAttempt (s : ShillClient) (devicePath : ObjectPath) (device : DeviceState)
    (servicePath : ObjectPath) (replies : Replies) :
    SameAttempt s (s.selectService devicePath device servicePath replies) := by
  unfold selectService
  split
  · exact ⟨List.suffix_rfl, rfl, rfl, rfl⟩
  · split
    · exact ⟨List.suffix_cons _ _, rfl, rfl, rfl⟩
    · exact ⟨List.suffix_rfl, rfl, rfl, rfl⟩

/-- The moves of the devices: one is added, or selects a service, or some are removed. A
removal, the reuse of the connecting service and a second selection refresh the
connectivity. -/
inductive DeviceMove : ShillClient → ShillClient → Prop
  | added (s : ShillClient) (path : ObjectPath) (hnew : s.devices[path]? = none) :
      DeviceMove s { s with devices := s.devices.insert path {}, log := .registerDevice path :: s.log }
  | selected (s : ShillClient) (path : ObjectPath) (device : DeviceState) (servicePath : ObjectPath)
      (replies : Replies) (hdevice : s.devices[path]? = some device) (hnone : device.selectedService = none)
      (hreuse : ¬(servicePath.value ≠ "/" ∧ s.isConnecting servicePath)) :
      DeviceMove s (s.selectService path device servicePath replies)
  | reselected (s : ShillClient) (path : ObjectPath) (device : DeviceState) (servicePath : ObjectPath)
      (replies : Replies)
      (hdevice : s.devices[path]? = some device ∧ device.selectedService = none ∨ device = {}) :
      DeviceMove s (s.selectService path device servicePath replies).updateConnectivityState
  | removed (s : ShillClient) (paths : List ObjectPath) :
      DeviceMove s (s.removeDevices paths).updateConnectivityState

abbrev DeviceMoves : ShillClient → ShillClient → Prop := Relation.ReflTransGen DeviceMove

theorem onDevicePropertyChange_moves (s : ShillClient) (devicePath : ObjectPath) (name : String)
    (value : Any) (replies : Replies) :
    DeviceMoves s (s.onDevicePropertyChange devicePath name value replies) := by
  unfold onDevicePropertyChange
  split
  · exact .refl
  · cases hd : s.devices[devicePath]? with
    | none => exact .refl
    | some device =>
      dsimp only
      split
      · exact .refl
      · split
        · exact .refl
        · cases hsel : device.selectedService with
          | none =>
            simp only [Option.isSome_none, Bool.false_eq_true, or_false, if_false]
            split
            · exact .single (.reselected s _ _ _ _ (.inl ⟨hd, hsel⟩))
            · rename_i hreuse
              exact .single (.selected s _ _ _ _ hd hsel hreuse)
          | some old =>
            -- the device loses its old service and state before it selects
            simp only [Option.isSome_some, or_true, if_true]
            exact .single (.reselected s _ _ _ _ (.inr rfl))

theorem onDevicePropertyChangeRegistration_moves {devicePath : ObjectPath} {success : Bool}
    {replies : Replies} (h : s.onDevicePropertyChangeRegistration devicePath success replies = some t) :
    DeviceMoves s t := by
  unfold onDevicePropertyChangeRegistration at h
  split at h
  · cases h; exact .refl
  · split_ifs at h
    split at h
    · cases h; exact .refl
    · split at h
      · cases h; exact .refl
      · cases h; exact onDevicePropertyChange_moves s _ _ _ _

theorem DeviceScan.visit_moves (scan : DeviceScan) (properties : Option VariantDictionary)
    (path : ObjectPath) : DeviceMoves scan.client (scan.visit properties path).client := by
  unfold DeviceScan.visit
  split
  · exact .refl
  · split
    · exact .single (.added scan.client path ‹_›)
    · exact .refl

theorem DeviceScan.loop_moves (replies : Replies) (paths : List ObjectPath) :
    ∀ (i : ℕ) (scan : DeviceScan), DeviceMoves scan.client (DeviceScan.loop replies i paths scan).2.client := by
  induction paths with
  | nil => exact fun _ scan => .refl
  | cons path rest ih =>
    intro i scan
    unfold DeviceScan.loop
    split
    · exact .refl
    · exact (scan.visit_moves _ path).trans (ih _ _)

theorem onManagerPropertyChange_moves (s : ShillClient) (name : String) (value : Any)
    (replies : Replies) : DeviceMoves s (s.onManagerPropertyChange name value replies) := by
  unfold onManagerPropertyChange
  split
  · exact .refl
  · have hloop := DeviceScan.loop_moves replies value.tryGetPaths 0
      { client := s, devicePathsToRemove := s.devices.keys, updateConnectivity := false }
    dsimp only
    split
    · exact hloop
    · split
      · exact hloop.tail (.removed _ _)
      · rename_i hquiet
        -- nothing is removed
        simp only [Bool.or_eq_true, Bool.not_eq_true', List.isEmpty_eq_false_iff, not_or, not_not] at hquiet
        rw [hquiet.2]
        exact hloop

theorem onManagerProperties_moves {replies : Replies} (h : s.onManagerProperties replies = some t) :
    DeviceMoves s t := by
  unfold onManagerProperties at h
  split at h
  · cases h; exact .refl
  · split at h
    · cases h
    · cases h; exact onManagerPropertyChange_moves s _ _ _

/-- The events about shill's devices. -/
def Event.ofDevices : Event → Bool
  | .managerRegistration .. | .managerProperty .. | .deviceRegistration .. | .deviceProperty .. => true
  | _ => false

/-- **The events about devices are made of their moves.** -/
theorem next_deviceMoves {e : Event} (he : e.ofDevices) (h : s.next e = some t) : DeviceMoves s t := by
  cases e with
  | managerRegistration success replies =>
    simp only [next, onManagerPropertyChangeRegistration] at h
    split at h
    · cases h
    · exact onManagerProperties_moves h
  | managerProperty name value replies => cases h; exact onManagerPropertyChange_moves s _ _ _
  | deviceRegistration path success replies => exact onDevicePropertyChangeRegistration_moves h
  | deviceProperty path name value replies => cases h; exact onDevicePropertyChange_moves s _ _ _ _
  | _ => cases he

/-- A new owner of shill starts from nothing but its device list. -/
theorem onShillServiceOwnerChange_reset {newOwner : String} {replies : Replies}
    (h : s.onShillServiceOwnerChange newOwner replies = some t) : DeviceMoves s.reset t := by
  unfold onShillServiceOwnerChange at h
  split at h
  · cases h; exact .refl
  · exact onManagerProperties_moves h

theorem DeviceMove.sameAttempt (h : DeviceMove s t) : SameAttempt s t := by
  cases h with
  | added path _ => exact ⟨List.suffix_cons _ _, rfl, rfl, rfl⟩
  | selected path device servicePath replies _ _ _ => exact selectService_sameAttempt s _ _ _ _
  | reselected path device servicePath replies _ =>
    exact (selectService_sameAttempt s _ _ _ _).trans (updateConnectivityState_sameAttempt _)
  | removed paths => exact ⟨List.suffix_rfl, rfl, rfl, rfl⟩

theorem DeviceMoves.sameAttempt (h : DeviceMoves s t) : SameAttempt s t := by
  induction h with
  | refl => exact SameAttempt.refl s
  | tail _ hm ih => exact ih.trans hm.sameAttempt

/-- A client of a shill without devices. -/
def idleClient : ShillClient := reset { deviceWhitelist := [] }

theorem idleClient_start : machine.start idleClient := ⟨[], {}, rfl⟩

end ShillClient

end SystemWeaved
