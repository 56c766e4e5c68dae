import SystemWeaved.Lib.Simulation
import SystemWeaved.Proof.DeviceList

/-!
# The cached states of the devices

A state value comes with a service path: by a signal, by the properties read when the signals
have been registered, or by the properties read when a device selects the connecting service.
The client keeps it per device, and looks for the device by the path.

* `followed`: the client, with what a device should know: the last state value processed for
  its service since it selected it.
* `DeviceStep`: what an event does to the devices, their states in view.
* `follows_along_iff`: the cached states are the right ones along a run exactly if every value
  reaches all devices that have selected its service. `OnStateChangeForSelectedService`
  stops at the first one, so the others must have the state already.
-/

namespace SystemWeaved

/-- The service at `path` is the selected one. -/
def DeviceState.selects (device : DeviceState) (path : ObjectPath) : Bool :=
  device.selectedService.any fun service => service.path == path

theorem DeviceState.selects_iff (device : DeviceState) (path : ObjectPath) :
    device.selects path ↔ ∃ id, device.selectedService = some ⟨id, path⟩ := by
  unfold selects
  cases device.selectedService with
  | none => simp
  | some service => cases service; simp

namespace ShillClient

variable {s t : ShillClient} {last : ObjectPath → Option String}

/-! ## What an event is about -/

/-- The service path that a device newly selects when it reports `value`. -/
def newSelection (s : ShillClient) (path : ObjectPath) (value : Any) : Option ObjectPath :=
  match s.devices[path]? with
  | none => none
  | some device =>
    let servicePath := value.tryGetPath
    if servicePath.isValid ∧ !device.selects servicePath ∧ servicePath.value ≠ "/" then some servicePath else none

/-- The selected service that a device reports with the event. -/
def Event.selection : Event → Option (ObjectPath × Any × Replies)
  | .deviceProperty path name value replies =>
    if name = shill.kSelectedServiceProperty then some (path, value, replies) else none
  | .deviceRegistration path true replies =>
    match replies.device 0 path with
    | none => none
    | some properties => (properties shill.kSelectedServiceProperty).map fun value => (path, value, replies)
  | _ => none

/-- The device that selects a service, and the path of the service. -/
def Event.selects (s : ShillClient) (e : Event) : Option (ObjectPath × ObjectPath) :=
  match e.selection with
  | none => none
  | some (path, value, _) => (s.newSelection path value).map fun servicePath => (path, servicePath)

/-- The state value read when the device selects the connecting service. -/
def Event.read (s : ShillClient) (e : Event) : Option (ObjectPath × String) :=
  match e.selection with
  | none => none
  | some (path, value, replies) =>
    match s.newSelection path value with
    | none => none
    | some servicePath =>
      if s.isConnecting servicePath then
        (getStateForService replies.service).map fun state => (servicePath, state)
      else none

/-- The state value that the client processes, and the path of its service. -/
def Event.processed (s : ShillClient) : Event → Option (ObjectPath × String)
  | .serviceProperty path name value _ =>
    if name = shill.kStateProperty ∧ value.tryGetString ≠ "" then some (path, value.tryGetString) else none
  | .serviceRegistration path true replies _ =>
    if s.isConnecting path || (s.deviceSelecting path).isSome then
      (getStateForService replies.service).map fun state => (path, state)
    else none
  | e => e.read s

/-! ## What a device should know -/

/-- The last state value processed for the service of each device since the device selected it,
after one more event. -/
def remember (s : ShillClient) (e : Event) (last : ObjectPath → Option String) (path : ObjectPath) :
    Option String :=
  if (e.selects s).any fun selection => selection.1 == path then (e.processed s).map Prod.snd
  else
    match e.processed s with
    | none => last path
    | some (servicePath, state) =>
      if (s.devices[path]?).any fun device => device.selects servicePath then some state else last path

/-- The client, with the state values that its devices should know. -/
def followed : Machine (ShillClient × (ObjectPath → Option String)) Event where
  start s := machine.start s.1 ∧ s.2 = fun _ => none
  next s e := (s.1.next e).map fun t => (t, s.1.remember e s.2)

/-- The network state of a state value, offline if there has been none. -/
def networkState : Option String → NetworkState
  | none => .offline
  | some state => shillServiceStateToNetworkState state

/-- **Every device with a selected service has the state of the last value for it.** -/
def StatesFollow (s : ShillClient × (ObjectPath → Option String)) : Prop :=
  ∀ (path : ObjectPath) (device : DeviceState), s.1.devices[path]? = some device →
    device.selectedService.isSome → device.serviceState = networkState (s.2 path)

/-- A state value reaches the devices that have selected its service: each is the one that a
signal finds first, or has that state already. -/
def ReachesAll (s : ShillClient × (ObjectPath → Option String)) (e : Event) : Prop :=
  ∀ servicePath state, e.processed s.1 = some (servicePath, state) →
    ∀ (path : ObjectPath) (device : DeviceState), s.1.devices[path]? = some device → device.selects servicePath →
      e.selection = none ∧ (s.1.deviceSelecting servicePath).map Prod.fst = some path ∨
        device.serviceState = shillServiceStateToNetworkState state

/-! ## What an event does to the devices -/

/-- **What an event does to the devices**: to those with a selected service nothing, or a state
value comes for a service path, or a device selects a service. -/
inductive DeviceStep (s : ShillClient) (e : Event) (m : PathMap DeviceState) : Prop
  | quiet (hprocessed : e.processed s = none) (hselects : e.selects s = none)
      (h : ∀ (path : ObjectPath) (device : DeviceState), m[path]? = some device →
        device.selectedService.isSome → s.devices[path]? = some device)
  | state (servicePath : ObjectPath) (state : String) (hprocessed : e.processed s = some (servicePath, state))
      (hselection : e.selection = none) (h : m = (s.onStateChangeForSelectedService servicePath state).devices)
  | selected (path : ObjectPath) (service : ServiceProxy) (hselects : e.selects s = some (path, service.path))
      (hprocessed : ∀ servicePath state, e.processed s = some (servicePath, state) → servicePath = service.path)
      (hnew : ∀ device, s.devices[path]? = some device → device.selects service.path = false)
      (h : m = s.devices.insert path ⟨some service, networkState ((e.processed s).map Prod.snd)⟩)

theorem selects_of_selection_none {e : Event} (h : e.selection = none) : e.selects s = none := by
  simp only [Event.selects, h]

theorem read_of_selection_none {e : Event} (h : e.selection = none) : e.read s = none := by
  simp only [Event.read, h]

theorem DeviceStep.of_same {e : Event} {m : PathMap DeviceState} (hprocessed : e.processed s = none)
    (hselects : e.selects s = none) (h : m = s.devices) : DeviceStep s e m :=
  .quiet hprocessed hselects fun _ _ hdevice _ => h ▸ hdevice

/-! ## Every event is such a step -/

theorem onServicePropertyChange_devices (s : ShillClient) (path : ObjectPath) (name : String) (value : Any)
    (reentry : List ConnectCall) : (s.onServicePropertyChange path name value reentry).devices =
      if name = shill.kStateProperty ∧ value.tryGetString ≠ "" then
        (s.onStateChangeForSelectedService path value.tryGetString).devices
      else s.devices := by
  unfold onServicePropertyChange
  dsimp only
  by_cases hname : name = shill.kStateProperty
  · simp only [if_pos hname]
    by_cases hstate : value.tryGetString = ""
    · have hnot : ¬(name = shill.kStateProperty ∧ value.tryGetString ≠ "") := fun h => h.2 hstate
      rw [if_pos hstate, if_neg hnot]
    · have hyes : name = shill.kStateProperty ∧ value.tryGetString ≠ "" := ⟨hname, hstate⟩
      rw [if_neg hstate, if_pos hyes]
      split
      · exact (onStateChangeForConnectingService_sameNetwork _ _ _).devices
      · rfl
  · have hnot : ¬(name = shill.kStateProperty ∧ value.tryGetString ≠ "") := fun h => hname h.1
    rw [if_neg hname, if_neg hnot]
    split
    · split
      · exact (onStrengthChangeForConnectingService_same _ _).1.devices
      · rfl
    · split
      · split <;> rfl
      · rfl

theorem replayProperty_devices_of_ne (s : ShillClient) (path : ObjectPath) (properties : VariantDictionary)
    (reentry : List ConnectCall) {name : String} (hname : name ≠ shill.kStateProperty) :
    (s.replayProperty path properties reentry name).devices = s.devices := by
  unfold replayProperty
  cases properties name with
  | none => rfl
  | some value =>
    dsimp only
    rw [onServicePropertyChange_devices, if_neg fun h => hname h.1]

theorem serviceProperty_deviceStep (s : ShillClient) (path : ObjectPath) (name : String) (value : Any)
    (reentry : List ConnectCall) : DeviceStep s (.serviceProperty path name value reentry)
      (s.onServicePropertyChange path name value reentry).devices := by
  rw [onServicePropertyChange_devices]
  split
  · rename_i h
    exact .state path value.tryGetString (by simp [Event.processed, h]) rfl rfl
  · rename_i h
    exact .of_same (by simp only [Event.processed, if_neg h]) rfl rfl

/-- The replay of a service's properties processes the state value read. -/
theorem serviceRegistration_deviceStep (s : ShillClient) (path : ObjectPath) (success : Bool)
    (replies : Replies) (reentry : List ConnectCall) :
    DeviceStep s (.serviceRegistration path success replies reentry)
      (s.onServicePropertyChangeRegistration path success replies reentry).devices := by
  unfold onServicePropertyChangeRegistration
  cases success with
  | false =>
    refine .of_same rfl rfl ?_
    simp only [Bool.not_false, Bool.or_true, if_true]
    split <;> rfl
  | true =>
    simp only [Bool.not_true, Bool.and_false, Bool.false_eq_true, if_false, Bool.or_false]
    cases hknown : s.isConnecting path || (s.deviceSelecting path).isSome with
    | false => exact .of_same (by simp [Event.processed, hknown]) rfl rfl
    | true =>
      simp only [Bool.not_true, Bool.false_eq_true, if_false]
      have hprocessed : Event.processed s (.serviceRegistration path true replies reentry) =
          (getStateForService replies.service).map fun state => (path, state) := by
        simp only [Event.processed, hknown, if_true]
      cases hservice : replies.service with
      | none => exact .of_same (by rw [hprocessed, hservice]; rfl) rfl rfl
      | some properties =>
        rw [hservice] at hprocessed
        simp only [List.foldl_cons, List.foldl_nil]
        rw [replayProperty_devices_of_ne _ _ _ _ (by decide +kernel),
          replayProperty_devices_of_ne _ _ _ _ (by decide +kernel)]
        unfold replayProperty
        cases hstate : properties shill.kStateProperty with
        | none => exact .of_same (by rw [hprocessed]; simp [getStateForService, hstate]) rfl rfl
        | some value =>
          dsimp only
          rw [onServicePropertyChange_devices]
          by_cases hvalue : value.tryGetString = ""
          · rw [if_neg fun h => h.2 hvalue]
            exact .of_same (by rw [hprocessed]; simp [getStateForService, hstate, hvalue]) rfl rfl
          · rw [if_pos ⟨rfl, hvalue⟩]
            refine .state path value.tryGetString ?_ rfl rfl
            rw [hprocessed]
            simp [getStateForService, hstate, hvalue]

/-- A device list leaves no device with a selected service that was not there before. -/
theorem onManagerPropertyChange_devices {path : ObjectPath} {device : DeviceState} (s : ShillClient)
    (value : Any) (replies : Replies) (hsome : device.selectedService.isSome)
    (h : (s.onManagerPropertyChange shill.kDevicesProperty value replies).devices[path]? = some device) :
    s.devices[path]? = some device := by
  have hscan := DeviceScan.loop_scanned replies value.tryGetPaths 0 s.scanOf
  rw [onManagerPropertyChange_eq] at h
  dsimp only at h
  generalize (DeviceScan.loop replies 0 value.tryGetPaths s.scanOf).2 = r at hscan h
  have hloop : r.client.devices[path]? = some device → s.devices[path]? = some device := by
    intro hr
    cases hs : s.devices[path]? with
    | none =>
      -- a new device has no selected service
      obtain ⟨rfl, -⟩ := hscan.new path device hs hr
      cases hsome
    | some old => exact (hscan.kept path old hs).symm.trans hr
  have hremove : (r.client.removeDevices r.devicePathsToRemove).devices[path]? = some device →
      r.client.devices[path]? = some device := by
    intro hr
    rw [removeDevices_getElem?] at hr
    split at hr
    · cases hr
    · exact hr
  split at h
  · split at h
    · exact hloop (hremove h)
    · exact hloop (hremove h)
  · exact hloop h

theorem onManagerProperties_devices {path : ObjectPath} {device : DeviceState} {replies : Replies}
    (ht : s.onManagerProperties replies = some t) (hsome : device.selectedService.isSome)
    (h : t.devices[path]? = some device) : s.devices[path]? = some device := by
  unfold onManagerProperties at ht
  split at ht
  · cases ht; exact h
  · split at ht
    · cases ht
    · cases ht; exact onManagerPropertyChange_devices s _ _ hsome h

/-- A newly selected service is at a path the device has not selected. -/
theorem newSelection_spec {path servicePath : ObjectPath} {value : Any} {device : DeviceState}
    (hdevice : s.devices[path]? = some device) :
    s.newSelection path value = some servicePath ↔ servicePath = value.tryGetPath ∧ servicePath.isValid ∧
      device.selects servicePath = false ∧ servicePath.value ≠ "/" := by
  unfold newSelection
  rw [hdevice]
  dsimp only
  split
  · rename_i h
    constructor
    · intro hsome
      obtain rfl := Option.some_inj.1 hsome
      exact ⟨rfl, h.1, by simpa using h.2.1, h.2.2⟩
    · rintro ⟨rfl, -⟩
      rfl
  · rename_i h
    refine iff_of_false (by simp) ?_
    rintro ⟨rfl, hvalid, hsel, hroot⟩
    exact h ⟨hvalid, by simpa using hsel, hroot⟩

/-- What `selectService` leaves for an offline device without a service. -/
theorem selectService_devices (path : ObjectPath) {device : DeviceState} (servicePath : ObjectPath)
    (replies : Replies) (hnone : device.selectedService = none) (hoff : device.serviceState = .offline) :
    (s.selectService path device servicePath replies).devices =
      if servicePath.value = "/" then s.devices.insert path {}
      else if s.isConnecting servicePath then
        s.devices.insert path ⟨s.connectingService, networkState (getStateForService replies.service)⟩
      else s.devices.insert path ⟨some ⟨.selected s.selections, servicePath⟩, .offline⟩ := by
  obtain ⟨service, state⟩ := device
  obtain rfl : service = none := hnone
  obtain rfl : state = .offline := hoff
  unfold selectService
  by_cases hroot : servicePath.value = "/"
  · rw [if_neg fun h => h.1 hroot, if_neg (not_not.2 hroot), if_pos hroot]
  · rw [if_neg hroot]
    by_cases hconn : s.isConnecting servicePath
    · rw [if_pos ⟨hroot, hconn⟩, if_pos hconn]
      cases getStateForService replies.service <;> rfl
    · rw [if_neg fun h => hconn h.2, if_pos hroot, if_neg hconn]

/-- The event reports the selected service of a device. -/
structure Reports (s : ShillClient) (e : Event) (path : ObjectPath) (value : Any) (replies : Replies) : Prop where
  selection : e.selection = some (path, value, replies)
  processed : e.processed s = e.read s

namespace Reports

variable {e : Event} {path : ObjectPath} {value : Any} {replies : Replies} {device fresh : DeviceState}

theorem selects_eq (h : Reports s e path value replies) :
    e.selects s = (s.newSelection path value).map fun servicePath => (path, servicePath) := by
  simp only [Event.selects, h.selection]

theorem processed_eq (h : Reports s e path value replies) :
    e.processed s = match s.newSelection path value with
      | none => none
      | some servicePath =>
        if s.isConnecting servicePath then
          (getStateForService replies.service).map fun state => (servicePath, state)
        else none := by
  rw [h.processed]
  simp only [Event.read, h.selection]

/-- Without a new selection nothing is processed. -/
theorem nothing (h : Reports s e path value replies) (hnone : s.newSelection path value = none) :
    e.processed s = none ∧ e.selects s = none := by
  rw [h.processed_eq, h.selects_eq, hnone]
  exact ⟨rfl, rfl⟩

/-- The device loses its service: shill says that it has none. -/
theorem deselect_deviceStep (h : Reports s e path value replies) (hdevice : s.devices[path]? = some device)
    (hroot : value.tryGetPath.value = "/") : DeviceStep s e (s.devices.insert path {}) := by
  have hnone : s.newSelection path value = none := by
    refine Option.eq_none_iff_forall_not_mem.2 fun servicePath hnew => ?_
    obtain ⟨rfl, -, -, hne⟩ := (newSelection_spec hdevice).1 hnew
    exact hne hroot
  obtain ⟨hprocessed, hselects⟩ := h.nothing hnone
  refine .quiet hprocessed hselects fun p d hd hsome => ?_
  rw [PathMap.getElem?_insert] at hd
  split at hd
  · cases hd
    cases hsome
  · exact hd

/-- The device selects another service: the connecting one with the state read, or a new proxy. -/
theorem select_deviceStep (h : Reports s e path value replies) (hdevice : s.devices[path]? = some device)
    (hnew : s.newSelection path value = some value.tryGetPath) :
    DeviceStep s e (if s.isConnecting value.tryGetPath then
        s.devices.insert path ⟨s.connectingService, networkState (getStateForService replies.service)⟩
      else s.devices.insert path ⟨some ⟨.selected s.selections, value.tryGetPath⟩, .offline⟩) := by
  have hselects := h.selects_eq
  have hread := h.processed_eq
  rw [hnew] at hselects hread
  have hpath : ∀ d, s.devices[path]? = some d → d.selects value.tryGetPath = false := by
    intro d hd
    rw [hdevice] at hd
    cases hd
    exact ((newSelection_spec hdevice).1 hnew).2.2.1
  split
  · rename_i hconn
    obtain ⟨id, hid⟩ := (isConnecting_iff s _).1 hconn
    simp only [hconn, if_true] at hread
    refine .selected path ⟨id, value.tryGetPath⟩ hselects ?_ hpath ?_
    · intro p v hpv
      rw [hread] at hpv
      obtain ⟨state, -, hstate⟩ := Option.map_eq_some_iff.1 hpv
      exact (congrArg Prod.fst hstate).symm
    · rw [hid, hread]
      cases getStateForService replies.service <;> rfl
  · rename_i hconn
    simp only [hconn] at hread
    refine .selected path ⟨.selected s.selections, value.tryGetPath⟩ hselects ?_ hpath ?_
    · intro p v hpv
      rw [hread] at hpv
      cases hpv
    · rw [hread]
      rfl

/-- `fresh` is the device without the service it has had. -/
theorem selectService_deviceStep (h : Reports s e path value replies) (hdevice : s.devices[path]? = some device)
    (hvalid : value.tryGetPath.isValid) (hother : device.selects value.tryGetPath = false)
    (hnone : fresh.selectedService = none) (hoff : fresh.serviceState = .offline) :
    DeviceStep s e (s.selectService path fresh value.tryGetPath replies).devices := by
  rw [selectService_devices path value.tryGetPath replies hnone hoff]
  split
  · rename_i hroot
    exact h.deselect_deviceStep hdevice hroot
  · rename_i hroot
    exact h.select_deviceStep hdevice ((newSelection_spec hdevice).2 ⟨rfl, hvalid, hother, hroot⟩)

/-- A report does nothing to the device, takes its service from it, or makes it select another. -/
theorem deviceStep (h : Reports s e path value replies) (hidle : Idle s.devices) :
    DeviceStep s e (s.onDevicePropertyChange path shill.kSelectedServiceProperty value replies).devices := by
  have hsame : (∀ servicePath, s.newSelection path value ≠ some servicePath) → DeviceStep s e s.devices := by
    intro hnot
    obtain ⟨hprocessed, hselects⟩ := h.nothing (Option.eq_none_iff_forall_not_mem.2 hnot)
    exact .of_same hprocessed hselects rfl
  unfold onDevicePropertyChange
  rw [if_neg (by simp)]
  cases hdevice : s.devices[path]? with
  | none =>
    refine hsame fun servicePath hnew => ?_
    unfold newSelection at hnew
    rw [hdevice] at hnew
    cases hnew
  | some device =>
    dsimp only
    split
    · rename_i hinvalid
      refine hsame fun servicePath hnew => ?_
      obtain ⟨rfl, hvalid, -⟩ := (newSelection_spec hdevice).1 hnew
      rw [hvalid] at hinvalid
      cases hinvalid
    · rename_i hvalid
      split
      · rename_i hselected
        refine hsame fun servicePath hnew => ?_
        obtain ⟨rfl, -, hother, -⟩ := (newSelection_spec hdevice).1 hnew
        rw [DeviceState.selects, hselected] at hother
        cases hother
      · rename_i hother
        -- the device starts the selection without a service, and offline
        set device' : DeviceState := if device.selectedService.isSome = true then {} else device with hdevice'
        have hfresh : device'.selectedService = none ∧ device'.serviceState = .offline := by
          rw [hdevice']
          cases hold : device.selectedService with
          | none => simpa [hold] using hidle path device hdevice hold
          | some old => simp
        have hstep := h.selectService_deviceStep hdevice (by simpa using hvalid) (Bool.eq_false_iff.2 hother)
          hfresh.1 hfresh.2
        split
        · exact hstep
        · exact hstep

end Reports

theorem onDevicePropertyChangeRegistration_deviceStep (hidle : Idle s.devices) {path : ObjectPath}
    {success : Bool} {replies : Replies}
    (h : s.onDevicePropertyChangeRegistration path success replies = some t) :
    DeviceStep s (.deviceRegistration path success replies) t.devices := by
  set e : Event := .deviceRegistration path success replies with he
  have hnothing : e.selection = none → DeviceStep s e s.devices := fun hnone =>
    .of_same (read_of_selection_none hnone) (selects_of_selection_none hnone) rfl
  unfold onDevicePropertyChangeRegistration at h
  split at h
  · rename_i hdevice
    cases h
    -- an untracked device selects nothing
    have hnew : ∀ value, s.newSelection path value = none := fun value => by unfold newSelection; rw [hdevice]
    cases hselection : e.selection with
    | none => exact hnothing hselection
    | some report =>
      have hpath : report.1 = path := by
        rw [he] at hselection
        cases success with
        | false => cases hselection
        | true =>
          simp only [Event.selection] at hselection
          split at hselection
          · cases hselection
          · obtain ⟨value, -, hreport⟩ := Option.map_eq_some_iff.1 hselection
            rw [← hreport]
      obtain ⟨p, value, r⟩ := report
      obtain rfl : p = path := hpath
      refine .of_same ?_ ?_ rfl
      · show e.read s = none
        simp only [Event.read, hselection, hnew]
      · simp only [Event.selects, hselection, hnew, Option.map_none]
  · split_ifs at h with hsuccess
    obtain rfl : success = true := by simpa using hsuccess
    split at h
    · rename_i hreply
      cases h
      exact hnothing (by simp only [he, Event.selection, hreply])
    · rename_i properties hreply
      split at h
      · rename_i hvalue
        cases h
        exact hnothing (by simp only [he, Event.selection, hreply, hvalue, Option.map_none])
      · rename_i value hvalue
        cases h
        have hreports : Reports s e path value replies :=
          ⟨by simp only [he, Event.selection, hreply, hvalue, Option.map_some], rfl⟩
        exact hreports.deviceStep hidle

/-- **Every event does such a step to the devices.** -/
theorem next_deviceStep (hidle : Idle s.devices) {e : Event} (h : s.next e = some t) :
    DeviceStep s e t.devices := by
  cases e with
  | connect c => cases h; exact .of_same rfl rfl (connect_sameNetwork s c).devices
  | addConnectionChangedCallback l => cases h; exact .of_same rfl rfl rfl
  | ownerChange newOwner replies =>
    refine .quiet rfl rfl fun path device hdevice hsome => ?_
    have hempty : s.reset.devices[path]? = none := Std.ExtTreeMap.getElem?_empty
    have hreset : s.reset.devices[path]? ≠ some device := by simp [hempty]
    simp only [next, onShillServiceOwnerChange] at h
    split at h
    · cases h
      exact absurd hdevice hreset
    · exact absurd (onManagerProperties_devices h hsome hdevice) hreset
  | managerRegistration success replies =>
    refine .quiet rfl rfl fun path device hdevice hsome => ?_
    simp only [next, onManagerPropertyChangeRegistration] at h
    split at h
    · cases h
    · exact onManagerProperties_devices h hsome hdevice
  | managerProperty name value replies =>
    refine .quiet rfl rfl fun path device hdevice hsome => ?_
    cases h
    by_cases hname : name = shill.kDevicesProperty
    · subst hname
      exact onManagerPropertyChange_devices s value replies hsome hdevice
    · simpa [onManagerPropertyChange, hname] using hdevice
  | deviceRegistration path success replies => exact onDevicePropertyChangeRegistration_deviceStep hidle h
  | deviceProperty path name value replies =>
    cases h
    by_cases hname : name = shill.kSelectedServiceProperty
    · subst hname
      have hreports : Reports s (.deviceProperty path shill.kSelectedServiceProperty value replies) path value
          replies := ⟨by simp [Event.selection], rfl⟩
      exact hreports.deviceStep hidle
    · have hselection : Event.selection (.deviceProperty path name value replies) = none := by
        simp [Event.selection, hname]
      refine .of_same (read_of_selection_none hselection) (selects_of_selection_none hselection) ?_
      simp [onDevicePropertyChange, hname]
  | serviceRegistration path success replies reentry =>
    cases h; exact serviceRegistration_deviceStep s _ _ _ _
  | serviceProperty path name value reentry => cases h; exact serviceProperty_deviceStep s _ _ _ _
  | timeout service reentry =>
    simp only [next] at h
    split at h
    · cases h
      rw [connectToServiceError_eq]
      refine .of_same rfl rfl ?_
      split
      · rfl
      · exact (finish_sameNetwork _ _ _).devices
    · cases h
  | notify => exact .of_same rfl rfl (notifyConnectivityListeners_devices h).1

/-! ## When the states stay right -/

theorem remember_quiet {e : Event} (hprocessed : e.processed s = none) (hselects : e.selects s = none)
    (last : ObjectPath → Option String) (path : ObjectPath) : s.remember e last path = last path := by
  simp [remember, hprocessed, hselects]

theorem remember_state {e : Event} {servicePath : ObjectPath} {state : String} {path : ObjectPath}
    {device : DeviceState} (hprocessed : e.processed s = some (servicePath, state))
    (hselects : ∀ selection, e.selects s = some selection → selection.1 ≠ path)
    (hdevice : s.devices[path]? = some device) (last : ObjectPath → Option String) :
    s.remember e last path = if device.selects servicePath then some state else last path := by
  have hother : ((e.selects s).any fun selection => selection.1 == path) = false := by
    cases hs : e.selects s with
    | none => rfl
    | some selection => simpa using hselects selection hs
  simp [remember, hother, hprocessed, hdevice]

/-- The first device that selects a path is one. -/
theorem deviceSelecting_spec {servicePath path : ObjectPath} {device : DeviceState}
    (h : s.deviceSelecting servicePath = some (path, device)) :
    s.devices[path]? = some device ∧ device.selects servicePath := by
  have hsel := List.find?_some h
  exact ⟨(PathMap.mem_toList s.devices).1 (List.mem_of_find?_eq_some h), hsel⟩

theorem deviceSelecting_none {servicePath path : ObjectPath} {device : DeviceState}
    (h : s.deviceSelecting servicePath = none) (hdevice : s.devices[path]? = some device) :
    device.selects servicePath = false :=
  Bool.eq_false_iff.2 (List.find?_eq_none.1 h (path, device) ((PathMap.mem_toList s.devices).2 hdevice))

/-- A signal's state value leaves the states right exactly if the devices it does not reach
have that state. -/
theorem onStateChangeForSelectedService_follows_iff {e : Event} {servicePath : ObjectPath} {state : String}
    (hprocessed : e.processed s = some (servicePath, state)) (hselection : e.selection = none)
    (hm : t.devices = (s.onStateChangeForSelectedService servicePath state).devices)
    (hs : StatesFollow (s, last)) : StatesFollow (t, s.remember e last) ↔ ReachesAll (s, last) e := by
  have hselects : ∀ path, ∀ selection, e.selects s = some selection → selection.1 ≠ path := by
    intro path selection hsel
    rw [selects_of_selection_none hselection] at hsel
    cases hsel
  cases hfirst : s.deviceSelecting servicePath with
  | none =>
    -- nothing changes, and no device has selected the service
    have hsame : t.devices = s.devices := by
      rw [hm, onStateChangeForSelectedService, hfirst]
    refine iff_of_true ?_ ?_
    · intro path device hdevice hsome
      show device.serviceState = networkState (s.remember e last path)
      replace hdevice : s.devices[path]? = some device := hsame ▸ hdevice
      rw [remember_state hprocessed (hselects path) hdevice,
        if_neg (by simp [deviceSelecting_none hfirst hdevice])]
      exact hs path device hdevice hsome
    · intro p v hpv path device hdevice hsel
      rw [hprocessed] at hpv
      cases hpv
      rw [deviceSelecting_none hfirst hdevice] at hsel
      cases hsel
  | some first =>
    obtain ⟨path₀, device₀⟩ := first
    obtain ⟨hdevice₀, hsel₀⟩ := deviceSelecting_spec hfirst
    have hinsert : t.devices =
        s.devices.insert path₀ { device₀ with serviceState := shillServiceStateToNetworkState state } := by
      rw [hm, onStateChangeForSelectedService, hfirst]
      rfl
    have hother : ∀ path : ObjectPath, path₀ ≠ path → t.devices[path]? = s.devices[path]? := by
      intro path hne
      rw [hinsert, PathMap.getElem?_insert, if_neg hne]
    constructor
    · intro ht p v hpv path device hdevice hsel
      rw [hprocessed] at hpv
      cases hpv
      by_cases hpath : path₀ = path
      · exact .inl ⟨hselection, by rw [hfirst, hpath]; rfl⟩
      · have hsome : device.selectedService.isSome := by
          obtain ⟨id, hid⟩ := (device.selects_iff _).1 hsel
          rw [hid]; rfl
        have hstate := ht path device ((hother path hpath).trans hdevice) hsome
        dsimp only at hdevice hstate
        rw [remember_state hprocessed (hselects path) hdevice, if_pos hsel] at hstate
        exact .inr hstate
    · intro hreach path device hdevice hsome
      dsimp only at hdevice ⊢
      by_cases hpath : path₀ = path
      · subst hpath
        rw [remember_state hprocessed (hselects _) hdevice₀, if_pos hsel₀]
        rw [hinsert, PathMap.getElem?_insert, if_pos rfl] at hdevice
        cases hdevice
        rfl
      · rw [hother path hpath] at hdevice
        rw [remember_state hprocessed (hselects path) hdevice]
        split
        · rename_i hsel
          refine (hreach _ _ hprocessed path device hdevice hsel).resolve_left ?_
          rintro ⟨-, hfirst'⟩
          dsimp only at hfirst'
          rw [hfirst] at hfirst'
          exact hpath (Option.some_inj.1 hfirst')
        · exact hs path device hdevice hsome

/-- A selection leaves the states right exactly if the other devices have the state read. -/
theorem selected_follows_iff {e : Event} {path : ObjectPath} {service : ServiceProxy}
    (hselects : e.selects s = some (path, service.path))
    (hpath : ∀ servicePath state, e.processed s = some (servicePath, state) → servicePath = service.path)
    (hnew : ∀ device, s.devices[path]? = some device → device.selects service.path = false)
    (hm : t.devices = s.devices.insert path ⟨some service, networkState ((e.processed s).map Prod.snd)⟩)
    (hs : StatesFollow (s, last)) : StatesFollow (t, s.remember e last) ↔ ReachesAll (s, last) e := by
  have hself : s.remember e last path = (e.processed s).map Prod.snd := by
    simp [remember, hselects]
  have hother : ∀ p : ObjectPath, path ≠ p → t.devices[p]? = s.devices[p]? := by
    intro p hne
    rw [hm, PathMap.getElem?_insert, if_neg hne]
  have hne : ∀ p, path ≠ p → ∀ selection, e.selects s = some selection → selection.1 ≠ p := by
    intro p hp selection hsel
    rw [hselects] at hsel
    cases hsel
    exact hp
  have hreport : e.selection ≠ none := by
    intro hnone
    rw [selects_of_selection_none hnone] at hselects
    cases hselects
  constructor
  · intro ht p v hpv path' device hdevice hsel
    obtain rfl := hpath p v hpv
    have hp : path ≠ path' := by
      rintro rfl
      rw [hnew device hdevice] at hsel
      cases hsel
    have hsome : device.selectedService.isSome := by
      obtain ⟨id, hid⟩ := (device.selects_iff _).1 hsel
      rw [hid]; rfl
    have hstate := ht path' device ((hother path' hp).trans hdevice) hsome
    dsimp only at hdevice hpv hstate
    rw [remember_state hpv (hne path' hp) hdevice, if_pos hsel] at hstate
    exact .inr hstate
  · intro hreach path' device hdevice hsome
    dsimp only at hdevice ⊢
    by_cases hp : path = path'
    · subst hp
      rw [hm, PathMap.getElem?_insert, if_pos rfl] at hdevice
      cases hdevice
      rw [hself]
    · rw [hother path' hp] at hdevice
      cases hpv : e.processed s with
      | none =>
        have hlast : s.remember e last path' = last path' := by simp [remember, hselects, hp, hpv]
        rw [hlast]
        exact hs path' device hdevice hsome
      | some value =>
        obtain ⟨p, v⟩ := value
        rw [remember_state hpv (hne path' hp) hdevice]
        split
        · rename_i hsel
          exact (hreach _ _ hpv path' device hdevice hsel).resolve_left fun h => hreport h.1
        · exact hs path' device hdevice hsome

theorem DeviceStep.follows_iff {e : Event} (h : DeviceStep s e t.devices) (hs : StatesFollow (s, last)) :
    StatesFollow (t, s.remember e last) ↔ ReachesAll (s, last) e := by
  cases h with
  | quiet hprocessed hselects h =>
    refine iff_of_true ?_ ?_
    · intro path device hdevice hsome
      show device.serviceState = networkState (s.remember e last path)
      rw [remember_quiet hprocessed hselects]
      exact hs path device (h path device hdevice hsome) hsome
    · intro p v hpv
      rw [hprocessed] at hpv
      cases hpv
  | state servicePath state hprocessed hselection h =>
    exact onStateChangeForSelectedService_follows_iff hprocessed hselection h hs
  | selected path service hselects hprocessed hnew h =>
    exact selected_follows_iff hselects hprocessed hnew h hs

theorem followed_next {s t : ShillClient × (ObjectPath → Option String)} {e : Event}
    (h : followed.next s e = some t) : s.1.next e = some t.1 ∧ t.2 = s.1.remember e s.2 := by
  obtain ⟨u, hu, rfl⟩ := Option.map_eq_some_iff.1 h
  exact ⟨hu, rfl⟩

/-- At the start no device has a selected service. -/
theorem start_follows (h : machine.start s) : StatesFollow (s, fun _ => none) := by
  obtain ⟨deviceWhitelist, replies, hs⟩ := h
  intro path device hdevice hsome
  have hempty : (reset { deviceWhitelist }).devices[path]? = some device :=
    onManagerProperties_devices hs hsome hdevice
  rw [reset, show (∅ : PathMap DeviceState)[path]? = none from Std.ExtTreeMap.getElem?_empty] at hempty
  cases hempty

/-- **When the cached states are right after every event of a run.** -/
theorem follows_along_iff {es : List Event} (hs : machine.start s)
    (hrun : (followed.run (s, fun _ => none) es).isSome) :
    followed.Along StatesFollow (s, fun _ => none) es ↔ followed.Meets ReachesAll (s, fun _ => none) es := by
  refine Machine.along_iff_meets (P := fun s => machine.Reach s.1) ?_ ?_ (.start hs) (start_follows hs) hrun
  · intro s e t hr hn
    exact hr.step trivial (followed_next hn).1
  · rintro s e ⟨t, last⟩ hr hQ hn
    obtain ⟨hnext, rfl⟩ := followed_next hn
    exact (next_deviceStep (connectivity_best hr).idle hnext).follows_iff hQ

def wlanDevice : ObjectPath := ⟨"/device/wlan0"⟩

/-- Two devices select one service, whose state is then signalled. -/
def sharedRun : List Event :=
  [.managerProperty shill.kDevicesProperty (.paths [lanDevice, wlanDevice]) {},
   .deviceProperty wlanDevice shill.kSelectedServiceProperty (.path lanService) {},
   .deviceProperty lanDevice shill.kSelectedServiceProperty (.path lanService) {},
   .serviceProperty lanService shill.kStateProperty (.string "online") []]

theorem follows_along_iff_test : followed.Along StatesFollow (idleClient, fun _ => none) sharedRun ↔
    followed.Meets ReachesAll (idleClient, fun _ => none) sharedRun :=
  follows_along_iff idleClient_start rfl

/-- The second device that has selected the service stays offline. -/
theorem second_device_stale : ¬∀ s es t, machine.start s → followed.run (s, fun _ => none) es = some t →
    StatesFollow t := by
  intro hall
  set t := (followed.run (idleClient, fun _ => none) sharedRun).get rfl with ht
  have h := hall idleClient sharedRun t idleClient_start (Option.some_get _).symm wlanDevice
    ⟨some ⟨.selected 0, lanService⟩, .offline⟩ (by decide +kernel) rfl
  have hlast : t.2 wlanDevice = some "online" := by decide +kernel
  rw [hlast] at h
  exact absurd h (by decide +kernel)

end ShillClient

end SystemWeaved
