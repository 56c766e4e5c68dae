import SystemWeaved.Lib.Simulation
import SystemWeaved.Proof.DeviceList

/-!
# Devices outside the whitelist

`IsMonitoredDevice` is asked only where a device list is reconciled; the later handlers rely on
membership in `devices_`.

* `loop_visible`: the loop over a device list is the same without the valid paths that are not
  monitored.
* `NoNewDevice`: no other handler adds a device.
* `whitelist_noninterference`: a run is the same, state by state, without the events and the
  listed paths of devices that are not monitored.
-/

namespace SystemWeaved

/-! ## What is left of the events -/

/-- A path that may stay in a device list: it is monitored, or not a path at all. -/
def ObjectPath.visible (monitored : ObjectPath → Bool) (path : ObjectPath) : Bool :=
  !path.isValid || monitored path

/-- A device list without the valid paths that are not monitored. -/
def Any.visible (monitored : ObjectPath → Bool) : Any → Any
  | .paths ps => .paths (ps.filter (ObjectPath.visible monitored))
  | value => value

theorem Any.tryGetPaths_visible (monitored : ObjectPath → Bool) (value : Any) :
    (value.visible monitored).tryGetPaths = value.tryGetPaths.filter (ObjectPath.visible monitored) := by
  cases value <;> rfl

/-- With this whitelist the answers make `IsMonitoredDevice` the predicate `monitored`. -/
def Replies.Agree (deviceWhitelist : List String) (monitored : ObjectPath → Bool) (replies : Replies) : Prop :=
  ∀ i path, ShillClient.isMonitoredDevice { deviceWhitelist } (replies.device i path) = monitored path

/-- The answers, with the device list of the manager's properties cut down. -/
def Replies.visible (monitored : ObjectPath → Bool) (replies : Replies) : Replies :=
  { replies with
    manager := replies.manager.map fun properties name =>
      if name = shill.kDevicesProperty then (properties name).map (Any.visible monitored) else properties name }

namespace ShillClient

variable {s t u : ShillClient} {deviceWhitelist : List String} {monitored : ObjectPath → Bool}
  {replies replies' : Replies}

/-- The event without the devices that are not monitored: the device's own events go, and
device lists are cut down. -/
def Event.visible (monitored : ObjectPath → Bool) : Event → Option Event
  | .deviceProperty path name value replies =>
    if monitored path then some (.deviceProperty path name value replies) else none
  | .deviceRegistration path success replies =>
    if monitored path then some (.deviceRegistration path success replies) else none
  | .managerProperty name value replies =>
    some (.managerProperty name (if name = shill.kDevicesProperty then value.visible monitored else value) replies)
  | .managerRegistration success replies => some (.managerRegistration success (replies.visible monitored))
  | .ownerChange newOwner replies => some (.ownerChange newOwner (replies.visible monitored))
  | e => some e

/-- `IsMonitoredDevice` answers `monitored` wherever the event asks it. -/
def Event.Agrees (deviceWhitelist : List String) (monitored : ObjectPath → Bool) : Event → Prop
  | .managerProperty _ _ replies | .managerRegistration _ replies | .ownerChange _ replies =>
    replies.Agree deviceWhitelist monitored
  | _ => True

/-- All tracked devices are monitored. -/
structure OnlyMonitored (deviceWhitelist : List String) (monitored : ObjectPath → Bool) (s : ShillClient) :
    Prop where
  whitelist : s.deviceWhitelist = deviceWhitelist
  devices : ∀ path, s.Tracks path → monitored path

theorem OnlyMonitored.answer (hs : OnlyMonitored deviceWhitelist monitored s)
    (h : replies.Agree deviceWhitelist monitored) (i : ℕ) (path : ObjectPath) :
    s.isMonitoredDevice (replies.device i path) = monitored path := by
  rw [← h i path, ← hs.whitelist]
  rfl

/-! ## The loop over a device list -/

theorem DeviceScan.visit_congr (scan : DeviceScan) {p q : Option VariantDictionary} (path : ObjectPath)
    (h : scan.client.isMonitoredDevice p = scan.client.isMonitoredDevice q) :
    scan.visit p path = scan.visit q path := by
  unfold DeviceScan.visit
  rw [h]

theorem DeviceScan.visit_onlyMonitored {scan : DeviceScan} {properties : Option VariantDictionary}
    {path : ObjectPath} (hscan : OnlyMonitored deviceWhitelist monitored scan.client)
    (hmon : scan.client.isMonitoredDevice properties = monitored path) :
    OnlyMonitored deviceWhitelist monitored (scan.visit properties path).client := by
  refine ⟨(scan.visit_whitelist _ _).trans hscan.whitelist, ?_⟩
  have hcases := scan.visit_cases properties path
  generalize scan.visit properties path = mid at hcases ⊢
  cases hcases with
  | seen h => exact hscan.devices
  | ignored h _ => exact hscan.devices
  | added h hyes =>
    intro p htrack
    by_cases hp : path = p
    · subst hp
      rw [← hmon, hyes]
    · rw [Tracks, PathMap.getElem?_insert, if_neg hp] at htrack
      exact hscan.devices p htrack

/-- **The loop does not see the devices that are not monitored**, wherever its queries start. -/
theorem loop_visible (hr : replies.Agree deviceWhitelist monitored)
    (hr' : replies'.Agree deviceWhitelist monitored) (paths : List ObjectPath) :
    ∀ (i j : ℕ) (scan : DeviceScan), OnlyMonitored deviceWhitelist monitored scan.client →
      DeviceScan.loop replies' j (paths.filter (ObjectPath.visible monitored)) scan =
        DeviceScan.loop replies i paths scan ∧
      OnlyMonitored deviceWhitelist monitored (DeviceScan.loop replies i paths scan).2.client := by
  induction paths with
  | nil => exact fun i j scan h => ⟨rfl, h⟩
  | cons head rest ih =>
    intro i j scan h
    cases hvalid : head.isValid with
    | false =>
      rw [List.filter_cons_of_pos (by simp [ObjectPath.visible, hvalid])]
      unfold DeviceScan.loop
      simp only [hvalid, Bool.not_false, if_true]
      exact ⟨trivial, h⟩
    | true =>
      rw [DeviceScan.loop_cons hvalid]
      have hmid := DeviceScan.visit_onlyMonitored h (h.answer hr i head)
      cases hmon : monitored head with
      | true =>
        rw [List.filter_cons_of_pos (by simp [ObjectPath.visible, hmon]), DeviceScan.loop_cons hvalid,
          scan.visit_congr head ((h.answer hr' j head).trans (h.answer hr i head).symm)]
        exact ih (i + 1) (j + 1) _ hmid
      | false =>
        -- the device is neither tracked nor added
        rw [List.filter_cons_of_neg (by simp [ObjectPath.visible, hvalid, hmon])]
        have hnone : scan.client.devices[head]? = none := by
          by_contra htrack
          rw [h.devices head htrack] at hmon
          cases hmon
        have hskip : scan.visit (replies.device i head) head = scan := by
          unfold DeviceScan.visit
          rw [hnone, h.answer hr i head, hmon]
          rfl
        rw [hskip]
        exact ih (i + 1) j scan h

theorem all_isValid_visible (monitored : ObjectPath → Bool) (paths : List ObjectPath) :
    (paths.filter (ObjectPath.visible monitored)).all ObjectPath.isValid = paths.all ObjectPath.isValid := by
  rw [List.all_filter]
  congr 1
  funext path
  cases hvalid : path.isValid <;> simp [ObjectPath.visible, hvalid]

theorem onManagerPropertyChange_visible (hs : OnlyMonitored deviceWhitelist monitored s)
    (hr : replies.Agree deviceWhitelist monitored) (hr' : replies'.Agree deviceWhitelist monitored) (value : Any) :
    s.onManagerPropertyChange shill.kDevicesProperty (value.visible monitored) replies' =
      s.onManagerPropertyChange shill.kDevicesProperty value replies := by
  have hloop := (loop_visible hr hr' value.tryGetPaths 0 0 s.scanOf hs).1
  rw [onManagerPropertyChange_eq, onManagerPropertyChange_eq, Any.tryGetPaths_visible, all_isValid_visible, hloop]

theorem onManagerProperties_visible (hs : OnlyMonitored deviceWhitelist monitored s)
    (hr : replies.Agree deviceWhitelist monitored) :
    s.onManagerProperties (replies.visible monitored) = s.onManagerProperties replies := by
  have hr' : (replies.visible monitored).Agree deviceWhitelist monitored := hr
  have hmanager : (replies.visible monitored).manager = replies.manager.map fun properties name =>
      if name = shill.kDevicesProperty then (properties name).map (Any.visible monitored) else properties name := rfl
  unfold onManagerProperties
  rw [hmanager]
  cases replies.manager with
  | none => rfl
  | some properties =>
    simp only [Option.map_some, if_pos]
    cases properties shill.kDevicesProperty with
    | none => rfl
    | some value => exact congrArg some (onManagerPropertyChange_visible hs hr hr' value)

/-! ## What the handlers do to the set of devices -/

/-- No device is added. -/
structure NoNewDevice (s t : ShillClient) : Prop where
  whitelist : t.deviceWhitelist = s.deviceWhitelist
  tracks : ∀ path, t.Tracks path → s.Tracks path

theorem NoNewDevice.refl (s : ShillClient) : NoNewDevice s s := ⟨rfl, fun _ h => h⟩

theorem NoNewDevice.trans (h : NoNewDevice s t) (h' : NoNewDevice t u) : NoNewDevice s u :=
  ⟨h'.whitelist.trans h.whitelist, fun path htrack => h.tracks path (h'.tracks path htrack)⟩

theorem NoNewDevice.of_devices (hw : t.deviceWhitelist = s.deviceWhitelist) (hd : t.devices = s.devices) :
    NoNewDevice s t := by
  refine ⟨hw, fun path htrack => ?_⟩
  rwa [Tracks, hd] at htrack

theorem NoNewDevice.insert {path : ObjectPath} (htrack : s.Tracks path) (device : DeviceState)
    (hw : t.deviceWhitelist = s.deviceWhitelist) (hd : t.devices = s.devices.insert path device) :
    NoNewDevice s t := by
  refine ⟨hw, fun p hp => ?_⟩
  by_cases heq : path = p
  · exact heq ▸ htrack
  · rwa [Tracks, hd, PathMap.getElem?_insert, if_neg heq] at hp

theorem OnlyMonitored.of_noNewDevice (hs : OnlyMonitored deviceWhitelist monitored s) (h : NoNewDevice s t) :
    OnlyMonitored deviceWhitelist monitored t :=
  ⟨h.whitelist.trans hs.whitelist, fun path htrack => hs.devices path (h.tracks path htrack)⟩

theorem connect_whitelist (s : ShillClient) (c : ConnectCall) :
    (s.connect c).deviceWhitelist = s.deviceWhitelist := by
  have h := connect_cases s c
  generalize s.connect c = t at h ⊢
  cases h <;> rfl

theorem foldl_connect_whitelist (reentry : List ConnectCall) :
    ∀ s : ShillClient, (reentry.foldl connect s).deviceWhitelist = s.deviceWhitelist := by
  induction reentry with
  | nil => exact fun _ => rfl
  | cons c cs ih => exact fun s => (ih _).trans (connect_whitelist s c)

theorem finish_noNewDevice (s : ShillClient) (error : ErrorPtr WeaveError) (reentry : List ConnectCall) :
    NoNewDevice s (s.finish error reentry) := by
  refine .of_devices ?_ (finish_sameNetwork s error reentry).devices
  unfold finish runDone
  split
  · rfl
  · exact foldl_connect_whitelist _ _

theorem onStateChangeForConnectingService_noNewDevice (s : ShillClient) (state : String)
    (reentry : List ConnectCall) : NoNewDevice s (s.onStateChangeForConnectingService state reentry) := by
  rw [onStateChangeForConnectingService_eq]
  split
  · exact finish_noNewDevice _ _ _
  · split
    · exact .refl s
    · exact finish_noNewDevice _ _ _
  · exact .refl s
  · exact .refl s

theorem onStateChangeForSelectedService_noNewDevice (s : ShillClient) (path : ObjectPath) (state : String) :
    NoNewDevice s (s.onStateChangeForSelectedService path state) := by
  unfold onStateChangeForSelectedService
  cases hsel : s.deviceSelecting path with
  | none => exact .refl s
  | some kv =>
    -- the search has found a key of the map
    have hmem := (PathMap.mem_toList s.devices).1 (List.mem_of_find?_eq_some hsel)
    have htrack : s.Tracks kv.1 := by simp [Tracks, hmem]
    exact .insert htrack _ rfl rfl

theorem onServicePropertyChange_noNewDevice (s : ShillClient) (path : ObjectPath) (name : String) (value : Any)
    (reentry : List ConnectCall) : NoNewDevice s (s.onServicePropertyChange path name value reentry) := by
  unfold onServicePropertyChange
  dsimp only
  split
  · split
    · exact .refl s
    · have hsel := onStateChangeForSelectedService_noNewDevice s path value.tryGetString
      split
      · exact hsel.trans (onStateChangeForConnectingService_noNewDevice _ _ _)
      · exact hsel
  · split
    · split
      · unfold onStrengthChangeForConnectingService
        split <;> exact .of_devices rfl rfl
      · exact .refl s
    · split
      · split <;> exact .of_devices rfl rfl
      · exact .refl s

theorem replayProperty_noNewDevice (s : ShillClient) (path : ObjectPath) (properties : VariantDictionary)
    (reentry : List ConnectCall) (name : String) :
    NoNewDevice s (s.replayProperty path properties reentry name) := by
  unfold replayProperty
  cases properties name with
  | none => exact .refl s
  | some value => exact onServicePropertyChange_noNewDevice s _ _ _ _

theorem onServicePropertyChangeRegistration_noNewDevice (s : ShillClient) (path : ObjectPath) (success : Bool)
    (replies : Replies) (reentry : List ConnectCall) :
    NoNewDevice s (s.onServicePropertyChangeRegistration path success replies reentry) := by
  have hcases := registration_cases s path success replies reentry
  generalize s.onServicePropertyChangeRegistration path success replies reentry = t at hcases ⊢
  cases hcases with
  | failed hconn => exact .of_devices rfl rfl
  | ignored => exact .refl s
  | replayed hprops =>
    exact ((replayProperty_noNewDevice _ _ _ _ _).trans (replayProperty_noNewDevice _ _ _ _ _)).trans
      (replayProperty_noNewDevice _ _ _ _ _)

theorem selectService_noNewDevice {path : ObjectPath} (htrack : s.Tracks path) (device : DeviceState)
    (servicePath : ObjectPath) (replies : Replies) :
    NoNewDevice s (s.selectService path device servicePath replies) := by
  unfold selectService
  split
  · exact .insert htrack _ rfl rfl
  · split
    · exact .insert htrack _ rfl rfl
    · exact .insert htrack _ rfl rfl

theorem onDevicePropertyChange_noNewDevice (s : ShillClient) (path : ObjectPath) (name : String) (value : Any)
    (replies : Replies) : NoNewDevice s (s.onDevicePropertyChange path name value replies) := by
  unfold onDevicePropertyChange
  split
  · exact .refl s
  · split
    · exact .refl s
    · rename_i device hdevice
      have htrack : s.Tracks path := by simp [Tracks, hdevice]
      dsimp only
      split
      · exact .refl s
      · split
        · exact .refl s
        · split
          · exact (selectService_noNewDevice htrack _ _ _).trans (.of_devices rfl rfl)
          · exact selectService_noNewDevice htrack _ _ _

/-- An event about a device that is not tracked does nothing. -/
theorem onDevicePropertyChange_untracked {path : ObjectPath} (h : s.devices[path]? = none) (name : String)
    (value : Any) (replies : Replies) : s.onDevicePropertyChange path name value replies = s := by
  unfold onDevicePropertyChange
  split
  · rfl
  · rw [h]

/-- The events that report a device list. -/
def Event.listsDevices : Event → Bool
  | .ownerChange .. | .managerRegistration .. | .managerProperty .. => true
  | _ => false

theorem onDevicePropertyChangeRegistration_noNewDevice {path : ObjectPath} {success : Bool}
    (h : s.onDevicePropertyChangeRegistration path success replies = some t) : NoNewDevice s t := by
  unfold onDevicePropertyChangeRegistration at h
  split at h
  · cases h; exact .refl s
  · split_ifs at h
    split at h
    · cases h; exact .refl s
    · split at h
      · cases h; exact .refl s
      · cases h; exact onDevicePropertyChange_noNewDevice s _ _ _ _

theorem next_noNewDevice {e : Event} (he : e.listsDevices = false) (h : s.next e = some t) :
    NoNewDevice s t := by
  cases e with
  | connect c => cases h; exact .of_devices (connect_whitelist s c) (connect_sameNetwork s c).devices
  | addConnectionChangedCallback l => cases h; exact .of_devices rfl rfl
  | deviceRegistration path success replies => exact onDevicePropertyChangeRegistration_noNewDevice h
  | deviceProperty path name value replies => cases h; exact onDevicePropertyChange_noNewDevice s _ _ _ _
  | serviceRegistration path success replies reentry =>
    cases h; exact onServicePropertyChangeRegistration_noNewDevice s _ _ _ _
  | serviceProperty path name value reentry => cases h; exact onServicePropertyChange_noNewDevice s _ _ _ _
  | timeout service reentry =>
    simp only [next] at h
    split at h
    · cases h
      rw [connectToServiceError_eq]
      have hqueue : NoNewDevice s { s with timeouts := s.timeouts.erase service } := .of_devices rfl rfl
      split
      · exact hqueue
      · exact hqueue.trans (finish_noNewDevice _ _ _)
    · cases h
  | notify =>
    simp only [next, notifyConnectivityListeners] at h
    split at h
    · cases h
    · cases h; exact .of_devices rfl rfl
  | _ => cases he

/-- A reported device list adds monitored devices only. -/
theorem onManagerPropertyChange_onlyMonitored (hs : OnlyMonitored deviceWhitelist monitored s)
    (hr : replies.Agree deviceWhitelist monitored) (name : String) (value : Any) :
    OnlyMonitored deviceWhitelist monitored (s.onManagerPropertyChange name value replies) := by
  by_cases hname : name = shill.kDevicesProperty
  · subst hname
    have hloop := (loop_visible hr hr value.tryGetPaths 0 0 s.scanOf hs).2
    rw [onManagerPropertyChange_eq]
    dsimp only
    generalize (DeviceScan.loop replies 0 value.tryGetPaths s.scanOf).2 = r at hloop ⊢
    have hremove : NoNewDevice r.client (r.client.removeDevices r.devicePathsToRemove) := by
      refine ⟨rfl, fun path htrack => ?_⟩
      rw [Tracks, removeDevices_getElem?] at htrack
      split at htrack
      · exact absurd rfl htrack
      · exact htrack
    split
    · split
      · exact hloop.of_noNewDevice (hremove.trans (.of_devices rfl rfl))
      · exact hloop.of_noNewDevice hremove
    · exact hloop
  · unfold onManagerPropertyChange
    rw [if_pos hname]
    exact hs

theorem onManagerProperties_onlyMonitored (hs : OnlyMonitored deviceWhitelist monitored s)
    (hr : replies.Agree deviceWhitelist monitored) (h : s.onManagerProperties replies = some t) :
    OnlyMonitored deviceWhitelist monitored t := by
  unfold onManagerProperties at h
  split at h
  · cases h; exact hs
  · split at h
    · cases h
    · cases h; exact onManagerPropertyChange_onlyMonitored hs hr _ _

theorem reset_onlyMonitored (hs : s.deviceWhitelist = deviceWhitelist) :
    OnlyMonitored deviceWhitelist monitored s.reset := by
  refine ⟨hs, fun path htrack => absurd ?_ htrack⟩
  exact Std.ExtTreeMap.getElem?_empty

theorem next_onlyMonitored {e : Event} (hs : OnlyMonitored deviceWhitelist monitored s)
    (he : e.Agrees deviceWhitelist monitored) (h : s.next e = some t) :
    OnlyMonitored deviceWhitelist monitored t := by
  cases hlists : e.listsDevices with
  | false => exact hs.of_noNewDevice (next_noNewDevice hlists h)
  | true =>
    cases e with
    | ownerChange newOwner replies =>
      simp only [next, onShillServiceOwnerChange] at h
      split at h
      · cases h; exact reset_onlyMonitored hs.whitelist
      · exact onManagerProperties_onlyMonitored (reset_onlyMonitored hs.whitelist) he h
    | managerRegistration success replies =>
      simp only [next, onManagerPropertyChangeRegistration] at h
      split at h
      · cases h
      · exact onManagerProperties_onlyMonitored hs he h
    | managerProperty name value replies => cases h; exact onManagerPropertyChange_onlyMonitored hs he _ _
    | _ => cases hlists

/-! ## Noninterference -/

/-- An event that goes has done nothing. -/
theorem next_of_invisible {e : Event} (hs : OnlyMonitored deviceWhitelist monitored s)
    (he : e.visible monitored = none) (h : s.next e = some t) : t = s := by
  have hnone : ∀ path, monitored path = false → s.devices[path]? = none := by
    intro path hmon
    by_contra htrack
    rw [hs.devices path htrack] at hmon
    cases hmon
  cases e with
  | deviceProperty path name value replies =>
    have hmon : monitored path = false := by simpa [Event.visible] using he
    cases h
    exact onDevicePropertyChange_untracked (hnone path hmon) _ _ _
  | deviceRegistration path success replies =>
    have hmon : monitored path = false := by simpa [Event.visible] using he
    simp only [next, onDevicePropertyChangeRegistration, hnone path hmon] at h
    cases h
    rfl
  | _ => cases he

/-- What is left of an event does the same. -/
theorem next_visible {e e' : Event} (hs : OnlyMonitored deviceWhitelist monitored s)
    (he : e.Agrees deviceWhitelist monitored) (hv : e.visible monitored = some e') :
    s.next e' = s.next e := by
  cases e with
  | deviceProperty path name value replies =>
    simp only [Event.visible, Option.ite_none_right_eq_some, Option.some.injEq] at hv
    rw [← hv.2]
  | deviceRegistration path success replies =>
    simp only [Event.visible, Option.ite_none_right_eq_some, Option.some.injEq] at hv
    rw [← hv.2]
  | managerProperty name value replies =>
    cases hv
    by_cases hname : name = shill.kDevicesProperty
    · subst hname
      simp only [next, if_pos]
      exact congrArg some (onManagerPropertyChange_visible hs he he value)
    · simp only [next, if_neg hname]
  | managerRegistration success replies =>
    cases hv
    simp only [next, onManagerPropertyChangeRegistration]
    rw [onManagerProperties_visible hs he]
  | ownerChange newOwner replies =>
    cases hv
    simp only [next, onShillServiceOwnerChange, init]
    rw [onManagerProperties_visible (reset_onlyMonitored hs.whitelist) he]
  | _ => cases hv; rfl

/-- The client does not see what `visible` takes away. -/
theorem visible_simulation (deviceWhitelist : List String) (monitored : ObjectPath → Bool) :
    Simulation machine machine (Event.Agrees deviceWhitelist monitored) (Event.visible monitored)
      fun s t => t = s ∧ OnlyMonitored deviceWhitelist monitored s :=
  .of_unwinding (fun _ _ _ hs he h => next_onlyMonitored hs he h) (fun _ _ _ hs _ he h => next_of_invisible hs he h)
    fun _ _ _ hs he hv => next_visible hs he hv

/-- **Devices outside the whitelist cannot influence the client**: every run is in the same
state without them, after each of the events that are left. -/
theorem whitelist_noninterference {es : List Event} (hr : replies.Agree deviceWhitelist monitored)
    (hes : ∀ e ∈ es, e.Agrees deviceWhitelist monitored) (hs : create deviceWhitelist replies = some s)
    (h : machine.run s es = some t) :
    create deviceWhitelist (replies.visible monitored) = some s ∧
      machine.run s (es.filterMap (Event.visible monitored)) = some t := by
  have hreset : OnlyMonitored deviceWhitelist monitored (reset { deviceWhitelist }) := reset_onlyMonitored rfl
  constructor
  · rw [← hs]
    exact onManagerProperties_visible hreset hr
  · have hinit := onManagerProperties_onlyMonitored hreset hr hs
    obtain ⟨t', hrun, rfl, -⟩ := (visible_simulation deviceWhitelist monitored).run ⟨rfl, hinit⟩ hes h
    exact hrun

def wirelessDevice : ObjectPath := ⟨"/device/wlan0"⟩

/-- Shill tells the interfaces of its two devices. -/
def interfaceReplies : Replies :=
  { device := fun _ path => some fun name =>
      if name = shill.kInterfaceProperty then some (.string (if path = wirelessDevice then "wlan0" else "eth0"))
      else none }

/-- A client of the Wi-Fi device is told of both. -/
def interfaceRun : List Event :=
  [.managerProperty shill.kDevicesProperty (.paths [lanDevice, wirelessDevice]) interfaceReplies,
   .deviceProperty lanDevice shill.kSelectedServiceProperty (.path lanService) {}]

def interfaceClient : ShillClient := reset { deviceWhitelist := ["wlan0"] }

theorem interfaceReplies_agree : interfaceReplies.Agree ["wlan0"] (· == wirelessDevice) := by
  intro i path
  by_cases hpath : path = wirelessDevice
  · subst hpath
    rfl
  · have hne : (path == wirelessDevice) = false := by simp [hpath]
    simp [interfaceReplies, isMonitoredDevice, hpath, hne, shill.kInterfaceProperty, Any.tryGetString]

theorem whitelist_noninterference_test :
    create ["wlan0"] (interfaceReplies.visible (· == wirelessDevice)) = some interfaceClient ∧
      machine.run interfaceClient (interfaceRun.filterMap (Event.visible (· == wirelessDevice))) =
        some ((machine.run interfaceClient interfaceRun).get rfl) := by
  refine whitelist_noninterference interfaceReplies_agree ?_ rfl (Option.some_get _).symm
  intro e he
  simp only [interfaceRun, List.mem_cons, List.not_mem_nil, or_false] at he
  rcases he with rfl | rfl
  · exact interfaceReplies_agree
  · trivial

end ShillClient

end SystemWeaved
