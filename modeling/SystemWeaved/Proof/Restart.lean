import SystemWeaved.Lib.Learning
import SystemWeaved.Proof.DeviceStates
import SystemWeaved.Proof.Whitelist

/-!
# A restart of shill

Whatever a client has known, a new owner of shill's name makes it start over. It then learns
what shill publishes one answer or signal at a time, in any order, with connect attempts in
between.

* `Published`: the properties of shill's objects, and what a client should make of them.
* `Knows`: what the client knows is right, as far as it goes.
* `Hears`: what an event of such a shill does to the devices.
* `in_step_after_restart`: once all devices have reported their services, and these their
  states, the client is in step with shill.
-/

namespace SystemWeaved

/-- The properties that shill publishes: of its manager, its devices and its services. -/
structure Published where
  manager : VariantDictionary
  device : ObjectPath → VariantDictionary
  service : ObjectPath → VariantDictionary

namespace Published

variable (w : Published)

/-- The devices that shill has. -/
def devices : List ObjectPath := ((w.manager shill.kDevicesProperty).map Any.tryGetPaths).getD []

/-- The service that a device has selected. -/
def selected (path : ObjectPath) : Option ObjectPath :=
  ((w.device path shill.kSelectedServiceProperty).map Any.tryGetPath).filter fun servicePath =>
    servicePath.isValid && servicePath.value ≠ "/"

/-- The state of a service. -/
def state (servicePath : ObjectPath) : Option String := ShillClient.getStateForService (some (w.service servicePath))

/-- The network state of a device: that of its service, and offline without one. -/
def networkState (path : ObjectPath) : NetworkState := ShillClient.networkState ((w.selected path).bind w.state)

/-- The device is on the whitelist. -/
def monitored (deviceWhitelist : List String) (path : ObjectPath) : Bool :=
  ShillClient.isMonitoredDevice { deviceWhitelist } (some (w.device path))

/-- A client with the whitelist follows the device. -/
def Followed (deviceWhitelist : List String) (path : ObjectPath) : Prop :=
  path ∈ w.devices ∧ w.monitored deviceWhitelist path

/-- The manager and the devices answer what shill publishes. -/
def Answers (replies : Replies) : Prop :=
  replies.manager = some w.manager ∧ ∀ i path, replies.device i path = some (w.device path)

/-- What is said about the device is what shill publishes. -/
def Reports (path : ObjectPath) (name : String) (value : Any) (replies : Replies) : Prop :=
  w.device path name = some value ∧ replies.service = some (w.service value.tryGetPath)

open ShillClient in
/-- All that the event says about shill is what shill publishes, and shill keeps its name. -/
def Says : Event → Prop
  | .ownerChange _ _ => False
  | .managerRegistration _ replies => w.Answers replies
  | .managerProperty name value replies => w.manager name = some value ∧ w.Answers replies
  | .deviceRegistration path _ replies => replies.device 0 path = some (w.device path) ∧
      ∀ value, w.device path shill.kSelectedServiceProperty = some value →
        w.Reports path shill.kSelectedServiceProperty value replies
  | .deviceProperty path name value replies => w.Reports path name value replies
  | .serviceRegistration servicePath _ replies _ => replies.service = some (w.service servicePath)
  | .serviceProperty servicePath name value _ => w.service servicePath name = some value
  | .connect _ | .addConnectionChangedCallback _ | .timeout _ _ | .notify => True

theorem selected_eq_some {path servicePath : ObjectPath} : w.selected path = some servicePath ↔
    ∃ value, w.device path shill.kSelectedServiceProperty = some value ∧ servicePath = value.tryGetPath ∧
      servicePath.isValid ∧ servicePath.value ≠ "/" := by
  unfold selected
  rw [Option.filter_eq_some_iff, Option.map_eq_some_iff]
  simp only [Bool.and_eq_true, decide_eq_true_eq]
  constructor
  · rintro ⟨⟨value, hvalue, rfl⟩, hvalid, hroot⟩
    exact ⟨value, hvalue, rfl, hvalid, hroot⟩
  · rintro ⟨value, hvalue, rfl, hvalid, hroot⟩
    exact ⟨⟨value, hvalue, rfl⟩, hvalid, hroot⟩

/-- The selection, from the property's value. -/
theorem selected_iff {path servicePath : ObjectPath} {value : Any}
    (hvalue : w.device path shill.kSelectedServiceProperty = some value) :
    w.selected path = some servicePath ↔
      servicePath = value.tryGetPath ∧ servicePath.isValid ∧ servicePath.value ≠ "/" := by
  rw [selected_eq_some]
  constructor
  · rintro ⟨value', hvalue', h⟩
    obtain rfl := Option.some_inj.1 (hvalue.symm.trans hvalue')
    exact h
  · exact fun h => ⟨value, hvalue, h⟩

theorem networkState_of_selected {path servicePath : ObjectPath} (h : w.selected path = some servicePath) :
    w.networkState path = ShillClient.networkState (w.state servicePath) := by
  rw [networkState, h]
  rfl

end Published

namespace ShillClient

variable {w : Published} {s t : ShillClient} {deviceWhitelist : List String} {path servicePath : ObjectPath}
  {device : DeviceState} {value : Any} {replies : Replies} {e : Event}

/-- **What is known of the device is right**: it is new, or has its service, which has its state
or is not known to have one. -/
inductive RightDevice (w : Published) (path : ObjectPath) : DeviceState → Prop
  | new : RightDevice w path {}
  | selected {service : ServiceProxy} {state : NetworkState} (hsel : w.selected path = some service.path)
      (hstate : state = .offline ∨ state = w.networkState path) : RightDevice w path ⟨some service, state⟩

/-- **What the client knows is right**, and it follows the devices it should. -/
structure Knows (w : Published) (deviceWhitelist : List String) (s : ShillClient) : Prop where
  whitelist : s.deviceWhitelist = deviceWhitelist
  tracked : ∀ path, s.Tracks path ↔ w.Followed deviceWhitelist path
  right : ∀ (path : ObjectPath) (device : DeviceState), s.devices[path]? = some device → RightDevice w path device

/-- The device is known to have selected its service. -/
def KnowsService (path : ObjectPath) (s : ShillClient) : Prop :=
  ∃ device, s.devices[path]? = some device ∧ device.selectedService.isSome

/-- A device of the service has the service's state. -/
def KnowsState (w : Published) (servicePath : ObjectPath) (s : ShillClient) : Prop :=
  ∃ (path : ObjectPath) (device : DeviceState), s.devices[path]? = some device ∧ device.selects servicePath ∧
    device.serviceState = networkState (w.state servicePath)

theorem RightDevice.selected_eq (h : RightDevice w path device) {service : ServiceProxy}
    (hservice : device.selectedService = some service) : w.selected path = some service.path := by
  cases h with
  | new => cases hservice
  | selected hsel _ =>
    cases hservice
    exact hsel

theorem RightDevice.new_of_none (h : RightDevice w path device) (hnone : device.selectedService = none) :
    device = {} := by
  cases h with
  | new => rfl
  | selected hsel _ => cases hnone

theorem Knows.idle (hs : Knows w deviceWhitelist s) : Idle s.devices := by
  intro path device hdevice hnone
  rw [(hs.right path device hdevice).new_of_none hnone]

/-! ## What an event does to the devices -/

/-- What is known of a device stays known, and is right. -/
structure LearnsMore (w : Published) (path : ObjectPath) (device device' : DeviceState) : Prop where
  right : RightDevice w path device'
  service : device.selectedService.isSome → device'.selectedService = device.selectedService
  state : device.selectedService.isSome → device.serviceState = w.networkState path →
    device'.serviceState = w.networkState path

/-- **The devices stay, and more is known of them.** -/
def Hears (w : Published) (m m' : PathMap DeviceState) : Prop :=
  ∀ path : ObjectPath, Option.Rel (LearnsMore w path) m[path]? m'[path]?

theorem RightDevice.learns_same (h : RightDevice w path device) : LearnsMore w path device device :=
  ⟨h, fun _ => rfl, fun _ hstate => hstate⟩

/-- Nothing has been known of a new device. -/
theorem RightDevice.learned (h : RightDevice w path device) : LearnsMore w path {} device where
  right := h
  service hsome := by cases hsome
  state hsome := by cases hsome

theorem Knows.hears_same {m : PathMap DeviceState} (hs : Knows w deviceWhitelist s)
    (h : ∀ path : ObjectPath, m[path]? = s.devices[path]?) : Hears w s.devices m := by
  intro path
  rw [h path]
  cases hdevice : s.devices[path]? with
  | none => exact .none
  | some device => exact .some (hs.right path device hdevice).learns_same

theorem Knows.hears_insert {device' : DeviceState} (hs : Knows w deviceWhitelist s)
    (hdevice : s.devices[path]? = some device) (hmore : LearnsMore w path device device') :
    Hears w s.devices (s.devices.insert path device') := by
  intro other
  rw [PathMap.getElem?_insert]
  split
  · rename_i heq
    subst heq
    rw [hdevice]
    exact .some hmore
  · exact hs.hears_same (fun _ => rfl) other

namespace Hears

variable {m m' : PathMap DeviceState}

theorem learns (h : Hears w m m') (hdevice : m[path]? = some device) :
    ∃ device', m'[path]? = some device' ∧ LearnsMore w path device device' := by
  have hrel := h path
  rw [hdevice] at hrel
  generalize m'[path]? = found at hrel
  cases hrel with
  | some hmore => exact ⟨_, rfl, hmore⟩

theorem none_iff (h : Hears w m m') (path : ObjectPath) : m'[path]? = none ↔ m[path]? = none := by
  have hrel := h path
  generalize m[path]? = old, m'[path]? = new at hrel
  cases hrel with
  | some _ => simp
  | none => simp

theorem right (h : Hears w m m') (hdevice : m'[path]? = some device) : RightDevice w path device := by
  have hrel := h path
  rw [hdevice] at hrel
  generalize m[path]? = old at hrel
  cases hrel with
  | some hmore => exact hmore.right

/-- What the client knows stays right. -/
theorem knows (h : Hears w s.devices t.devices) (hs : Knows w deviceWhitelist s)
    (hwhite : t.deviceWhitelist = deviceWhitelist) : Knows w deviceWhitelist t where
  whitelist := hwhite
  tracked path := (not_congr (h.none_iff path)).trans (hs.tracked path)
  right _ _ := h.right

/-- A service that is known stays known. -/
theorem knowsService (h : Hears w s.devices t.devices) (hs : KnowsService path s) : KnowsService path t := by
  obtain ⟨device, hdevice, hsome⟩ := hs
  obtain ⟨device', hdevice', hmore⟩ := h.learns hdevice
  refine ⟨device', hdevice', ?_⟩
  rw [hmore.service hsome]
  exact hsome

/-- So does its state. -/
theorem knowsState (h : Hears w s.devices t.devices) (hs : Knows w deviceWhitelist s)
    (hstate : KnowsState w servicePath s) : KnowsState w servicePath t := by
  obtain ⟨path, device, hdevice, hsel, hstate⟩ := hstate
  obtain ⟨id, hid⟩ := (device.selects_iff servicePath).1 hsel
  obtain ⟨device', hdevice', hmore⟩ := h.learns hdevice
  have hsome : device.selectedService.isSome := by rw [hid]; rfl
  have hnetwork : w.networkState path = networkState (w.state servicePath) :=
    w.networkState_of_selected ((hs.right path device hdevice).selected_eq hid)
  refine ⟨path, device', hdevice', ?_, ?_⟩
  · rw [DeviceState.selects_iff, hmore.service hsome]
    exact ⟨id, hid⟩
  · rw [← hnetwork]
    exact hmore.state hsome (hstate.trans hnetwork.symm)

end Hears

/-! ### States -/

/-- The first device of the service gets its state. -/
theorem hears_state (hs : Knows w deviceWhitelist s) {state : String} (hstate : w.state servicePath = some state) :
    Hears w s.devices (s.onStateChangeForSelectedService servicePath state).devices := by
  unfold onStateChangeForSelectedService
  cases hfirst : s.deviceSelecting servicePath with
  | none => exact hs.hears_same fun _ => rfl
  | some first =>
    obtain ⟨path, device⟩ := first
    obtain ⟨hdevice, hsel⟩ := deviceSelecting_spec hfirst
    obtain ⟨id, hid⟩ := (device.selects_iff servicePath).1 hsel
    have hselected := (hs.right path device hdevice).selected_eq hid
    have hnetwork : shillServiceStateToNetworkState state = w.networkState path := by
      rw [w.networkState_of_selected hselected, hstate]
      rfl
    refine hs.hears_insert hdevice ⟨?_, fun _ => rfl, fun _ _ => hnetwork⟩
    rw [hid]
    exact .selected hselected (.inr hnetwork)

/-- A signal of a service. -/
theorem hears_serviceProperty (hs : Knows w deviceWhitelist s) {name : String}
    (hvalue : w.service servicePath name = some value) (reentry : List ConnectCall) :
    Hears w s.devices (s.onServicePropertyChange servicePath name value reentry).devices := by
  rw [onServicePropertyChange_devices]
  split
  · rename_i h
    obtain ⟨rfl, hne⟩ := h
    exact hears_state hs (by simp [Published.state, getStateForService, hvalue, hne])
  · exact hs.hears_same fun _ => rfl

/-- The properties read when the signals of a service have been registered. -/
theorem hears_serviceRegistration (hs : Knows w deviceWhitelist s)
    (hreply : replies.service = some (w.service servicePath)) (success : Bool) (reentry : List ConnectCall) :
    Hears w s.devices (s.onServicePropertyChangeRegistration servicePath success replies reentry).devices := by
  have hcases := registration_cases s servicePath success replies reentry
  generalize s.onServicePropertyChangeRegistration servicePath success replies reentry = u at hcases ⊢
  cases hcases with
  | failed hconn => exact hs.hears_same fun _ => rfl
  | ignored => exact hs.hears_same fun _ => rfl
  | replayed hprops =>
    obtain rfl := Option.some_inj.1 (hreply.symm.trans hprops)
    rw [replayProperty_devices_of_ne _ _ _ _ (by decide +kernel),
      replayProperty_devices_of_ne _ _ _ _ (by decide +kernel)]
    unfold replayProperty
    cases hvalue : w.service servicePath shill.kStateProperty with
    | none => exact hs.hears_same fun _ => rfl
    | some value => exact hears_serviceProperty hs hvalue reentry

/-! ### Selections -/

/-- A new device takes the service it reports. -/
theorem hears_selectService (hs : Knows w deviceWhitelist s) (hdevice : s.devices[path]? = some {})
    (hreport : w.Reports path shill.kSelectedServiceProperty value replies) (hvalid : value.tryGetPath.isValid) :
    Hears w s.devices (s.selectService path {} value.tryGetPath replies).devices ∧
      (w.selected path ≠ none → KnowsService path (s.selectService path {} value.tryGetPath replies)) := by
  obtain ⟨hvalue, hreply⟩ := hreport
  set servicePath := value.tryGetPath with hservicePath
  have hdevices := @selectService_devices s path {} servicePath replies rfl rfl
  have hknows : ∀ {service : ServiceProxy} {state : NetworkState},
      (s.selectService path {} servicePath replies).devices = s.devices.insert path ⟨some service, state⟩ →
        KnowsService path (s.selectService path {} servicePath replies) := by
    intro service state h
    exact ⟨⟨some service, state⟩, by rw [h, PathMap.getElem?_insert, if_pos rfl], rfl⟩
  by_cases hroot : servicePath.value = "/"
  · -- it reports that it has none
    rw [if_pos hroot] at hdevices
    refine ⟨?_, fun hsel => ?_⟩
    · rw [hdevices]
      exact hs.hears_insert hdevice RightDevice.new.learned
    · obtain ⟨selected, hselected⟩ := Option.ne_none_iff_exists'.1 hsel
      obtain ⟨rfl, -, hne⟩ := (w.selected_iff hvalue).1 hselected
      exact absurd hroot hne
  · have hselected : w.selected path = some servicePath :=
      (w.selected_iff hvalue).2 ⟨hservicePath, hvalid, hroot⟩
    rw [if_neg hroot] at hdevices
    split at hdevices
    · rename_i hconn
      obtain ⟨id, hid⟩ := (isConnecting_iff s servicePath).1 hconn
      have hstate : networkState (getStateForService replies.service) = w.networkState path := by
        rw [w.networkState_of_selected hselected, hreply]
        rfl
      rw [hid, hstate] at hdevices
      refine ⟨?_, fun _ => hknows hdevices⟩
      rw [hdevices]
      exact hs.hears_insert hdevice (RightDevice.selected hselected (.inr rfl)).learned
    · refine ⟨?_, fun _ => hknows hdevices⟩
      rw [hdevices]
      exact hs.hears_insert hdevice (RightDevice.selected hselected (.inl rfl)).learned

/-- A device takes the service it reports, unless it has it already. -/
theorem hears_report (hs : Knows w deviceWhitelist s)
    (hreport : w.Reports path shill.kSelectedServiceProperty value replies) :
    Hears w s.devices (s.onDevicePropertyChange path shill.kSelectedServiceProperty value replies).devices ∧
      (s.Tracks path → w.selected path ≠ none →
        KnowsService path (s.onDevicePropertyChange path shill.kSelectedServiceProperty value replies)) := by
  have hvalue := hreport.1
  have hsame : Hears w s.devices s.devices := hs.hears_same fun _ => rfl
  unfold onDevicePropertyChange
  rw [if_neg (by simp)]
  cases hdevice : s.devices[path]? with
  | none => exact ⟨hsame, fun htracks => absurd hdevice htracks⟩
  | some device =>
    dsimp only
    split
    · rename_i hinvalid
      refine ⟨hsame, fun _ hsel => ?_⟩
      obtain ⟨selected, hselected⟩ := Option.ne_none_iff_exists'.1 hsel
      obtain ⟨rfl, hvalid, -⟩ := (w.selected_iff hvalue).1 hselected
      rw [hvalid] at hinvalid
      cases hinvalid
    · rename_i hvalid
      cases hs.right path device hdevice with
      | new =>
        obtain ⟨hhears, hknows⟩ := hears_selectService hs hdevice hreport (by simpa using hvalid)
        rw [if_neg (by simp)]
        simp only [Option.isSome_none, Bool.false_eq_true, if_false, or_false]
        split
        · exact ⟨hhears, fun _ => hknows⟩
        · exact ⟨hhears, fun _ => hknows⟩
      | @selected service state hsel hstate =>
        -- it has this service
        obtain ⟨hpath, -⟩ := (w.selected_iff hvalue).1 hsel
        rw [if_pos (by simp [hpath])]
        exact ⟨hsame, fun _ _ => ⟨_, hdevice, rfl⟩⟩

/-! ### The device list -/

theorem answers_agree (hr : w.Answers replies) (deviceWhitelist : List String) :
    replies.Agree deviceWhitelist (w.monitored deviceWhitelist) := by
  intro i path
  rw [hr.2]
  rfl

theorem Knows.onlyMonitored (hs : Knows w deviceWhitelist s) :
    OnlyMonitored deviceWhitelist (w.monitored deviceWhitelist) s :=
  ⟨hs.whitelist, fun path htracks => ((hs.tracked path).1 htracks).2⟩

/-- The list makes the client follow the devices it should. -/
theorem listed_iff (hwhite : s.deviceWhitelist = deviceWhitelist) (hw : ∀ path ∈ w.devices, path.isValid)
    (hr : w.Answers replies) (htracked : ∀ path, s.Tracks path → w.Followed deviceWhitelist path)
    (path : ObjectPath) : s.Listed w.devices replies path ↔ w.Followed deviceWhitelist path := by
  subst hwhite
  constructor
  · rintro ⟨-, -, htracks | ⟨j, hj, hmon⟩⟩
    · exact htracked path htracks
    · rw [hr.2] at hmon
      exact ⟨List.mem_of_getElem? hj, hmon⟩
  · rintro ⟨hmem, hmon⟩
    obtain ⟨j, hj⟩ := List.mem_iff_getElem?.1 hmem
    refine ⟨hmem, hw path hmem, .inr ⟨j, hj, ?_⟩⟩
    rw [hr.2]
    exact hmon

/-- What the client knows when it has the list. -/
theorem knows_deviceList (hw : ∀ path ∈ w.devices, path.isValid) (hr : w.Answers replies)
    (hvalue : w.manager shill.kDevicesProperty = some value)
    (hs : OnlyMonitored deviceWhitelist (w.monitored deviceWhitelist) s)
    (htracked : ∀ path, s.Tracks path → w.Followed deviceWhitelist path)
    (hright : ∀ (path : ObjectPath) (device : DeviceState), s.devices[path]? = some device →
      RightDevice w path device) :
    Knows w deviceWhitelist (s.onManagerPropertyChange shill.kDevicesProperty value replies) ∧
      ∀ (path : ObjectPath) (device : DeviceState), s.devices[path]? = some device →
        (s.onManagerPropertyChange shill.kDevicesProperty value replies).devices[path]? = some device := by
  have hdevices : value.tryGetPaths = w.devices := by rw [Published.devices, hvalue]; rfl
  have hlist := reconciled_of_valid s value replies (by rw [hdevices]; exact hw)
  have hwhite := onManagerPropertyChange_onlyMonitored hs (answers_agree hr deviceWhitelist)
    shill.kDevicesProperty value
  rw [hdevices] at hlist
  generalize s.onManagerPropertyChange shill.kDevicesProperty value replies = t at hlist hwhite ⊢
  have htracks : ∀ path, t.Tracks path ↔ w.Followed deviceWhitelist path := fun path =>
    (hlist.keys path).trans (listed_iff hs.whitelist hw hr htracked path)
  have hkept : ∀ (path : ObjectPath) (device : DeviceState), s.devices[path]? = some device →
      t.devices[path]? = some device := by
    intro path device hdevice
    refine hlist.kept path device hdevice ((htracks path).2 (htracked path ?_))
    exact Option.ne_none_iff_exists'.2 ⟨device, hdevice⟩
  refine ⟨⟨hwhite.whitelist, htracks, fun path device hdevice => ?_⟩, hkept⟩
  cases hold : s.devices[path]? with
  | some old =>
    obtain rfl := Option.some_inj.1 ((hkept path old hold).symm.trans hdevice)
    exact hright path old hold
  | none =>
    have hadded := hlist.added path (not_not.2 hold) (Option.ne_none_iff_exists'.2 ⟨device, hdevice⟩)
    obtain rfl := Option.some_inj.1 (hadded.symm.trans hdevice)
    exact .new

/-- The list again changes nothing. -/
theorem hears_deviceList (hw : ∀ path ∈ w.devices, path.isValid) (hs : Knows w deviceWhitelist s)
    (hr : w.Answers replies) (hvalue : w.manager shill.kDevicesProperty = some value) :
    Hears w s.devices (s.onManagerPropertyChange shill.kDevicesProperty value replies).devices := by
  obtain ⟨ht, hkept⟩ := knows_deviceList hw hr hvalue hs.onlyMonitored (fun path => (hs.tracked path).1) hs.right
  generalize s.onManagerPropertyChange shill.kDevicesProperty value replies = t at ht hkept ⊢
  refine hs.hears_same fun path => ?_
  cases hdevice : s.devices[path]? with
  | some device => exact hkept path device hdevice
  | none =>
    have hnot : ¬t.Tracks path := by
      rw [ht.tracked, ← hs.tracked]
      exact not_not.2 hdevice
    exact not_not.1 hnot

theorem hears_managerProperties (hw : ∀ path ∈ w.devices, path.isValid) (hs : Knows w deviceWhitelist s)
    (hr : w.Answers replies) (h : s.onManagerProperties replies = some t) : Hears w s.devices t.devices := by
  unfold onManagerProperties at h
  rw [hr.1] at h
  dsimp only at h
  split at h
  · cases h
  · rename_i value hvalue
    cases h
    exact hears_deviceList hw hs hr hvalue

/-! ### All events -/

theorem says_agrees (he : w.Says e) (deviceWhitelist : List String) :
    e.Agrees deviceWhitelist (w.monitored deviceWhitelist) := by
  cases e with
  | ownerChange newOwner replies => exact he.elim
  | managerRegistration success replies => exact answers_agree he deviceWhitelist
  | managerProperty name value replies => exact answers_agree he.2 deviceWhitelist
  | _ => trivial

/-- **Every event of such a shill adds to what is known of the devices.** -/
theorem next_hears (hw : ∀ path ∈ w.devices, path.isValid) (hs : Knows w deviceWhitelist s) (he : w.Says e)
    (h : s.next e = some t) : Hears w s.devices t.devices := by
  cases e with
  | connect c => cases h; exact hs.hears_same fun _ => by rw [(connect_sameNetwork s c).devices]
  | addConnectionChangedCallback l => cases h; exact hs.hears_same fun _ => rfl
  | ownerChange newOwner replies => exact he.elim
  | managerRegistration success replies =>
    simp only [next, onManagerPropertyChangeRegistration] at h
    split at h
    · cases h
    · exact hears_managerProperties hw hs he h
  | managerProperty name value replies =>
    cases h
    by_cases hname : name = shill.kDevicesProperty
    · subst hname
      exact hears_deviceList hw hs he.2 he.1
    · refine hs.hears_same fun _ => ?_
      simp [onManagerPropertyChange, hname]
  | deviceRegistration path success replies =>
    simp only [next, onDevicePropertyChangeRegistration] at h
    obtain ⟨hreply, hreport⟩ := he
    split at h
    · cases h; exact hs.hears_same fun _ => rfl
    · split at h
      · cases h
      · rw [hreply] at h
        dsimp only at h
        split at h
        · cases h; exact hs.hears_same fun _ => rfl
        · rename_i value hvalue
          cases h
          exact (hears_report hs (hreport value hvalue)).1
  | deviceProperty path name value replies =>
    cases h
    by_cases hname : name = shill.kSelectedServiceProperty
    · subst hname
      exact (hears_report hs he).1
    · refine hs.hears_same fun _ => ?_
      simp [onDevicePropertyChange, hname]
  | serviceRegistration path success replies reentry =>
    cases h; exact hears_serviceRegistration hs he success reentry
  | serviceProperty path name value reentry => cases h; exact hears_serviceProperty hs he reentry
  | timeout service reentry =>
    simp only [next] at h
    split at h
    · cases h
      rw [connectToServiceError_eq]
      refine hs.hears_same fun _ => ?_
      split
      · rfl
      · rw [(finish_sameNetwork _ _ _).devices]
    · cases h
  | notify => exact hs.hears_same fun _ => by rw [(notifyConnectivityListeners_devices h).1]

/-! ## What a run learns -/

/-- The device tells the client its service. -/
def Event.ReportsService (path : ObjectPath) : Event → Prop
  | .deviceRegistration devicePath success _ => devicePath = path ∧ success = true
  | .deviceProperty devicePath name _ _ => devicePath = path ∧ name = shill.kSelectedServiceProperty
  | _ => False

/-- The service tells the client its state. -/
def Event.ReportsState (servicePath : ObjectPath) : Event → Prop
  | .serviceRegistration path success _ _ => path = servicePath ∧ success = true
  | .serviceProperty path name _ _ => path = servicePath ∧ name = shill.kStateProperty
  | _ => False

theorem keeps_knows (hw : ∀ path ∈ w.devices, path.isValid) :
    machine.Keeps w.Says (Knows w deviceWhitelist) := by
  intro s e t he h hs
  have hwhite := next_onlyMonitored hs.onlyMonitored (says_agrees he deviceWhitelist) h
  exact (next_hears hw hs he h).knows hs hwhite.whitelist

theorem keeps_knowsService (hw : ∀ path ∈ w.devices, path.isValid) (path : ObjectPath) :
    machine.Keeps w.Says fun s => Knows w deviceWhitelist s ∧ KnowsService path s := by
  rintro s e t he h ⟨hs, hservice⟩
  exact ⟨keeps_knows hw he h hs, (next_hears hw hs he h).knowsService hservice⟩

theorem keeps_knowsState (hw : ∀ path ∈ w.devices, path.isValid) (servicePath : ObjectPath) :
    machine.Keeps w.Says fun s => Knows w deviceWhitelist s ∧ KnowsState w servicePath s := by
  rintro s e t he h ⟨hs, hstate⟩
  exact ⟨keeps_knows hw he h hs, (next_hears hw hs he h).knowsState hs hstate⟩

/-- From its report the client knows the service of a device that it follows. -/
theorem teaches_service (hw : ∀ path ∈ w.devices, path.isValid) (hfollowed : w.Followed deviceWhitelist path)
    (hsel : w.selected path ≠ none) :
    machine.Teaches w.Says (Event.ReportsService path) (Knows w deviceWhitelist)
      fun s => Knows w deviceWhitelist s ∧ KnowsService path s := by
  intro s e t he hreports h hs
  refine ⟨keeps_knows hw he h hs, ?_⟩
  have htracks : s.Tracks path := (hs.tracked path).2 hfollowed
  obtain ⟨servicePath, hservicePath⟩ := Option.ne_none_iff_exists'.1 hsel
  obtain ⟨value, hvalue, -⟩ := w.selected_eq_some.1 hservicePath
  cases e with
  | deviceRegistration devicePath success replies =>
    obtain ⟨rfl, rfl⟩ := hreports
    obtain ⟨hreply, hreport⟩ := he
    obtain ⟨device, hdevice⟩ := Option.ne_none_iff_exists'.1 htracks
    simp only [machine, next, onDevicePropertyChangeRegistration, hdevice, hreply, hvalue, Bool.not_true] at h
    cases h
    exact (hears_report hs (hreport value hvalue)).2 htracks hsel
  | deviceProperty devicePath name value' replies =>
    obtain ⟨rfl, rfl⟩ := hreports
    cases h
    exact (hears_report hs he).2 htracks hsel
  | _ => exact hreports.elim

/-- A state value reaches a device of the service. -/
theorem knowsState_of_state {state : String} (hstate : w.state servicePath = some state)
    (hdevice : s.devices[path]? = some device) (hsel : device.selects servicePath)
    (h : t.devices = (s.onStateChangeForSelectedService servicePath state).devices) :
    KnowsState w servicePath t := by
  unfold onStateChangeForSelectedService at h
  cases hfirst : s.deviceSelecting servicePath with
  | none =>
    rw [deviceSelecting_none hfirst hdevice] at hsel
    cases hsel
  | some first =>
    obtain ⟨path', device'⟩ := first
    obtain ⟨-, hsel'⟩ := deviceSelecting_spec hfirst
    rw [hfirst] at h
    refine ⟨path', { device' with serviceState := shillServiceStateToNetworkState state }, ?_, hsel', ?_⟩
    · rw [h]
      exact (PathMap.getElem?_insert _ _ _ _).trans (if_pos rfl)
    · rw [hstate]
      rfl

/-- The state value that a service reports is processed if a device has selected it. -/
theorem processed_of_reportsState {state : String} (hstate : w.state servicePath = some state)
    (hdevice : s.devices[path]? = some device) (hsel : device.selects servicePath) (he : w.Says e)
    (hreports : e.ReportsState servicePath) :
    e.processed s = some (servicePath, state) ∧ e.selection = none := by
  cases e with
  | serviceRegistration servicePath' success replies reentry =>
    obtain ⟨rfl, rfl⟩ := hreports
    have hfirst : (s.deviceSelecting servicePath').isSome := by
      rw [Option.isSome_iff_ne_none]
      intro hnone
      rw [deviceSelecting_none hnone hdevice] at hsel
      cases hsel
    have hread : getStateForService replies.service = some state := by
      rw [← hstate, show replies.service = _ from he]
      rfl
    refine ⟨?_, rfl⟩
    rw [Event.processed, hfirst, Bool.or_true, if_pos rfl, hread]
    rfl
  | serviceProperty servicePath' name value reentry =>
    obtain ⟨rfl, rfl⟩ := hreports
    have hvalue : w.service servicePath' shill.kStateProperty = some value := he
    simp only [Published.state, getStateForService, hvalue] at hstate
    split at hstate
    · cases hstate
    · rename_i hne
      obtain rfl := Option.some_inj.1 hstate
      exact ⟨by simp [Event.processed, hne], rfl⟩
  | _ => exact hreports.elim

/-- From its report the client knows the state of a service that a device has selected. -/
theorem teaches_state (hw : ∀ path ∈ w.devices, path.isValid) (hsel : w.selected path = some servicePath) :
    machine.Teaches w.Says (Event.ReportsState servicePath)
      (fun s => Knows w deviceWhitelist s ∧ KnowsService path s)
      fun s => Knows w deviceWhitelist s ∧ KnowsState w servicePath s := by
  rintro s e t he hreports h ⟨hs, device, hdevice, hsome⟩
  refine ⟨keeps_knows hw he h hs, ?_⟩
  have hright := hs.right path device hdevice
  obtain ⟨service, hservice⟩ := Option.isSome_iff_exists.1 hsome
  have hpath : service.path = servicePath := Option.some_inj.1 ((hright.selected_eq hservice).symm.trans hsel)
  have hselects : device.selects servicePath :=
    (device.selects_iff servicePath).2 ⟨service.id, by rw [hservice, ← hpath]⟩
  cases hstate : w.state servicePath with
  | none =>
    -- a service without a state is offline, as its device has been from the start
    refine (next_hears hw hs he h).knowsState hs ⟨path, device, hdevice, hselects, ?_⟩
    rw [hstate]
    cases hright with
    | new => rfl
    | selected _ hnetwork =>
      rw [w.networkState_of_selected hsel, hstate] at hnetwork
      exact hnetwork.elim id id
  | some state =>
    obtain ⟨hprocessed, hselection⟩ := processed_of_reportsState hstate hdevice hselects he hreports
    refine knowsState_of_state hstate hdevice hselects ?_
    cases next_deviceStep hs.idle h with
    | quiet hnone _ _ =>
      rw [hprocessed] at hnone
      cases hnone
    | state servicePath' state' hprocessed' _ hdevices =>
      rw [hprocessed] at hprocessed'
      cases hprocessed'
      exact hdevices
    | selected path' service' hselects' _ _ _ =>
      rw [selects_of_selection_none hselection] at hselects'
      cases hselects'

/-! ## In step -/

/-- The device has told its service, and later the service its state. -/
def Reported (es : List Event) (path servicePath : ObjectPath) : Prop :=
  ∃ before after, es = before ++ after ∧ (∃ e ∈ before, e.ReportsService path) ∧
    ∃ e ∈ after, e.ReportsState servicePath

/-- **The client is in step with shill.** -/
structure InStep (w : Published) (deviceWhitelist : List String) (t : ShillClient) : Prop where
  devices : ∀ path, t.Tracks path ↔ w.Followed deviceWhitelist path
  services : ∀ (path : ObjectPath) (device : DeviceState), t.devices[path]? = some device →
    device.selectedService.map ServiceProxy.path = w.selected path
  /-- A device that shares its service with another one may be taken to be offline. -/
  states : ∀ (path : ObjectPath) (device : DeviceState), t.devices[path]? = some device →
    (∀ other, w.Followed deviceWhitelist other → w.selected other = w.selected path → other = path) →
      device.serviceState = w.networkState path
  connectivity : IsGreatest {state | state = .offline ∨ ∃ path, w.Followed deviceWhitelist path ∧
    w.networkState path = state} t.getConnectionState

/-- What the client knows when all services and states are known to it. -/
theorem inStep_of_knows (ht : Knows w deviceWhitelist t) (hcached : Cached t)
    (hservices : ∀ path, w.Followed deviceWhitelist path → w.selected path ≠ none → KnowsService path t)
    (hstates : ∀ path servicePath, w.Followed deviceWhitelist path → w.selected path = some servicePath →
      KnowsState w servicePath t) : InStep w deviceWhitelist t := by
  have hfollowed : ∀ (path : ObjectPath) (device : DeviceState), t.devices[path]? = some device →
      w.Followed deviceWhitelist path := fun path device hdevice =>
    (ht.tracked path).1 (Option.ne_none_iff_exists'.2 ⟨device, hdevice⟩)
  -- the state of a device's service is the state of a device that has selected it
  have hknown : ∀ path servicePath, w.Followed deviceWhitelist path → w.selected path = some servicePath →
      ∃ (other : ObjectPath) (device : DeviceState), t.devices[other]? = some device ∧
        w.selected other = some servicePath ∧ device.serviceState = w.networkState path := by
    intro path servicePath hpath hsel
    obtain ⟨other, device, hdevice, hselects, hstate⟩ := hstates path servicePath hpath hsel
    obtain ⟨id, hid⟩ := (device.selects_iff servicePath).1 hselects
    refine ⟨other, device, hdevice, (ht.right other device hdevice).selected_eq hid, ?_⟩
    rw [w.networkState_of_selected hsel, hstate]
  -- a device that is still new has no service
  have hnew : ∀ path : ObjectPath, t.devices[path]? = some {} → w.selected path = none := by
    intro path hdevice
    by_contra hsel
    obtain ⟨device, hdevice', hsome⟩ := hservices path (hfollowed path _ hdevice) hsel
    rw [hdevice] at hdevice'
    cases hdevice'
    cases hsome
  constructor
  · exact ht.tracked
  · intro path device hdevice
    cases ht.right path device hdevice with
    | new => exact (hnew path hdevice).symm
    | selected hsel _ => exact hsel.symm
  · intro path device hdevice halone
    cases ht.right path device hdevice with
    | new =>
      rw [Published.networkState, hnew path hdevice]
      rfl
    | selected hsel _ =>
      obtain ⟨other, device', hdevice', hother, hstate⟩ := hknown path _ (hfollowed path _ hdevice) hsel
      obtain rfl := halone other (hfollowed other device' hdevice') (hother.trans hsel.symm)
      rw [hdevice] at hdevice'
      cases hdevice'
      exact hstate
  · obtain ⟨hmem, hub⟩ := hcached.best
    constructor
    · rcases hmem with hoff | ⟨path, device, hdevice, hstate⟩
      · exact .inl hoff
      · rw [← hstate]
        cases ht.right path device hdevice with
        | new => exact .inl rfl
        | selected _ hnetwork =>
          exact hnetwork.imp id fun heq => ⟨path, hfollowed path _ hdevice, heq.symm⟩
    · rintro state (rfl | ⟨path, hpath, rfl⟩)
      · exact bot_le
      · cases hsel : w.selected path with
        | none =>
          rw [Published.networkState, hsel]
          exact bot_le
        | some servicePath =>
          obtain ⟨other, device, hdevice, -, hstate⟩ := hknown path servicePath hpath hsel
          exact hub (.inr ⟨other, device, hdevice, hstate⟩)

theorem keeps_cached (w : Published) : machine.Keeps w.Says Cached := by
  intro s e t he h hs
  cases hspecial : e.special with
  | false => exact (next_netMoves hspecial h).cached hs
  | true =>
    cases e with
    | ownerChange newOwner replies => exact he.elim
    | notify =>
      obtain ⟨hdevices, hconnectivity⟩ := notifyConnectivityListeners_devices h
      refine ⟨?_, hdevices ▸ hs.idle⟩
      unfold getConnectionState
      rw [hdevices, hconnectivity]
      exact hs.best
    | _ => cases hspecial

/-- The new owner's device list is all that the client knows then. -/
theorem ownerChange_knows (hw : ∀ path ∈ w.devices, path.isValid) {newOwner : String} (hnew : newOwner ≠ "")
    (hr : w.Answers replies) (h : s.next (.ownerChange newOwner replies) = some t) :
    Knows w s.deviceWhitelist t ∧ Cached t := by
  have hempty : ∀ path : ObjectPath, s.reset.devices[path]? = none := fun _ => Std.ExtTreeMap.getElem?_empty
  simp only [next, onShillServiceOwnerChange, if_neg hnew] at h
  refine ⟨?_, (onManagerProperties_moves h).netMoves.cached (reset_cached s)⟩
  simp only [init, onManagerProperties, hr.1] at h
  split at h
  · cases h
  · rename_i value hvalue
    cases h
    refine (knows_deviceList hw hr hvalue (reset_onlyMonitored rfl) ?_ ?_).1
    · exact fun path htracks => absurd (hempty path) htracks
    · intro path device hdevice
      rw [hempty] at hdevice
      cases hdevice

/-- **A restart of shill brings the client in step with it**, whatever the client has known
before: once all followed devices have told their services, and these their states. The answers
and signals come in any order, with connect attempts in between. -/
theorem in_step_after_restart (hw : ∀ path ∈ w.devices, path.isValid) {newOwner : String} (hnew : newOwner ≠ "")
    (hr : w.Answers replies) {es : List Event} (hes : ∀ e ∈ es, w.Says e)
    (hreported : ∀ path servicePath, w.Followed s.deviceWhitelist path → w.selected path = some servicePath →
      Reported es path servicePath)
    (h : machine.run s (.ownerChange newOwner replies :: es) = some t) : InStep w s.deviceWhitelist t := by
  obtain ⟨u, hu, hrun⟩ := Option.bind_eq_some_iff.1 h
  obtain ⟨hknows, hcached⟩ := ownerChange_knows hw hnew hr hu
  refine inStep_of_knows ((keeps_knows hw).run hes hrun hknows) ((keeps_cached w).run hes hrun hcached) ?_ ?_
  · intro path hfollowed hsel
    obtain ⟨servicePath, hservicePath⟩ := Option.ne_none_iff_exists'.1 hsel
    obtain ⟨before, after, rfl, ⟨e, he, hreports⟩, -⟩ := hreported path servicePath hfollowed hservicePath
    have hlearned := (keeps_knows hw).learned (keeps_knowsService hw path) (teaches_service hw hfollowed hsel) hes
      ⟨e, List.mem_append_left after he, hreports⟩ hrun hknows
    exact hlearned.2
  · intro path servicePath hfollowed hsel
    obtain ⟨before, after, rfl, hfirst, hsecond⟩ := hreported path servicePath hfollowed hsel
    have hlearned := (keeps_knows hw).learned_in_turn (keeps_knowsService hw path) (keeps_knowsState hw servicePath)
      (teaches_service hw hfollowed (by simp [hsel])) (teaches_state hw hsel) hes hfirst hsecond hrun hknows
    exact hlearned.2

def wirelessService : ObjectPath := ⟨"/service/1"⟩

/-- Shill with a Wi-Fi device that is online, and another device. -/
def wirelessShill : Published where
  manager name := if name = shill.kDevicesProperty then some (.paths [lanDevice, wirelessDevice]) else none
  device path name :=
    if name = shill.kInterfaceProperty then some (.string (if path = wirelessDevice then "wlan0" else "eth0"))
    else if name = shill.kSelectedServiceProperty then
      some (.path (if path = wirelessDevice then wirelessService else lanService))
    else none
  service path name :=
    if name = shill.kStateProperty then some (.string (if path = wirelessService then "online" else "idle")) else none

def wirelessReplies : Replies where
  manager := some wirelessShill.manager
  device _ path := some (wirelessShill.device path)
  service := some (wirelessShill.service wirelessService)

/-- The Wi-Fi device and its service report, and an attempt begins in between. -/
def reports : List Event :=
  [.deviceRegistration wirelessDevice true wirelessReplies, .connect ⟨"guest", "", .ok lanService, .ok ()⟩,
   .serviceRegistration wirelessService true wirelessReplies []]

def restartedClient : ShillClient :=
  (machine.run interfaceClient (.ownerChange ":1.7" wirelessReplies :: reports)).get rfl

example : restartedClient.getConnectionState = .online := by decide +kernel

theorem wirelessReplies_answers : wirelessShill.Answers wirelessReplies := ⟨rfl, fun _ _ => rfl⟩

theorem reports_says : ∀ e ∈ reports, wirelessShill.Says e := by
  intro e he
  simp only [reports, List.mem_cons, List.not_mem_nil, or_false] at he
  rcases he with rfl | rfl | rfl
  · refine ⟨rfl, fun value hvalue => ⟨hvalue, ?_⟩⟩
    obtain rfl := Option.some_inj.1 (show some (Any.path wirelessService) = some value from hvalue)
    rfl
  · trivial
  · rfl

theorem reports_reported {path servicePath : ObjectPath} (hfollowed : wirelessShill.Followed ["wlan0"] path)
    (hsel : wirelessShill.selected path = some servicePath) : Reported reports path servicePath := by
  obtain rfl : path = wirelessDevice := by
    by_contra hne
    have hmon := hfollowed.2
    simp [Published.monitored, isMonitoredDevice, wirelessShill, hne, Any.tryGetString] at hmon
  have hvalue : wirelessShill.device wirelessDevice shill.kSelectedServiceProperty = some (.path wirelessService) := rfl
  obtain ⟨rfl, -⟩ := (wirelessShill.selected_iff hvalue).1 hsel
  exact ⟨reports.take 1, reports.drop 1, rfl, ⟨_, List.mem_singleton_self _, rfl, rfl⟩,
    ⟨_, List.mem_cons_of_mem _ (List.mem_singleton_self _), rfl, rfl⟩⟩

theorem in_step_after_restart_test : InStep wirelessShill ["wlan0"] restartedClient :=
  in_step_after_restart (s := interfaceClient) (by decide +kernel) (show ":1.7" ≠ "" by decide)
    wirelessReplies_answers reports_says (fun _ _ => reports_reported) (Option.some_get _).symm

end ShillClient

end SystemWeaved
