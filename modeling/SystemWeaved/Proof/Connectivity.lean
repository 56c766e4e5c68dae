import Mathlib.Order.Bounds.Basic
import SystemWeaved.Proof.ShillFrame

/-!
# Connectivity and its announcements

The cached connectivity changes in two ways: `UpdateConnectivityState` computes it anew
and posts a notification, and a change of shill's owner sets it to offline. All else that
happens to the devices leaves the set of their states as it is (`SameStates`).

* `connectivity_best`: the cached connectivity is the greatest state of a device.
* `announced_iff`: a change of it is announced exactly if it is not the loss of an owner,
  or a new owner without a device to monitor.
-/

namespace SystemWeaved

/-- The running maximum of a loop is the greatest of its start and the values it visits. -/
theorem foldl_isGreatest {α β : Type*} [LinearOrder β] (f : α → β) (l : List α) (b : β) :
    IsGreatest (insert b {y | ∃ x ∈ l, f x = y})
      (l.foldl (fun best x => if f x > best then f x else best) b) := by
  induction l generalizing b with
  | nil => simp
  | cons a l ih =>
    rw [List.foldl_cons]
    obtain ⟨hmem, hub⟩ := ih (if f a > b then f a else b)
    -- the new start is the maximum of the old one and the first value
    have hmax : (if f a > b then f a else b) = max b (f a) := by
      split
      · exact (max_eq_right_of_lt ‹_›).symm
      · exact (max_eq_left (not_lt.1 ‹_›)).symm
    rw [hmax] at hmem hub ⊢
    constructor
    · rcases hmem with h | ⟨x, hx, h⟩
      · rcases max_choice b (f a) with hc | hc
        · exact .inl (h.trans hc)
        · exact .inr ⟨a, List.mem_cons_self, (h.trans hc).symm⟩
      · exact .inr ⟨x, List.mem_cons_of_mem _ hx, h⟩
    · have hstart := hub (Set.mem_insert _ _)
      rintro y (rfl | ⟨x, hx, rfl⟩)
      · exact (le_max_left _ _).trans hstart
      · rcases List.mem_cons.1 hx with rfl | hx
        · exact (le_max_right _ _).trans hstart
        · exact hub (.inr ⟨x, hx, rfl⟩)

namespace ShillClient

variable {s t u : ShillClient} {m : PathMap DeviceState}

/-- The states of the devices, and offline. -/
def states (m : PathMap DeviceState) : Set NetworkState :=
  {n | n = .offline ∨ ∃ (path : ObjectPath) (device : DeviceState),
    m[path]? = some device ∧ device.serviceState = n}

theorem mem_states {n : NetworkState} : n ∈ states m ↔
    n = .offline ∨ ∃ (path : ObjectPath) (device : DeviceState),
      m[path]? = some device ∧ device.serviceState = n := Iff.rfl

/-- A device without a selected service is offline. -/
def Idle (m : PathMap DeviceState) : Prop :=
  ∀ (path : ObjectPath) (device : DeviceState), m[path]? = some device →
    device.selectedService = none → device.serviceState = .offline

theorem bestServiceState_isGreatest (s : ShillClient) : IsGreatest (states s.devices) s.bestServiceState := by
  have h := foldl_isGreatest (fun kv : ObjectPath × DeviceState => kv.2.serviceState) s.devices.toList .offline
  have hset : insert NetworkState.offline
      {y | ∃ kv ∈ s.devices.toList, kv.2.serviceState = y} = states s.devices := by
    ext n
    simp only [Set.mem_insert_iff, Set.mem_ofPred_eq, mem_states, Prod.exists, PathMap.mem_toList]
  exact hset ▸ h

theorem Idle.insert {path : ObjectPath} {device : DeviceState} (hm : Idle m)
    (hd : device.selectedService = none → device.serviceState = .offline) :
    Idle (m.insert path device) := by
  intro a d had
  rw [PathMap.getElem?_insert] at had
  split at had
  · cases had
    exact hd
  · exact hm a d had

theorem Idle.erase {path : ObjectPath} (hm : Idle m) : Idle (m.erase path) := by
  intro a d had
  rw [PathMap.getElem?_erase] at had
  split at had
  · cases had
  · exact hm a d had

theorem Idle.foldl_erase (paths : List ObjectPath) (hm : Idle m) :
    Idle (paths.foldl (fun devices path => devices.erase path) m) := by
  induction paths generalizing m with
  | nil => exact hm
  | cons path paths ih => exact ih hm.erase

/-- Putting an offline device in place of none, or of an offline one, changes no state. -/
theorem states_insert {path : ObjectPath} {device : DeviceState} (hd : device.serviceState = .offline)
    (hold : ∀ d, m[path]? = some d → d.serviceState = .offline) :
    states (m.insert path device) = states m := by
  ext n
  simp only [mem_states, PathMap.getElem?_insert]
  constructor
  · rintro (h | ⟨a, d, had, rfl⟩)
    · exact .inl h
    · split at had
      · cases had
        exact .inl hd
      · exact .inr ⟨a, d, had, rfl⟩
  · rintro (h | ⟨a, d, had, rfl⟩)
    · exact .inl h
    · by_cases hpa : path = a
      · subst hpa
        exact .inl (hold d had)
      · exact .inr ⟨a, d, by rw [if_neg hpa, had], rfl⟩

/-- The states of the devices and the queue of notifications stay as they are. -/
structure SameStates (s t : ShillClient) : Prop where
  connectivity : t.connectivityState = s.connectivityState
  notifications : t.notifications = s.notifications
  states : Idle s.devices → Idle t.devices ∧ states t.devices = states s.devices

theorem SameNetwork.sameStates (h : SameNetwork s t) : SameStates s t :=
  ⟨h.connectivity, h.notifications, fun hi => by rw [h.devices]; exact ⟨hi, rfl⟩⟩

/-- The moves of the network: nothing, or a refresh. -/
inductive NetMove : ShillClient → ShillClient → Prop
  | same {s t : ShillClient} (h : SameStates s t) : NetMove s t
  | refreshed {s : ShillClient} (u : ShillClient) (hnotes : u.notifications = s.notifications)
      (hidle : Idle s.devices → Idle u.devices) : NetMove s u.updateConnectivityState

abbrev NetMoves : ShillClient → ShillClient → Prop := Relation.ReflTransGen NetMove

theorem SameNetwork.moves (h : SameNetwork s t) : NetMoves s t := .single (.same h.sameStates)

/-! ## Every event is made of moves, but for the owner -/

theorem onStateChangeForSelectedService_netMoves (s : ShillClient) (path : ObjectPath) (state : String) :
    NetMoves s (s.onStateChangeForSelectedService path state) := by
  unfold onStateChangeForSelectedService
  cases hsel : s.deviceSelecting path with
  | none => exact .refl
  | some kv =>
    obtain ⟨devicePath, device⟩ := kv
    refine .single (.refreshed { s with devices := s.devices.insert devicePath _ } rfl fun hi => hi.insert ?_)
    -- the device has a selected service
    intro hnone
    have hany := List.find?_some hsel
    simp only at hnone
    simp [hnone] at hany

theorem onServicePropertyChange_netMoves (s : ShillClient) (path : ObjectPath) (name : String) (value : Any)
    (reentry : List ConnectCall) : NetMoves s (s.onServicePropertyChange path name value reentry) := by
  unfold onServicePropertyChange
  dsimp only
  split
  · split
    · exact .refl
    · have hsel := onStateChangeForSelectedService_netMoves s path value.tryGetString
      split
      · exact hsel.trans (onStateChangeForConnectingService_sameNetwork _ _ _).moves
      · exact hsel
  · split
    · split
      · exact (onStrengthChangeForConnectingService_same s _).1.moves
      · exact .refl
    · split
      · split
        · exact SameNetwork.moves ⟨List.suffix_rfl, rfl, rfl, rfl⟩
        · exact .refl
      · exact .refl

theorem replayProperty_netMoves (s : ShillClient) (path : ObjectPath) (properties : VariantDictionary)
    (reentry : List ConnectCall) (name : String) :
    NetMoves s (s.replayProperty path properties reentry name) := by
  unfold replayProperty
  cases properties name with
  | none => exact .refl
  | some value => exact onServicePropertyChange_netMoves s _ _ _ _

theorem onServicePropertyChangeRegistration_netMoves (s : ShillClient) (path : ObjectPath) (success : Bool)
    (replies : Replies) (reentry : List ConnectCall) :
    NetMoves s (s.onServicePropertyChangeRegistration path success replies reentry) := by
  have hcases := registration_cases s path success replies reentry
  generalize s.onServicePropertyChangeRegistration path success replies reentry = t at hcases ⊢
  cases hcases with
  | failed hconn => exact (cleanup_sameNetwork s).moves
  | ignored => exact .refl
  | replayed hprops =>
    exact ((replayProperty_netMoves _ _ _ _ _).trans (replayProperty_netMoves _ _ _ _ _)).trans
      (replayProperty_netMoves _ _ _ _ _)

theorem selectService_notifications (s : ShillClient) (path : ObjectPath) (device : DeviceState)
    (servicePath : ObjectPath) (replies : Replies) :
    (s.selectService path device servicePath replies).notifications = s.notifications := by
  unfold selectService
  split
  · rfl
  · split <;> rfl

theorem selectService_idle (path : ObjectPath) {device : DeviceState} (servicePath : ObjectPath)
    (replies : Replies) (hs : Idle s.devices)
    (hd : device.selectedService = none → device.serviceState = .offline) :
    Idle (s.selectService path device servicePath replies).devices := by
  unfold selectService
  split
  · rename_i hreuse
    obtain ⟨id, hservice⟩ := (isConnecting_iff s servicePath).1 hreuse.2
    exact hs.insert (by simp [hservice])
  · split
    · exact hs.insert (by simp)
    · exact hs.insert hd

/-- A new selection, without a refresh: the device is and stays offline. -/
theorem selectService_sameStates {path : ObjectPath} {device : DeviceState} {servicePath : ObjectPath}
    (replies : Replies) (hdevice : s.devices[path]? = some device) (hnone : device.selectedService = none)
    (hreuse : ¬(servicePath.value ≠ "/" ∧ s.isConnecting servicePath)) :
    SameStates s (s.selectService path device servicePath replies) := by
  refine ⟨?_, selectService_notifications s _ _ _ _, fun hi => ?_⟩
  · unfold selectService
    split
    · rfl
    · split <;> rfl
  · have hoff := hi path device hdevice hnone
    refine ⟨selectService_idle path servicePath replies hi fun _ => hoff, ?_⟩
    have hold : ∀ d, s.devices[path]? = some d → d.serviceState = .offline := by
      intro d hd
      rw [hdevice] at hd
      cases hd
      exact hoff
    unfold selectService
    rw [if_neg hreuse]
    split
    · exact states_insert hoff hold
    · exact states_insert hoff hold

theorem DeviceMove.netMove (h : DeviceMove s t) : NetMove s t := by
  cases h with
  | added path hnew =>
    -- a new device is offline
    refine .same ⟨rfl, rfl, fun hi => ⟨hi.insert fun _ => rfl, states_insert rfl ?_⟩⟩
    intro d hd
    rw [hnew] at hd
    cases hd
  | selected path device servicePath replies hdevice hnone hreuse =>
    exact .same (selectService_sameStates replies hdevice hnone hreuse)
  | reselected path device servicePath replies hdevice =>
    refine .refreshed _ (selectService_notifications s _ _ _ _) fun hi => ?_
    refine selectService_idle path servicePath replies hi ?_
    rcases hdevice with ⟨hd, -⟩ | rfl
    · exact hi path device hd
    · exact fun _ => rfl
  | removed paths => exact .refreshed _ rfl fun hi => hi.foldl_erase paths

theorem DeviceMoves.netMoves (h : DeviceMoves s t) : NetMoves s t := by
  induction h with
  | refl => exact .refl
  | tail _ hm ih => exact ih.tail (DeviceMove.netMove hm)

/-- The events that are not made of moves: a new owner, and the notifications themselves. -/
def Event.special : Event → Bool
  | .ownerChange _ _ | .notify => true
  | _ => false

theorem next_netMoves {e : Event} (he : e.special = false) (h : s.next e = some t) : NetMoves s t := by
  cases e with
  | connect c => cases h; exact (connect_sameNetwork s c).moves
  | addConnectionChangedCallback l => cases h; exact SameNetwork.moves ⟨List.suffix_rfl, rfl, rfl, rfl⟩
  | ownerChange newOwner replies => cases he
  | serviceRegistration path success replies reentry =>
    cases h
    exact onServicePropertyChangeRegistration_netMoves s _ _ _ _
  | serviceProperty path name value reentry => cases h; exact onServicePropertyChange_netMoves s _ _ _ _
  | timeout service reentry =>
    simp only [next] at h
    split at h
    · cases h
      have hqueue : SameNetwork s { s with timeouts := s.timeouts.erase service } :=
        ⟨List.suffix_rfl, rfl, rfl, rfl⟩
      rw [connectToServiceError_eq]
      split
      · exact hqueue.moves
      · exact hqueue.moves.trans (finish_sameNetwork _ _ _).moves
    · cases h
  | notify => cases he
  | _ => exact (next_deviceMoves rfl h).netMoves

/-! ## The cached connectivity -/

/-- The cached connectivity is the greatest state, and devices without a service are offline. -/
structure Cached (s : ShillClient) : Prop where
  best : IsGreatest (states s.devices) s.getConnectionState
  idle : Idle s.devices

theorem NetMove.cached (h : NetMove s t) (hs : Cached s) : Cached t := by
  cases h with
  | same h =>
    obtain ⟨hidle, hstates⟩ := h.states hs.idle
    refine ⟨?_, hidle⟩
    unfold getConnectionState
    rw [hstates, h.connectivity]
    exact hs.best
  | refreshed u _ hidle => exact ⟨bestServiceState_isGreatest u, hidle hs.idle⟩

theorem NetMoves.cached (h : NetMoves s t) (hs : Cached s) : Cached t := by
  induction h with
  | refl => exact hs
  | tail _ hm ih => exact hm.cached ih

theorem reset_cached (s : ShillClient) : Cached s.reset := by
  have hempty : ∀ path : ObjectPath, s.reset.devices[path]? = none := fun _ =>
    Std.ExtTreeMap.getElem?_empty
  refine ⟨⟨.inl rfl, ?_⟩, ?_⟩
  · rintro n (rfl | ⟨path, device, h, -⟩)
    · exact le_rfl
    · rw [hempty] at h
      cases h
  · intro path device h
    rw [hempty] at h
    cases h

theorem notifyConnectivityListeners_devices (h : s.notifyConnectivityListeners = some t) :
    t.devices = s.devices ∧ t.connectivityState = s.connectivityState := by
  unfold notifyConnectivityListeners at h
  split at h <;> cases h
  exact ⟨rfl, rfl⟩

/-- A `NotifyConnectivityListeners` task runs every listener. -/
theorem notifyConnectivityListeners_runs (h : s.notifyConnectivityListeners = some t) :
    ∃ effects, t.log = effects ++ s.log ∧ ∀ listener ∈ s.connectivityListeners, .runListener listener ∈ effects := by
  unfold notifyConnectivityListeners at h
  split at h
  · cases h
  · cases h
    refine ⟨_, rfl, fun listener hl => ?_⟩
    rw [List.mem_reverse]
    exact List.mem_map_of_mem hl

/-- **The cached connectivity is always the best of the devices.** -/
theorem connectivity_best (h : machine.Reach s) : Cached s := by
  refine Machine.ReachIf.invariant ?_ ?_ h
  · rintro s ⟨deviceWhitelist, replies, hs⟩
    exact (onManagerProperties_moves hs).netMoves.cached (reset_cached _)
  · intro s e t _ ih _ hn
    cases he : e.special with
    | false => exact (next_netMoves he hn).cached ih
    | true =>
      cases e with
      | ownerChange newOwner replies => exact (onShillServiceOwnerChange_reset hn).netMoves.cached (reset_cached s)
      | notify =>
        obtain ⟨hd, hc⟩ := notifyConnectivityListeners_devices hn
        refine ⟨?_, hd ▸ ih.idle⟩
        unfold getConnectionState
        rw [hd, hc]
        exact ih.best
      | _ => cases he

def lanDevice : ObjectPath := ⟨"/device/eth0"⟩

def lanService : ObjectPath := ⟨"/service/2"⟩

/-- A client whose only device is online. -/
def onlineClient : ShillClient :=
  ((idleClient.onManagerPropertyChange shill.kDevicesProperty (.paths [lanDevice]) {}).onDevicePropertyChange
    lanDevice shill.kSelectedServiceProperty (.path lanService) {}).onServicePropertyChange
    lanService shill.kStateProperty (.string "online") []

theorem onlineClient_reach : machine.Reach onlineClient :=
  .step (.step (.step (.start idleClient_start)
    (e := .managerProperty shill.kDevicesProperty (.paths [lanDevice]) {}) trivial rfl)
    (e := .deviceProperty lanDevice shill.kSelectedServiceProperty (.path lanService) {}) trivial rfl)
    (e := .serviceProperty lanService shill.kStateProperty (.string "online") []) trivial rfl

theorem onlineClient_state : onlineClient.getConnectionState = .online := by decide +kernel

theorem connectivity_best_test : Cached onlineClient := connectivity_best onlineClient_reach

/-! ## Announcements -/

/-- If the connectivity has changed, a notification of the listeners has been posted. -/
def Announced (s t : ShillClient) : Prop :=
  t.getConnectionState ≠ s.getConnectionState →
    ∃ new, new ≠ [] ∧ t.notifications = s.notifications ++ new

theorem NetMove.notifications (h : NetMove s t) : t.notifications = s.notifications ∧
    t.getConnectionState = s.getConnectionState ∨ ∃ b, t.notifications = s.notifications ++ [b] := by
  cases h with
  | same h => exact .inl ⟨h.notifications, h.connectivity⟩
  | refreshed u hnotes _ => exact .inr ⟨_, congrArg (· ++ _) hnotes⟩

theorem NetMoves.notifications (h : NetMoves s t) : ∃ new, t.notifications = s.notifications ++ new ∧
    (new = [] → t.getConnectionState = s.getConnectionState) := by
  induction h with
  | refl => exact ⟨[], by simp⟩
  | tail _ hm ih =>
    obtain ⟨new, hnew, hsame⟩ := ih
    rcases hm.notifications with ⟨hn, hc⟩ | ⟨b, hn⟩
    · exact ⟨new, hn.trans hnew, fun h => hc.trans (hsame h)⟩
    · exact ⟨new ++ [b], by rw [hn, hnew, List.append_assoc], by simp⟩

theorem NetMoves.announced (h : NetMoves s t) : Announced s t := by
  intro hchange
  obtain ⟨new, hnew, hsame⟩ := h.notifications
  exact ⟨new, fun h => hchange (hsame h), hnew⟩

/-! ### A new owner -/

theorem DeviceScan.loop_fst (replies : Replies) (paths : List ObjectPath) :
    ∀ (i : ℕ) (scan : DeviceScan), (DeviceScan.loop replies i paths scan).1 = paths.all ObjectPath.isValid := by
  induction paths with
  | nil => exact fun _ _ => rfl
  | cons path rest ih =>
    intro i scan
    rw [DeviceScan.loop, List.all_cons]
    cases path.isValid with
    | false => rfl
    | true => exact ih _ _

theorem DeviceScan.visit_quiet (scan : DeviceScan) (properties : Option VariantDictionary)
    (path : ObjectPath) : (scan.visit properties path).client.notifications = scan.client.notifications ∧
      (scan.visit properties path).client.connectivityState = scan.client.connectivityState := by
  unfold DeviceScan.visit
  split
  · exact ⟨rfl, rfl⟩
  · split <;> exact ⟨rfl, rfl⟩

/-- The loop itself posts nothing. -/
theorem DeviceScan.loop_quiet (replies : Replies) (paths : List ObjectPath) :
    ∀ (i : ℕ) (scan : DeviceScan),
      (DeviceScan.loop replies i paths scan).2.client.notifications = scan.client.notifications ∧
      (DeviceScan.loop replies i paths scan).2.client.connectivityState = scan.client.connectivityState := by
  induction paths with
  | nil => exact fun _ _ => ⟨rfl, rfl⟩
  | cons path rest ih =>
    intro i scan
    unfold DeviceScan.loop
    split
    · exact ⟨rfl, rfl⟩
    · obtain ⟨hnotes, hconn⟩ := ih (i + 1) (scan.visit (replies.device i path) path)
      obtain ⟨hnotes', hconn'⟩ := scan.visit_quiet (replies.device i path) path
      exact ⟨hnotes.trans hnotes', hconn.trans hconn'⟩

theorem DeviceScan.visit_whitelist (scan : DeviceScan) (properties : Option VariantDictionary)
    (path : ObjectPath) : (scan.visit properties path).client.deviceWhitelist = scan.client.deviceWhitelist := by
  unfold DeviceScan.visit
  split
  · rfl
  · split <;> rfl

theorem DeviceScan.visit_toRemove (scan : DeviceScan) (properties : Option VariantDictionary)
    (path : ObjectPath) (h : scan.devicePathsToRemove = []) :
    (scan.visit properties path).devicePathsToRemove = [] := by
  unfold DeviceScan.visit
  split
  · simp [h]
  · split <;> exact h

/-- While no device has been added there is none. -/
def DeviceScan.Fresh (scan : DeviceScan) : Prop :=
  scan.devicePathsToRemove = [] ∧ (scan.updateConnectivity = false → scan.client.devices = ∅)

/-- One round from a fresh scan adds a device exactly if it is the first monitored one, or
one has been added before. -/
theorem DeviceScan.visit_fresh (scan : DeviceScan) (properties : Option VariantDictionary)
    (path : ObjectPath) (h : scan.Fresh) : (scan.visit properties path).Fresh ∧
      ((scan.visit properties path).updateConnectivity =
        (scan.updateConnectivity || scan.client.isMonitoredDevice properties)) := by
  have hremove := scan.visit_toRemove properties path h.1
  cases hup : scan.updateConnectivity with
  | true =>
    have hvisit : (scan.visit properties path).updateConnectivity = true := by
      unfold DeviceScan.visit
      split
      · exact hup
      · split
        · rfl
        · exact hup
    exact ⟨⟨hremove, by simp [hvisit]⟩, by simp [hvisit]⟩
  | false =>
    have hempty : scan.client.devices[path]? = none := by
      rw [h.2 hup]
      exact Std.ExtTreeMap.getElem?_empty
    cases hmon : scan.client.isMonitoredDevice properties with
    | true =>
      have hvisit : (scan.visit properties path).updateConnectivity = true := by
        simp [DeviceScan.visit, hempty, hmon]
      exact ⟨⟨hremove, by simp [hvisit]⟩, by simp [hvisit]⟩
    | false =>
      have hvisit : scan.visit properties path = scan := by
        simp [DeviceScan.visit, hempty, hmon]
      rw [hvisit]
      exact ⟨h, hup⟩

/-- The loop from a fresh scan adds a device exactly if the list has a monitored one. -/
theorem DeviceScan.loop_fresh (replies : Replies) (paths : List ObjectPath) :
    ∀ (i : ℕ) (scan : DeviceScan), scan.Fresh → (∀ p ∈ paths, p.isValid) →
      (DeviceScan.loop replies i paths scan).2.devicePathsToRemove = [] ∧
      ((DeviceScan.loop replies i paths scan).2.updateConnectivity = true ↔
        scan.updateConnectivity = true ∨ ∃ j p, paths[j]? = some p ∧
          scan.client.isMonitoredDevice (replies.device (i + j) p)) := by
  induction paths with
  | nil => exact fun i scan h _ => ⟨h.1, by simp [DeviceScan.loop]⟩
  | cons path rest ih =>
    intro i scan h hvalid
    obtain ⟨hpath, hrest⟩ := List.forall_mem_cons.1 hvalid
    obtain ⟨hfresh, hup⟩ := scan.visit_fresh (replies.device i path) path h
    obtain ⟨hremove, hiff⟩ := ih (i + 1) _ hfresh hrest
    rw [DeviceScan.loop, hpath]
    refine ⟨hremove, ?_⟩
    -- the whitelist, and so the monitored devices, stay the same
    have hmon : ∀ properties, (scan.visit (replies.device i path) path).client.isMonitoredDevice properties =
        scan.client.isMonitoredDevice properties := by
      intro properties
      simp only [isMonitoredDevice, scan.visit_whitelist]
    refine hiff.trans ?_
    simp only [hup, hmon, Bool.or_eq_true, or_assoc]
    refine or_congr_right ?_
    constructor
    · rintro (h | ⟨j, p, hj, h⟩)
      · exact ⟨0, path, rfl, h⟩
      · exact ⟨j + 1, p, hj, by rwa [Nat.add_right_comm, Nat.add_assoc] at h⟩
    · rintro ⟨j, p, hj, h⟩
      cases j with
      | zero =>
        cases hj
        exact .inl h
      | succ j => exact .inr ⟨j, p, hj, by rwa [Nat.add_right_comm, Nat.add_assoc]⟩

/-- The list has valid paths only, and one of them is a device to monitor. -/
def ListsDevice (s : ShillClient) (paths : List ObjectPath) (replies : Replies) : Prop :=
  (∀ path ∈ paths, path.isValid) ∧
    ∃ (i : ℕ) (path : ObjectPath), paths[i]? = some path ∧ s.isMonitoredDevice (replies.device i path)

/-- The new owner answers with the list of a device to monitor. -/
def FindsDevice (s : ShillClient) (replies : Replies) : Prop :=
  ∃ properties value, replies.manager = some properties ∧ properties shill.kDevicesProperty = some value ∧
    s.ListsDevice value.tryGetPaths replies

/-- The event is no change of owner, or one that is announced or changes nothing. -/
def Announces (s : ShillClient) : Event → Prop
  | .ownerChange newOwner replies =>
    s.getConnectionState = .offline ∨ newOwner ≠ "" ∧ s.FindsDevice replies
  | _ => True

/-- The first device list after a reset posts a notification exactly if it has a device. -/
theorem reset_devices (s : ShillClient) (value : Any) (replies : Replies) :
    let t := s.reset.onManagerPropertyChange shill.kDevicesProperty value replies
    ¬s.ListsDevice value.tryGetPaths replies ∧ t.notifications = s.notifications ∧
        t.connectivityState = .offline ∨
      s.ListsDevice value.tryGetPaths replies ∧ ∃ b, t.notifications = s.notifications ++ [b] := by
  have hempty : s.reset.devices.keys = [] := Std.ExtTreeMap.keys_eq_nil_iff.2 rfl
  set scan : DeviceScan :=
    { client := s.reset, devicePathsToRemove := s.reset.devices.keys, updateConnectivity := false } with hscan
  have hfresh : scan.Fresh := ⟨hempty, fun _ => rfl⟩
  have hdone := DeviceScan.loop_fst replies value.tryGetPaths 0 scan
  obtain ⟨hnotes, hconn⟩ := DeviceScan.loop_quiet replies value.tryGetPaths 0 scan
  simp only [onManagerPropertyChange, ne_eq, not_true_eq_false, if_false, ← hscan, hdone]
  by_cases hvalid : ∀ path ∈ value.tryGetPaths, path.isValid
  · -- the loop runs to its end
    obtain ⟨hremove, hup⟩ := DeviceScan.loop_fresh replies value.tryGetPaths 0 scan hfresh hvalid
    rw [List.all_eq_true.2 hvalid, hremove]
    simp only [Nat.zero_add, hscan, Bool.false_eq_true, false_or] at hup
    by_cases hlist : ∃ (i : ℕ) (path : ObjectPath), value.tryGetPaths[i]? = some path ∧
        s.isMonitoredDevice (replies.device i path)
    · right
      refine ⟨⟨hvalid, hlist⟩, ?_⟩
      rw [hup.2 hlist]
      exact ⟨_, congrArg (· ++ [_]) hnotes⟩
    · left
      refine ⟨fun h => hlist h.2, ?_⟩
      rw [Bool.eq_false_iff.2 fun h => hlist (hup.1 h)]
      exact ⟨hnotes, hconn⟩
  · left
    refine ⟨fun h => hvalid h.1, ?_⟩
    rw [Bool.eq_false_iff.2 fun h => hvalid (List.all_eq_true.1 h)]
    exact ⟨hnotes, hconn⟩

/-- A change of owner either finds a device and posts a notification, or leaves the client
offline in silence. -/
theorem ownerChange_cases {newOwner : String} {replies : Replies}
    (h : s.onShillServiceOwnerChange newOwner replies = some t) :
    ¬(newOwner ≠ "" ∧ s.FindsDevice replies) ∧ t.notifications = s.notifications ∧
        t.connectivityState = .offline ∨
      (newOwner ≠ "" ∧ s.FindsDevice replies) ∧ ∃ b, t.notifications = s.notifications ++ [b] := by
  unfold onShillServiceOwnerChange at h
  split at h
  · rename_i howner
    cases h
    exact .inl ⟨fun hf => hf.1 howner, rfl, rfl⟩
  · rename_i howner
    unfold init onManagerProperties at h
    split at h
    · rename_i hreply
      cases h
      refine .inl ⟨?_, rfl, rfl⟩
      rintro ⟨-, properties, value, hm, -⟩
      rw [hm] at hreply
      cases hreply
    · rename_i properties hreply
      split at h
      · cases h
      · rename_i value hvalue
        cases h
        rcases reset_devices s value replies with ⟨hlist, hnotes⟩ | ⟨hlist, hnotes⟩
        · refine .inl ⟨?_, hnotes⟩
          rintro ⟨-, properties', value', hm, hv, hlist'⟩
          rw [hm] at hreply
          cases hreply
          rw [hv] at hvalue
          cases hvalue
          exact hlist hlist'
        · exact .inr ⟨⟨howner, properties, value, hreply, hvalue, hlist⟩, hnotes⟩

/-- **When a change of connectivity is announced.** -/
theorem announced_iff {e : Event} (h : s.next e = some t) : Announced s t ↔ Announces s e := by
  cases he : e.special with
  | false =>
    have hannounces : Announces s e := by
      cases e with
      | ownerChange _ _ => cases he
      | _ => trivial
    exact ⟨fun _ => hannounces, fun _ => (next_netMoves he h).announced⟩
  | true =>
    cases e with
    | ownerChange newOwner replies =>
      rcases ownerChange_cases h with ⟨hnot, hnotes, hoff⟩ | ⟨hfinds, b, hnotes⟩
      · -- in silence: fine only if the client was offline before
        constructor
        · intro hann
          by_contra hbad
          obtain ⟨hon, -⟩ := not_or.1 hbad
          obtain ⟨new, hne, hnew⟩ := hann (hoff.trans_ne (Ne.symm hon))
          rw [hnotes] at hnew
          exact hne (List.self_eq_append_right.1 hnew)
        · rintro (hoff' | hfinds)
          · exact fun hchange => absurd (hoff.trans hoff'.symm) hchange
          · exact absurd hfinds hnot
      · exact ⟨fun _ => .inr hfinds, fun _ _ => ⟨[b], by simp, hnotes⟩⟩
    | notify => exact ⟨fun _ => trivial, fun _ hchange => absurd (notifyConnectivityListeners_devices h).2 hchange⟩
    | _ => cases he

theorem announced_iff_test :
    Announced onlineClient onlineClient.reset ↔ Announces onlineClient (.ownerChange "" {}) :=
  announced_iff rfl

/-- Shill goes away while a device is online. -/
theorem owner_loss_silent :
    ¬∀ s, machine.Reach s → ∀ e t, s.next e = some t → Announced s t := by
  intro hall
  have hchange : onlineClient.reset.getConnectionState ≠ onlineClient.getConnectionState := by
    rw [onlineClient_state]
    decide
  obtain ⟨new, hne, hnew⟩ := hall onlineClient onlineClient_reach (.ownerChange "" {}) _ rfl hchange
  exact hne (List.self_eq_append_right.1 hnew)

end ShillClient

end SystemWeaved
