import SystemWeaved.Proof.Connectivity

/-!
# The device list of shill's manager

`OnManagerPropertyChange` reconciles the tracked devices with a reported list of paths: a
loop adds devices and crosses off the survivors, and what is left is removed after it.

* `DeviceScan.Scanned`: what the loop has done when it ends, for a list of valid paths or up
  to the first invalid one.
* `reconciled_iff`: the tracked devices become those of the list, and the change is announced,
  exactly if the list has valid paths only or there is nothing to change: an invalid path
  ends the handler, with the devices before it added and none removed.
-/

namespace SystemWeaved

namespace ShillClient

variable {s t : ShillClient}

/-- The path is a key of `devices_`. -/
def Tracks (s : ShillClient) (path : ObjectPath) : Prop := s.devices[path]? ≠ none

/-- `IsMonitoredDevice` accepts the path at one of its places in the list, whose first query
is the `i`-th one. -/
def Found (s : ShillClient) (replies : Replies) (i : ℕ) (paths : List ObjectPath) (path : ObjectPath) : Prop :=
  ∃ j, paths[j]? = some path ∧ s.isMonitoredDevice (replies.device (i + j) path)

theorem Found.mem {replies : Replies} {i : ℕ} {paths : List ObjectPath} {path : ObjectPath}
    (h : Found s replies i paths path) : path ∈ paths := by
  obtain ⟨j, hj, -⟩ := h
  exact List.mem_of_getElem? hj

theorem found_cons {replies : Replies} {i : ℕ} {head : ObjectPath} {rest : List ObjectPath}
    {path : ObjectPath} : Found s replies i (head :: rest) path ↔
      head = path ∧ s.isMonitoredDevice (replies.device i path) ∨ Found s replies (i + 1) rest path := by
  constructor
  · rintro ⟨j, hj, hmon⟩
    cases j with
    | zero => exact .inl ⟨Option.some_inj.1 hj, hmon⟩
    | succ j => exact .inr ⟨j, hj, by rwa [Nat.add_right_comm, Nat.add_assoc]⟩
  · rintro (⟨rfl, hmon⟩ | ⟨j, hj, hmon⟩)
    · exact ⟨0, rfl, hmon⟩
    · exact ⟨j + 1, hj, by rwa [Nat.add_right_comm, Nat.add_assoc] at hmon⟩

theorem Found.congr {replies : Replies} {i : ℕ} {paths : List ObjectPath} {path : ObjectPath}
    (hst : t.deviceWhitelist = s.deviceWhitelist) :
    Found t replies i paths path ↔ Found s replies i paths path := by
  simp only [Found, isMonitoredDevice, hst]

/-! ## The loop -/

namespace DeviceScan

theorem loop_cons {replies : Replies} {head : ObjectPath} (hvalid : head.isValid) (rest : List ObjectPath)
    (i : ℕ) (scan : DeviceScan) : loop replies i (head :: rest) scan =
      loop replies (i + 1) rest (scan.visit (replies.device i head) head) := by
  rw [loop, hvalid]
  rfl

/-- What one round does with a valid path. -/
inductive Visited (scan : DeviceScan) (properties : Option VariantDictionary) (path : ObjectPath) :
    DeviceScan → Prop
  | seen (h : scan.client.Tracks path) :
      Visited scan properties path { scan with devicePathsToRemove := scan.devicePathsToRemove.erase path }
  | added (h : scan.client.devices[path]? = none) (hmon : scan.client.isMonitoredDevice properties) :
      Visited scan properties path
        { scan with
          client := { scan.client with
            devices := scan.client.devices.insert path {}
            log := .registerDevice path :: scan.client.log }
          updateConnectivity := true }
  | ignored (h : scan.client.devices[path]? = none) (hmon : scan.client.isMonitoredDevice properties = false) :
      Visited scan properties path scan

theorem visit_cases (scan : DeviceScan) (properties : Option VariantDictionary) (path : ObjectPath) :
    Visited scan properties path (scan.visit properties path) := by
  unfold visit
  cases hdev : scan.client.devices[path]? with
  | some device => exact .seen (by simp [Tracks, hdev])
  | none =>
    dsimp only
    split
    · exact .added hdev ‹_›
    · exact .ignored hdev (Bool.eq_false_iff.2 ‹_›)

/-- **What the loop does**, as far as it gets: devices stay, and new ones are monitored. -/
structure Scanned (replies : Replies) (i : ℕ) (paths : List ObjectPath) (scan r : DeviceScan) : Prop where
  kept : ∀ (path : ObjectPath) (device : DeviceState), scan.client.devices[path]? = some device →
    r.client.devices[path]? = some device
  new : ∀ (path : ObjectPath) (device : DeviceState), scan.client.devices[path]? = none →
    r.client.devices[path]? = some device →
      device = {} ∧ path.isValid ∧ Found scan.client replies i paths path
  updated : r.updateConnectivity = true ↔
    scan.updateConnectivity = true ∨ ∃ path, ¬scan.client.Tracks path ∧ r.client.Tracks path

theorem Scanned.refl (replies : Replies) (i : ℕ) (paths : List ObjectPath) (scan : DeviceScan) :
    Scanned replies i paths scan scan where
  kept _ _ h := h
  new path device hnone hsome := by
    rw [hnone] at hsome
    cases hsome
  updated := by
    refine (or_iff_left ?_).symm
    rintro ⟨path, hnot, h⟩
    exact hnot h

theorem Scanned.of_same {replies : Replies} {i : ℕ} {head : ObjectPath} {rest : List ObjectPath}
    {scan mid r : DeviceScan} (h : Scanned replies (i + 1) rest mid r) (hd : mid.client = scan.client)
    (hu : mid.updateConnectivity = scan.updateConnectivity) :
    Scanned replies i (head :: rest) scan r where
  kept := by
    rw [← hd]
    exact h.kept
  new path device hnone hsome := by
    obtain ⟨hdevice, hvalid, hfound⟩ := h.new path device (hd ▸ hnone) hsome
    exact ⟨hdevice, hvalid, found_cons.2 (.inr (hd ▸ hfound))⟩
  updated := by
    rw [h.updated, hu, hd]

/-- The new device of a round is tracked from there on. -/
theorem Scanned.of_added {replies : Replies} {i : ℕ} {head : ObjectPath} {rest : List ObjectPath}
    {scan mid r : DeviceScan} (h : Scanned replies (i + 1) rest mid r) (hvalid : head.isValid)
    (hnew : scan.client.devices[head]? = none)
    (hmon : scan.client.isMonitoredDevice (replies.device i head))
    (hdevices : mid.client.devices = scan.client.devices.insert head {})
    (hwhite : mid.client.deviceWhitelist = scan.client.deviceWhitelist)
    (hup : mid.updateConnectivity = true) :
    Scanned replies i (head :: rest) scan r := by
  have hhead : r.client.devices[head]? = some {} :=
    h.kept head {} (by rw [hdevices, PathMap.getElem?_insert, if_pos rfl])
  have hother : ∀ path, head ≠ path → mid.client.devices[path]? = scan.client.devices[path]? := by
    intro path hne
    rw [hdevices, PathMap.getElem?_insert, if_neg hne]
  constructor
  · intro path device hpath
    have hne : head ≠ path := by
      rintro rfl
      rw [hnew] at hpath
      cases hpath
    exact h.kept path device ((hother path hne).trans hpath)
  · intro path device hnone hsome
    by_cases hp : head = path
    · subst hp
      rw [hhead] at hsome
      cases hsome
      exact ⟨rfl, hvalid, found_cons.2 (.inl ⟨rfl, hmon⟩)⟩
    · obtain ⟨hdevice, hv, hfound⟩ := h.new path device ((hother path hp).trans hnone) hsome
      exact ⟨hdevice, hv, found_cons.2 (.inr ((Found.congr hwhite).1 hfound))⟩
  · refine iff_of_true (h.updated.2 (.inl hup)) (.inr ⟨head, not_not.2 hnew, ?_⟩)
    intro hnone
    rw [hhead] at hnone
    cases hnone

theorem loop_scanned (replies : Replies) (paths : List ObjectPath) :
    ∀ (i : ℕ) (scan : DeviceScan), Scanned replies i paths scan (loop replies i paths scan).2 := by
  induction paths with
  | nil => exact fun i scan => .refl replies i [] scan
  | cons head rest ih =>
    intro i scan
    cases hvalid : head.isValid with
    | false =>
      rw [loop, hvalid]
      exact .refl replies i _ scan
    | true =>
      rw [loop_cons hvalid]
      have hrest := ih (i + 1) (scan.visit (replies.device i head) head)
      have hcases := scan.visit_cases (replies.device i head) head
      generalize scan.visit (replies.device i head) head = mid at hrest hcases ⊢
      cases hcases with
      | seen h => exact hrest.of_same rfl rfl
      | ignored h hmon => exact hrest.of_same rfl rfl
      | added h hmon => exact hrest.of_added hvalid h hmon rfl rfl rfl

/-- A loop that runs to its end finds all devices to monitor. -/
theorem loop_complete (replies : Replies) (paths : List ObjectPath) :
    ∀ (i : ℕ) (scan : DeviceScan) (path : ObjectPath), (∀ p ∈ paths, p.isValid) →
      Found scan.client replies i paths path → (loop replies i paths scan).2.client.Tracks path := by
  induction paths with
  | nil => exact fun i scan path _ hfound => absurd hfound.mem List.not_mem_nil
  | cons head rest ih =>
    intro i scan path hvalid hfound
    obtain ⟨hhead, hrest⟩ := List.forall_mem_cons.1 hvalid
    rw [loop_cons hhead]
    rcases found_cons.1 hfound with ⟨rfl, hmon⟩ | hfound
    · -- after its round the device is tracked, and so it stays
      have htracks : (scan.visit (replies.device i head) head).client.Tracks head := by
        have hcases := scan.visit_cases (replies.device i head) head
        generalize scan.visit (replies.device i head) head = mid at hcases ⊢
        cases hcases with
        | seen h => exact h
        | added h _ => simp [Tracks]
        | ignored h hnot => exact absurd hmon (by simp [hnot])
      obtain ⟨device, hdevice⟩ := Option.ne_none_iff_exists'.1 htracks
      have hkept := (loop_scanned replies rest (i + 1) _).kept head device hdevice
      exact Option.ne_none_iff_exists'.2 ⟨device, hkept⟩
    · exact ih (i + 1) _ path hrest ((Found.congr (scan.visit_whitelist _ _)).2 hfound)

/-- Such a loop leaves the devices to remove that are not in the list. -/
theorem loop_toRemove (replies : Replies) (paths : List ObjectPath) :
    ∀ (i : ℕ) (scan : DeviceScan), (∀ p ∈ paths, p.isValid) → scan.devicePathsToRemove.Nodup →
      (∀ p ∈ scan.devicePathsToRemove, scan.client.Tracks p) → ∀ p,
        p ∈ (loop replies i paths scan).2.devicePathsToRemove ↔ p ∈ scan.devicePathsToRemove ∧ p ∉ paths := by
  induction paths with
  | nil => exact fun i scan _ _ _ p => by simp [loop]
  | cons head rest ih =>
    intro i scan hvalid hnodup htracked p
    obtain ⟨hhead, hrest⟩ := List.forall_mem_cons.1 hvalid
    rw [loop_cons hhead]
    -- one round crosses off its path, which is on the list of tracked ones if it is tracked
    have hround : (scan.visit (replies.device i head) head).devicePathsToRemove.Nodup ∧
        (∀ q ∈ (scan.visit (replies.device i head) head).devicePathsToRemove,
          (scan.visit (replies.device i head) head).client.Tracks q) ∧
        ∀ q, q ∈ (scan.visit (replies.device i head) head).devicePathsToRemove ↔
          q ∈ scan.devicePathsToRemove ∧ q ≠ head := by
      have hcases := scan.visit_cases (replies.device i head) head
      generalize scan.visit (replies.device i head) head = mid at hcases ⊢
      have hnew : scan.client.devices[head]? = none → ∀ q, q ∈ scan.devicePathsToRemove ↔
          q ∈ scan.devicePathsToRemove ∧ q ≠ head := by
        intro hnone q
        refine (and_iff_left_of_imp ?_).symm
        rintro hq rfl
        exact htracked q hq hnone
      cases hcases with
      | seen h =>
        refine ⟨hnodup.erase head, fun q hq => htracked q (List.mem_of_mem_erase hq), fun q => ?_⟩
        rw [hnodup.mem_erase_iff, and_comm]
      | added h hmon =>
        refine ⟨hnodup, fun q hq => ?_, hnew h⟩
        have hq' := htracked q hq
        simp only [Tracks, PathMap.getElem?_insert]
        split
        · exact Option.some_ne_none _
        · exact hq'
      | ignored h hmon => exact ⟨hnodup, htracked, hnew h⟩
    obtain ⟨hnodup', htracked', hmem⟩ := hround
    refine (ih (i + 1) _ hrest hnodup' htracked' p).trans ?_
    rw [hmem, List.mem_cons, not_or, and_assoc]

end DeviceScan

/-! ## The handler -/

/-- The devices to track after the list: its valid paths that are tracked already or monitored. -/
def Listed (s : ShillClient) (paths : List ObjectPath) (replies : Replies) (path : ObjectPath) : Prop :=
  path ∈ paths ∧ path.isValid ∧ (s.Tracks path ∨ s.Found replies 0 paths path)

/-- The keys of `devices_` are the same. -/
def SameKeys (s t : ShillClient) : Prop := ∀ path, t.Tracks path ↔ s.Tracks path

/-- The devices of `t` are those of `s`, reconciled with the list. -/
structure ReconciledDevices (s t : ShillClient) (paths : List ObjectPath) (replies : Replies) : Prop where
  keys : ∀ path, t.Tracks path ↔ s.Listed paths replies path
  kept : ∀ (path : ObjectPath) (device : DeviceState), s.devices[path]? = some device → t.Tracks path →
    t.devices[path]? = some device
  added : ∀ path, ¬s.Tracks path → t.Tracks path → t.devices[path]? = some {}

/-- **The devices are reconciled, and a change of their keys is announced.** -/
structure Reconciled (s t : ShillClient) (paths : List ObjectPath) (replies : Replies) : Prop
    extends ReconciledDevices s t paths replies where
  announced : ¬SameKeys s t → t.connectivityState = t.bestServiceState ∧
    t.notifications = s.notifications ++ [t.bestServiceState == .online]
  quiet : SameKeys s t → t.connectivityState = s.connectivityState ∧ t.notifications = s.notifications

/-- The scan the handler starts with. -/
def scanOf (s : ShillClient) : DeviceScan :=
  { client := s, devicePathsToRemove := s.devices.keys, updateConnectivity := false }

theorem onManagerPropertyChange_eq (s : ShillClient) (value : Any) (replies : Replies) :
    s.onManagerPropertyChange shill.kDevicesProperty value replies =
      let r := (DeviceScan.loop replies 0 value.tryGetPaths s.scanOf).2
      if value.tryGetPaths.all ObjectPath.isValid then
        if r.updateConnectivity || !r.devicePathsToRemove.isEmpty then
          (r.client.removeDevices r.devicePathsToRemove).updateConnectivityState
        else r.client.removeDevices r.devicePathsToRemove
      else r.client := by
  unfold onManagerPropertyChange
  rw [if_neg (by simp)]
  dsimp only
  rw [← scanOf, DeviceScan.loop_fst]
  cases value.tryGetPaths.all ObjectPath.isValid <;> rfl

theorem mem_keys_iff (s : ShillClient) (path : ObjectPath) : path ∈ s.devices.keys ↔ s.Tracks path := by
  rw [Std.ExtTreeMap.mem_keys, Std.ExtTreeMap.mem_iff_isSome_getElem?, Option.isSome_iff_ne_none, Tracks]

theorem removeDevices_getElem? (s : ShillClient) (paths : List ObjectPath) (path : ObjectPath) :
    (s.removeDevices paths).devices[path]? = if path ∈ paths then none else s.devices[path]? := by
  unfold removeDevices
  dsimp only
  generalize s.devices = m
  induction paths generalizing m with
  | nil => simp
  | cons head rest ih =>
    rw [List.foldl_cons, ih, PathMap.getElem?_erase]
    by_cases hrest : path ∈ rest
    · simp [hrest]
    · by_cases hhead : head = path
      · simp [hhead]
      · simp [hrest, hhead, Ne.symm hhead]

/-- After the loop the devices are the ones there were, and those it found. -/
theorem loop_tracks (s : ShillClient) {paths : List ObjectPath} (replies : Replies)
    (hvalid : ∀ p ∈ paths, p.isValid) (path : ObjectPath) :
    (DeviceScan.loop replies 0 paths s.scanOf).2.client.Tracks path ↔
      s.Tracks path ∨ s.Found replies 0 paths path := by
  have hscan := DeviceScan.loop_scanned replies paths 0 s.scanOf
  constructor
  · intro h
    by_contra hnot
    obtain ⟨hs, hfound⟩ := not_or.1 hnot
    obtain ⟨device, hdevice⟩ := Option.ne_none_iff_exists'.1 h
    exact hfound (hscan.new path device (not_not.1 hs) hdevice).2.2
  · rintro (hs | hfound)
    · obtain ⟨device, hdevice⟩ := Option.ne_none_iff_exists'.1 hs
      exact Option.ne_none_iff_exists'.2 ⟨device, hscan.kept path device hdevice⟩
    · exact DeviceScan.loop_complete replies paths 0 s.scanOf path hvalid hfound

/-- The devices to remove are the tracked ones that are not in the list. -/
theorem mem_toRemove (s : ShillClient) {paths : List ObjectPath} (replies : Replies)
    (hvalid : ∀ p ∈ paths, p.isValid) (path : ObjectPath) :
    path ∈ (DeviceScan.loop replies 0 paths s.scanOf).2.devicePathsToRemove ↔ s.Tracks path ∧ path ∉ paths := by
  rw [← mem_keys_iff]
  exact DeviceScan.loop_toRemove replies paths 0 s.scanOf hvalid Std.ExtTreeMap.nodup_keys
    (fun p hp => (mem_keys_iff s p).1 hp) path

/-- The devices once those not in the list have been removed. -/
theorem removeDevices_reconciled (s : ShillClient) {paths : List ObjectPath} (replies : Replies)
    (hvalid : ∀ p ∈ paths, p.isValid) :
    let r := (DeviceScan.loop replies 0 paths s.scanOf).2
    ReconciledDevices s (r.client.removeDevices r.devicePathsToRemove) paths replies := by
  intro r
  have hscan : DeviceScan.Scanned replies 0 paths s.scanOf r := DeviceScan.loop_scanned replies paths 0 s.scanOf
  have htracks : ∀ path, r.client.Tracks path ↔ s.Tracks path ∨ s.Found replies 0 paths path :=
    loop_tracks s replies hvalid
  have hremove : ∀ path, path ∈ r.devicePathsToRemove ↔ s.Tracks path ∧ path ∉ paths :=
    mem_toRemove s replies hvalid
  set u := r.client.removeDevices r.devicePathsToRemove with hu
  have hdevices : ∀ path, ¬(s.Tracks path ∧ path ∉ paths) → u.devices[path]? = r.client.devices[path]? := by
    intro path hstays
    rw [hu, removeDevices_getElem?, if_neg fun h => hstays ((hremove path).1 h)]
  have hgone : ∀ path, u.Tracks path → ¬(s.Tracks path ∧ path ∉ paths) := by
    intro path htrack hgone
    rw [Tracks, hu, removeDevices_getElem?, if_pos ((hremove path).2 hgone)] at htrack
    exact htrack rfl
  constructor
  · intro path
    have hmem := @Found.mem s replies 0 paths path
    have hv := hvalid path
    constructor
    · intro htrack
      have hstays := hgone path htrack
      rw [Tracks, hdevices path hstays, ← Tracks, htracks path] at htrack
      unfold Listed
      tauto
    · rintro ⟨hlist, -, h⟩
      rw [Tracks, hdevices path fun h => h.2 hlist, ← Tracks, htracks path]
      exact h
  · intro path device hdevice htrack
    rw [hdevices path (hgone path htrack)]
    exact hscan.kept path device hdevice
  · intro path hnone htrack
    have hstays : ¬(s.Tracks path ∧ path ∉ paths) := fun h => hnone h.1
    rw [Tracks, hdevices path hstays] at htrack
    obtain ⟨device, hdevice⟩ := Option.ne_none_iff_exists'.1 htrack
    rw [hdevices path hstays, hdevice, (hscan.new path device (not_not.1 hnone) hdevice).1]

/-- The flag of the handler says whether the keys change. -/
theorem flag_iff (s : ShillClient) {paths : List ObjectPath} (replies : Replies)
    (hvalid : ∀ p ∈ paths, p.isValid) {u : ShillClient} (hu : ReconciledDevices s u paths replies) :
    let r := (DeviceScan.loop replies 0 paths s.scanOf).2
    (r.updateConnectivity || !r.devicePathsToRemove.isEmpty) = true ↔ ¬SameKeys s u := by
  intro r
  have htracks := loop_tracks s replies hvalid
  have hup : r.updateConnectivity = true ↔ ∃ path, ¬s.Tracks path ∧ s.Found replies 0 paths path := by
    refine (DeviceScan.loop_scanned replies paths 0 s.scanOf).updated.trans ?_
    simp only [htracks, and_or_left]
    simp [scanOf]
  have hremove : r.devicePathsToRemove.isEmpty = false ↔ ∃ path, s.Tracks path ∧ path ∉ paths := by
    rw [List.isEmpty_eq_false_iff_exists_mem]
    exact exists_congr (mem_toRemove s replies hvalid)
  rw [Bool.or_eq_true, Bool.not_eq_true', hup, hremove]
  constructor
  · rintro (⟨path, hnone, hfound⟩ | ⟨path, htrack, hgone⟩) hsame
    · exact hnone ((hsame path).1 ((hu.keys path).2 ⟨hfound.mem, hvalid path hfound.mem, .inr hfound⟩))
    · exact hgone ((hu.keys path).1 ((hsame path).2 htrack)).1
  · intro hchange
    obtain ⟨path, hpath⟩ := not_forall.1 hchange
    rw [hu.keys path] at hpath
    by_cases htrack : s.Tracks path
    · exact .inr ⟨path, htrack, fun hmem => hpath (iff_of_true ⟨hmem, hvalid path hmem, .inl htrack⟩ htrack)⟩
    · refine .inl ⟨path, htrack, ?_⟩
      by_contra hfound
      exact hpath (iff_of_false (fun h => h.2.2.elim htrack hfound) htrack)

theorem reconciled_of_valid (s : ShillClient) (value : Any) (replies : Replies)
    (hvalid : ∀ p ∈ value.tryGetPaths, p.isValid) :
    Reconciled s (s.onManagerPropertyChange shill.kDevicesProperty value replies) value.tryGetPaths replies := by
  rw [onManagerPropertyChange_eq, List.all_eq_true.2 hvalid]
  obtain ⟨hnotes, hconn⟩ := DeviceScan.loop_quiet replies value.tryGetPaths 0 s.scanOf
  have hu := removeDevices_reconciled s replies hvalid
  have hflag := flag_iff s replies hvalid hu
  dsimp only at hu hflag ⊢
  rw [if_pos rfl]
  split
  · rename_i hb
    exact ⟨⟨hu.keys, hu.kept, hu.added⟩, fun _ => ⟨rfl, congrArg (· ++ _) hnotes⟩, fun h => absurd h (hflag.1 hb)⟩
  · rename_i hb
    exact ⟨hu, fun h => absurd (hflag.2 h) hb, fun _ => ⟨hconn, hnotes⟩⟩

/-- A list with an invalid path is reconciled only if there is nothing to change: the handler
returns from the middle of its loop. -/
theorem reconciled_of_invalid (s : ShillClient) (value : Any) (replies : Replies)
    (hvalid : ¬∀ p ∈ value.tryGetPaths, p.isValid) :
    Reconciled s (s.onManagerPropertyChange shill.kDevicesProperty value replies) value.tryGetPaths replies ↔
      ∀ path, s.Tracks path ↔ s.Listed value.tryGetPaths replies path := by
  rw [onManagerPropertyChange_eq, Bool.eq_false_iff.2 fun h => hvalid (List.all_eq_true.1 h)]
  obtain ⟨hnotes, hconn⟩ := DeviceScan.loop_quiet replies value.tryGetPaths 0 s.scanOf
  have hscan := DeviceScan.loop_scanned replies value.tryGetPaths 0 s.scanOf
  simp only [Bool.false_eq_true, if_false]
  set t := (DeviceScan.loop replies 0 value.tryGetPaths s.scanOf).2.client
  constructor
  · intro h
    have hsame : SameKeys s t := by
      by_contra hchange
      have hann := (h.announced hchange).2
      rw [hnotes] at hann
      exact List.cons_ne_nil _ _ (List.self_eq_append_right.1 hann)
    exact fun path => (hsame path).symm.trans (h.keys path)
  · intro hkeys
    -- whatever the loop finds is tracked already
    have hdevices : ∀ path : ObjectPath, t.devices[path]? = s.devices[path]? := by
      intro path
      cases hs : s.devices[path]? with
      | some device => exact hscan.kept path device hs
      | none =>
        by_contra htrack
        obtain ⟨device, hdevice⟩ := Option.ne_none_iff_exists'.1 htrack
        obtain ⟨-, hv, hfound⟩ := hscan.new path device hs hdevice
        exact (hkeys path).2 ⟨hfound.mem, hv, .inr hfound⟩ hs
    have hsame : SameKeys s t := by
      intro path
      rw [Tracks, hdevices, Tracks]
    refine ⟨⟨fun path => (hsame path).trans (hkeys path), ?_, ?_⟩, fun h => absurd hsame h, fun _ => ⟨hconn, hnotes⟩⟩
    · exact fun path device hdevice _ => (hdevices path).trans hdevice
    · exact fun path hnone htrack => absurd ((hsame path).1 htrack) hnone

/-- **When a device list is reconciled.** -/
theorem reconciled_iff (s : ShillClient) (value : Any) (replies : Replies) :
    Reconciled s (s.onManagerPropertyChange shill.kDevicesProperty value replies) value.tryGetPaths replies ↔
      (∀ path ∈ value.tryGetPaths, path.isValid) ∨
        ∀ path, s.Tracks path ↔ s.Listed value.tryGetPaths replies path := by
  by_cases hvalid : ∀ path ∈ value.tryGetPaths, path.isValid
  · exact iff_of_true (reconciled_of_valid s value replies hvalid) (.inl hvalid)
  · exact (reconciled_of_invalid s value replies hvalid).trans (or_iff_right hvalid).symm

/-- An invalid path hides the device behind it. -/
theorem invalid_path_hides :
    ¬∀ (s : ShillClient) (value : Any) (replies : Replies), machine.Reach s →
      Reconciled s (s.onManagerPropertyChange shill.kDevicesProperty value replies) value.tryGetPaths replies := by
  intro hall
  have h := hall idleClient (.paths [⟨""⟩, lanDevice]) {} (.start idleClient_start)
  have hnone : ¬Tracks (idleClient.onManagerPropertyChange shill.kDevicesProperty
      (.paths [⟨""⟩, lanDevice]) {}) lanDevice := not_not.2 rfl
  have hvalid : lanDevice.isValid := by decide +kernel
  exact hnone ((h.keys lanDevice).2 ⟨by simp [Any.tryGetPaths], hvalid, .inr ⟨1, rfl, rfl⟩⟩)

end ShillClient

end SystemWeaved
