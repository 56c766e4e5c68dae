import SystemWeaved.Proof.Attempts

/-!
# The signals of the selected services

A selected service is watched if its last registration has not been released since
(`live`). Only `CleanupConnectingService` releases, and it releases the service of the
attempt whether a device has selected it or not.

* `Watches`: what every other function does: nothing is released, and what the client
  follows from now on it followed before, or has just registered.
* `selected_watched`: in every run in which no attempt ends on a selected path, or its
  callback connects to that path again, every selected service is watched.
* `ending_unwatched`: every other end of an attempt leaves a selected service unwatched.
* `online_unwatched`: the usual order of connecting ends on a selected path.
-/

namespace SystemWeaved

/-- The last of the registrations and releases of a path was a registration. -/
def live (path : ObjectPath) : List Effect → Bool
  | [] => false
  | .registerService p :: log => p == path || live path log
  | .releaseService p :: log => p != path && live path log
  | _ :: log => live path log

/-- The effects that release nothing. -/
def Effect.isRelease : Effect → Bool
  | .releaseService _ => true
  | _ => false

theorem live_cons {e : Effect} {path : ObjectPath} {log : List Effect} (he : e.isRelease = false)
    (h : live path log) : live path (e :: log) := by
  cases e <;> simp_all [live, Effect.isRelease]

theorem live_append {path : ObjectPath} {log : List Effect} (h : live path log) (new : List Effect)
    (hnew : ∀ e ∈ new, e.isRelease = false) : live path (new ++ log) := by
  induction new with
  | nil => exact h
  | cons e es ih =>
    obtain ⟨he, hes⟩ := List.forall_mem_cons.1 hnew
    exact live_cons he (ih hes)

namespace ShillClient

variable {s t u : ShillClient}

/-- A device has selected the service. -/
def Selects (m : PathMap DeviceState) (service : ServiceProxy) : Prop :=
  ∃ (path : ObjectPath) (device : DeviceState), m[path]? = some device ∧ device.selectedService = some service

/-- The services whose signals the client relies on. -/
def Follows (s : ShillClient) (service : ServiceProxy) : Prop :=
  Selects s.devices service ∨ s.connectingService = some service

/-- The signals of every service of a device are watched. -/
def Watched (s : ShillClient) : Prop :=
  ∀ (path : ObjectPath) (device : DeviceState) (service : ServiceProxy),
    s.devices[path]? = some device → device.selectedService = some service → live service.path s.log

/-- All services the client relies on are watched, up to those at a path in `except`. -/
def Followed (except : ObjectPath → Prop) (s : ShillClient) : Prop :=
  ∀ service, Follows s service → except service.path ∨ live service.path s.log

/-- Nothing is released, and what is followed was followed before or has been registered. -/
structure Watches (s t : ShillClient) : Prop where
  live : ∀ path, live path s.log → live path t.log
  follows : ∀ service, Follows t service → Follows s service ∨ SystemWeaved.live service.path t.log

theorem Watches.refl (s : ShillClient) : Watches s s := ⟨fun _ => id, fun _ => .inl⟩

theorem Watches.trans (h : Watches s t) (h' : Watches t u) : Watches s u where
  live path hs := h'.live path (h.live path hs)
  follows service hu := by
    rcases h'.follows service hu with ht | hlive
    · exact (h.follows service ht).imp id (h'.live service.path)
    · exact .inr hlive

theorem Watches.followed {except : ObjectPath → Prop} (h : Watches s t) (hs : Followed except s) :
    Followed except t := by
  intro service ht
  rcases h.follows service ht with hf | hlive
  · exact (hs service hf).imp id (h.live service.path)
  · exact .inr hlive

/-- The log grows without releases, and nothing else that matters here changes. -/
theorem Watches.of_log (new : List Effect) (hlog : t.log = new ++ s.log) (hnew : ∀ e ∈ new, e.isRelease = false)
    (hdevices : t.devices = s.devices) (hservice : t.connectingService = s.connectingService) :
    Watches s t where
  live path h := by
    rw [hlog]
    exact live_append h new hnew
  follows service h := by
    rw [Follows, hdevices, hservice] at h
    exact .inl h

/-- Neither the registrations nor what the client follows change. -/
structure Quiet (s t : ShillClient) : Prop where
  live : ∀ path, SystemWeaved.live path t.log = SystemWeaved.live path s.log
  devices : t.devices = s.devices
  service : t.connectingService = s.connectingService

theorem Quiet.refl (s : ShillClient) : Quiet s s := ⟨fun _ => rfl, rfl, rfl⟩

theorem Quiet.watches (h : Quiet s t) : Watches s t where
  live path hs := by rwa [h.live path]
  follows service hf := by
    rw [Follows, h.devices, h.service] at hf
    exact .inl hf

theorem Selects.of_insert {m : PathMap DeviceState} {path : ObjectPath} {device : DeviceState}
    {service : ServiceProxy} (h : Selects (m.insert path device) service) :
    Selects m service ∨ device.selectedService = some service := by
  obtain ⟨a, d, had, hd⟩ := h
  rw [PathMap.getElem?_insert] at had
  split at had
  · cases had
    exact .inr hd
  · exact .inl ⟨a, d, had, hd⟩

/-! ## What all functions but the cleanup do -/

theorem isRelease_of_isQuery (x : Effect) (h : x.isQuery) : x.isRelease = false := by
  cases x <;> simp_all [Effect.isQuery, Effect.isRelease]

theorem connect_watches (s : ShillClient) (c : ConnectCall) : Watches s (s.connect c) := by
  have h := connect_cases s c
  generalize s.connect c = t at h ⊢
  cases h with
  | busy _ => exact .of_log [.postDone _ _] rfl (by simp [Effect.isRelease]) rfl rfl
  | failed hidle queries hq e _ =>
    refine .of_log (.postDone s.calls (convertError e none) :: queries) rfl ?_ rfl rfl
    exact List.forall_mem_cons.2 ⟨rfl, fun x hx => isRelease_of_isQuery x (hq x hx)⟩
  | began hidle queries hq path _ =>
    have hlive : ∀ p, live p s.log → live p ((s.asked queries).beginAttempt s.calls path).log := by
      intro p hp
      have hask := live_append hp queries fun x hx => isRelease_of_isQuery x (hq x hx)
      exact live_append hask [_, _, _] (by simp [Effect.isRelease])
    refine ⟨hlive, fun service hf => ?_⟩
    rcases hf with hsel | hconn
    · exact .inl (.inl hsel)
    · cases hconn
      right
      simp [beginAttempt, live]

theorem foldl_connect_watches (reentry : List ConnectCall) : ∀ s, Watches s (reentry.foldl connect s) := by
  induction reentry with
  | nil => exact Watches.refl
  | cons c cs ih => exact fun s => (connect_watches s c).trans (ih _)

theorem onStrengthChangeForConnectingService_quiet (s : ShillClient) (strength : UInt8) :
    Quiet s (s.onStrengthChangeForConnectingService strength) := by
  unfold onStrengthChangeForConnectingService
  split
  · exact Quiet.refl s
  · cases hs : s.connectingService with
    | none => exact ⟨fun _ => rfl, rfl, hs.symm⟩
    | some service => exact ⟨fun _ => rfl, rfl, hs.symm⟩

/-- A state is written to a device; its selection stays. -/
theorem onStateChangeForSelectedService_selects {path : ObjectPath} {state : String} {service : ServiceProxy} :
    Selects (s.onStateChangeForSelectedService path state).devices service ↔ Selects s.devices service := by
  unfold onStateChangeForSelectedService
  cases hsel : s.deviceSelecting path with
  | none => exact Iff.rfl
  | some kv =>
    have hdevice : s.devices[kv.1]? = some kv.2 := (PathMap.mem_toList _).1 (List.mem_of_find?_eq_some hsel)
    constructor
    · intro h
      rcases Selects.of_insert h with h | h
      · exact h
      · exact ⟨kv.1, kv.2, hdevice, h⟩
    · rintro ⟨a, d, had, hd⟩
      by_cases ha : kv.1 = a
      · subst ha
        rw [hdevice, Option.some.injEq] at had
        exact ⟨kv.1, _, (PathMap.getElem?_insert ..).trans (if_pos rfl), had ▸ hd⟩
      · exact ⟨a, d, (PathMap.getElem?_insert ..).trans ((if_neg ha).trans had), hd⟩

theorem onStateChangeForSelectedService_watches (s : ShillClient) (path : ObjectPath) (state : String) :
    Watches s (s.onStateChangeForSelectedService path state) := by
  have hlog : (s.onStateChangeForSelectedService path state).log = s.log := by
    unfold onStateChangeForSelectedService
    cases s.deviceSelecting path <;> rfl
  refine ⟨fun p hp => by rwa [hlog], fun service hf => .inl ?_⟩
  rcases hf with hsel | hconn
  · exact .inl (onStateChangeForSelectedService_selects.1 hsel)
  · exact .inr ((onStateChangeForSelectedService_sameAttempt s path state).service ▸ hconn)

theorem updateConnectivityState_watches (s : ShillClient) : Watches s s.updateConnectivityState :=
  .of_log [] rfl (by simp) rfl rfl

theorem selectService_watches (s : ShillClient) (path : ObjectPath) {device : DeviceState}
    (servicePath : ObjectPath) (replies : Replies) (hnone : device.selectedService = none) :
    Watches s (s.selectService path device servicePath replies) := by
  unfold selectService
  split
  · -- the device takes over the connecting service, which is followed already
    refine ⟨fun _ => id, fun service hf => .inl ?_⟩
    rcases hf with hsel | hconn
    · exact (Selects.of_insert hsel).imp id id
    · exact .inr hconn
  · split
    · refine ⟨fun p hp => live_cons rfl hp, fun service hf => ?_⟩
      rcases hf with hsel | hconn
      · rcases Selects.of_insert hsel with hsel | hnew
        · exact .inl (.inl hsel)
        · cases hnew
          right
          simp [live]
      · exact .inl (.inr hconn)
    · refine ⟨fun _ => id, fun service hf => .inl ?_⟩
      rcases hf with hsel | hconn
      · rcases Selects.of_insert hsel with hsel | hnew
        · exact .inl hsel
        · simp [hnone] at hnew
      · exact .inr hconn

theorem getElem?_foldl_erase {m : PathMap DeviceState} {a : ObjectPath} {d : DeviceState}
    (paths : List ObjectPath) (h : (paths.foldl (fun devices path => devices.erase path) m)[a]? = some d) :
    m[a]? = some d := by
  induction paths generalizing m with
  | nil => exact h
  | cons path paths ih =>
    have herase := ih h
    rw [PathMap.getElem?_erase] at herase
    split at herase
    · cases herase
    · exact herase

theorem removeDevices_watches (s : ShillClient) (paths : List ObjectPath) : Watches s (s.removeDevices paths) := by
  refine ⟨fun _ => id, fun service hf => .inl ?_⟩
  rcases hf with ⟨a, d, had, hd⟩ | hconn
  · exact .inl ⟨a, d, getElem?_foldl_erase paths had, hd⟩
  · exact .inr hconn

theorem DeviceMove.watches (h : DeviceMove s t) : Watches s t := by
  cases h with
  | added path _ =>
    refine ⟨fun p hp => live_cons rfl hp, fun service hf => .inl ?_⟩
    rcases hf with hsel | hconn
    · rcases Selects.of_insert hsel with hsel | hnew
      · exact .inl hsel
      · cases hnew
    · exact .inr hconn
  | selected path device servicePath replies _ hnone _ => exact selectService_watches s path servicePath replies hnone
  | reselected path device servicePath replies hdevice =>
    have hnone : device.selectedService = none := by
      rcases hdevice with ⟨-, hnone⟩ | rfl
      · exact hnone
      · rfl
    exact (selectService_watches s path servicePath replies hnone).trans (updateConnectivityState_watches _)
  | removed paths => exact (removeDevices_watches s paths).trans (updateConnectivityState_watches _)

theorem DeviceMoves.watches (h : DeviceMoves s t) : Watches s t := by
  induction h with
  | refl => exact Watches.refl s
  | tail _ hm ih => exact ih.trans (DeviceMove.watches hm)

theorem notifyConnectivityListeners_watches (h : s.notifyConnectivityListeners = some t) : Watches s t := by
  unfold notifyConnectivityListeners at h
  split at h <;> cases h
  exact .of_log _ rfl (by simp [Effect.isRelease]) rfl rfl

/-! ## The end of an attempt -/

theorem live_queries {queries : List Effect} (hq : ∀ x ∈ queries, x.isQuery) (path : ObjectPath)
    (log : List Effect) : live path (queries ++ log) = live path log := by
  induction queries with
  | nil => rfl
  | cons x xs ih =>
    obtain ⟨hx, hxs⟩ := List.forall_mem_cons.1 hq
    cases x <;> simp_all [live, Effect.isQuery]

/-- Calls of `Connect` during an attempt are refused. -/
theorem foldl_connect_busy (reentry : List ConnectCall) (path : ObjectPath)
    (hbusy : s.connectingService.isSome) :
    live path (reentry.foldl connect s).log = live path s.log := by
  induction reentry generalizing s with
  | nil => rfl
  | cons c cs ih =>
    have hc := connect_cases s c
    rw [List.foldl_cons]
    generalize s.connect c = t at hc ⊢
    cases hc with
    | busy _ => exact ih hbusy
    | failed hidle _ _ _ _ => simp [hidle] at hbusy
    | began hidle _ _ _ _ => simp [hidle] at hbusy

/-- Between attempts, the calls of `Connect` register the path of the first accepted one. -/
theorem foldl_connect_live (reentry : List ConnectCall) (path : ObjectPath)
    (hidle : s.connectingService = none) :
    live path (reentry.foldl connect s).log ↔
      live path s.log ∨ reentry.findSome? ConnectCall.accepted = some path := by
  induction reentry generalizing s with
  | nil => simp
  | cons c cs ih =>
    have hc := connect_cases s c
    rw [List.foldl_cons]
    generalize s.connect c = t at hc ⊢
    cases hc with
    | busy hbusy => simp [hidle] at hbusy
    | failed _ queries hq e haccepted =>
      have hask : live path ((s.asked queries).emit (.postDone s.calls (convertError e none))).log =
          live path s.log := live_queries hq path s.log
      rw [ih (by exact hidle), hask, List.findSome?_cons, haccepted]
    | began _ queries hq p haccepted =>
      -- the rest of the calls find the client busy
      rw [foldl_connect_busy cs path rfl, List.findSome?_cons, haccepted]
      simp only [beginAttempt, asked, live, live_queries hq, Bool.or_eq_true, beq_iff_eq,
        Option.some.injEq]
      exact Or.comm

/-- A device has selected a service at the path. -/
def SelectedPath (s : ShillClient) (path : ObjectPath) : Prop :=
  ∃ service, Selects s.devices service ∧ service.path = path

/-- The client relies on no service that is not watched. -/
abbrev AllFollowed (s : ShillClient) : Prop := Followed (fun _ => False) s

/-- The cleanup unwatches the path of the attempt, and no other. -/
theorem cleanup_followed {service : ServiceProxy} (hs : AllFollowed s)
    (hservice : s.connectingService = some service) :
    Followed (· = service.path) s.cleanupConnectingService := by
  have hlog : s.cleanupConnectingService.log = .releaseService service.path :: s.log := by
    rw [cleanup_log, hservice]
    rfl
  intro x hx
  rcases hx with hsel | hconn
  · by_cases hpath : x.path = service.path
    · exact .inl hpath
    · right
      rw [hlog]
      simpa [live, Ne.symm hpath] using hs x (.inl hsel)
  · cases hconn

theorem cleanup_allFollowed {service : ServiceProxy} (hs : AllFollowed s)
    (hservice : s.connectingService = some service) (hfree : ¬SelectedPath s service.path) :
    AllFollowed s.cleanupConnectingService := by
  intro x hx
  refine .inr ((cleanup_followed hs hservice x hx).resolve_left fun hpath => ?_)
  rcases hx with hsel | hconn
  · exact hfree ⟨x, hsel, hpath⟩
  · cases hconn

/-- An attempt ends well if no device has selected its path, or the callback connects to
that path again. -/
theorem finish_allFollowed {service : ServiceProxy} {error : ErrorPtr WeaveError}
    {reentry : List ConnectCall} (hs : AllFollowed s) (hservice : s.connectingService = some service)
    (hcallback : s.connectDoneCallback ≠ none)
    (hkeep : SelectedPath s service.path → reentry.findSome? ConnectCall.accepted = some service.path) :
    AllFollowed (s.finish error reentry) := by
  obtain ⟨k, hk⟩ := Option.ne_none_iff_exists'.1 hcallback
  simp only [finish, runDone, hk]
  set u := s.cleanupConnectingService.emit (.runDone k error) with hu
  have hemit : Watches s.cleanupConnectingService u :=
    .of_log [.runDone k error] rfl (by simp [Effect.isRelease]) rfl rfl
  have hfollowed := (foldl_connect_watches reentry u).followed (hemit.followed (cleanup_followed hs hservice))
  intro x hx
  right
  rcases hfollowed x hx with hpath | hlive
  · -- a service at the path of the attempt
    rcases (foldl_connect_watches reentry u).follows x hx with (hsel | hconn) | hlive
    · rw [foldl_connect_live reentry _ rfl, hpath]
      exact .inr (hkeep ⟨x, hsel, hpath⟩)
    · cases hconn
    · exact hlive
  · exact hlive

/-- A state that ends the attempt. -/
abbrev FinalState (state : String) : Prop :=
  shillServiceStateToNetworkState state = .online ∨ shillServiceStateToNetworkState state = .error

theorem onStateChangeForConnectingService_allFollowed {service : ServiceProxy} (state : String)
    {reentry : List ConnectCall} (hs : AllFollowed s) (hservice : s.connectingService = some service)
    (hcallback : s.connectDoneCallback ≠ none)
    (hkeep : FinalState state → SelectedPath s service.path →
      reentry.findSome? ConnectCall.accepted = some service.path) :
    AllFollowed (s.onStateChangeForConnectingService state reentry) := by
  rw [onStateChangeForConnectingService_eq]
  cases hstate : shillServiceStateToNetworkState state with
  | online => exact finish_allFollowed hs hservice hcallback (hkeep (.inl hstate))
  | error =>
    dsimp only
    rw [if_neg hcallback]
    exact finish_allFollowed hs hservice hcallback (hkeep (.inr hstate))
  | offline => exact hs
  | connecting => exact hs

/-- The signals of other properties than the state end no attempt. -/
theorem onServicePropertyChange_quiet (s : ShillClient) (path : ObjectPath) {name : String} (value : Any)
    (reentry : List ConnectCall) (hname : name ≠ shill.kStateProperty) :
    Quiet s (s.onServicePropertyChange path name value reentry) := by
  unfold onServicePropertyChange
  dsimp only
  rw [if_neg hname]
  split
  · split
    · exact onStrengthChangeForConnectingService_quiet s _
    · exact Quiet.refl s
  · split
    · split
      · exact ⟨fun _ => rfl, rfl, rfl⟩
      · exact Quiet.refl s
    · exact Quiet.refl s

theorem replayProperty_quiet (s : ShillClient) (path : ObjectPath) (properties : VariantDictionary)
    (reentry : List ConnectCall) {name : String} (hname : name ≠ shill.kStateProperty) :
    Quiet s (s.replayProperty path properties reentry name) := by
  unfold replayProperty
  cases properties name with
  | none => exact Quiet.refl s
  | some value => exact onServicePropertyChange_quiet s path value reentry hname

/-- A state of the service does, unless it is kept. -/
theorem onServicePropertyChange_allFollowed {path : ObjectPath} {name : String} {value : Any}
    {reentry : List ConnectCall} (hs : AllFollowed s) (hlinked : Linked s)
    (hkeep : name = shill.kStateProperty → s.isConnecting path → FinalState value.tryGetString →
      SelectedPath s path → reentry.findSome? ConnectCall.accepted = some path) :
    AllFollowed (s.onServicePropertyChange path name value reentry) := by
  by_cases hname : name = shill.kStateProperty
  · have hsame := onStateChangeForSelectedService_sameAttempt s path value.tryGetString
    have hsel := (onStateChangeForSelectedService_watches s path value.tryGetString).followed hs
    unfold onServicePropertyChange
    dsimp only
    rw [if_pos hname]
    split
    · exact hs
    · split
      · rename_i hconn
        obtain ⟨id, hservice⟩ := (isConnecting_iff s path).1 hconn
        obtain ⟨k, -, hk⟩ := hlinked.current hservice
        refine onStateChangeForConnectingService_allFollowed _ hsel (hsame.service.trans hservice) ?_ ?_
        · rw [hsame.callback, hk]
          simp
        · rintro hends ⟨x, hx, hpath⟩
          exact hkeep hname hconn hends ⟨x, onStateChangeForSelectedService_selects.1 hx, hpath⟩
      · exact hsel
  · exact (onServicePropertyChange_quiet s path value reentry hname).watches.followed hs

/-! ## Runs -/

/-- The calls of `Connect` made by the done callback, if the event runs it. -/
def Event.reentry : Event → List ConnectCall
  | .serviceRegistration _ true _ reentry | .serviceProperty _ _ _ reentry | .timeout _ reentry => reentry
  | _ => []

/-- The event ends the attempt: the registration of its service fails, its time is over, or
its service is online or in error. -/
def EndsAttempt (s : ShillClient) : Event → Prop
  | .serviceRegistration path false _ _ => s.isConnecting path
  | .timeout service _ => s.connectingService = some service
  | e => ∃ path state, e.serviceState = some (path, state) ∧ s.isConnecting path ∧
      (shillServiceStateToNetworkState state = .online ∨ shillServiceStateToNetworkState state = .error)

/-- An attempt that the event ends is not at the path of a selected service, or its done
callback connects to that path again. -/
def KeepsWatch (s : ShillClient) (e : Event) : Prop :=
  EndsAttempt s e → ∀ service, s.connectingService = some service → SelectedPath s service.path →
    e.reentry.findSome? ConnectCall.accepted = some service.path

theorem onServicePropertyChangeRegistration_allFollowed {path : ObjectPath} {success : Bool}
    {replies : Replies} {reentry : List ConnectCall} (hs : AllFollowed s) (hlinked : Linked s)
    (hkeep : KeepsWatch s (.serviceRegistration path success replies reentry)) :
    AllFollowed (s.onServicePropertyChangeRegistration path success replies reentry) := by
  have hcases := registration_cases s path success replies reentry
  generalize s.onServicePropertyChangeRegistration path success replies reentry = t at hcases ⊢
  cases hcases with
  | failed hconn =>
    obtain ⟨id, hservice⟩ := (isConnecting_iff s path).1 hconn
    -- no callback is run here, so nothing can connect to the path again
    refine cleanup_allFollowed hs hservice fun hsel => ?_
    have := hkeep hconn _ hservice hsel
    simp [Event.reentry] at this
  | ignored => exact hs
  | @replayed properties hprops =>
    -- only the state, which is replayed first, can end the attempt
    have hstate : AllFollowed (s.replayProperty path properties reentry shill.kStateProperty) := by
      unfold replayProperty
      cases hvalue : properties shill.kStateProperty with
      | none => exact hs
      | some value =>
        refine onServicePropertyChange_allFollowed hs hlinked fun _ hconn hends hsel => ?_
        obtain ⟨id, hservice⟩ := (isConnecting_iff s path).1 hconn
        exact hkeep ⟨path, value.tryGetString, by simp [Event.serviceState, hprops, hvalue], hconn, hends⟩
          _ hservice hsel
    have hstrength := (replayProperty_quiet _ path properties reentry
      (by decide : shill.kSignalStrengthProperty ≠ _)).watches.followed hstate
    exact (replayProperty_quiet _ path properties reentry
      (by decide : shill.kErrorProperty ≠ _)).watches.followed hstrength

theorem reset_allFollowed (s : ShillClient) : AllFollowed s.reset := by
  rintro service (⟨path, device, h, -⟩ | h)
  · have hempty : s.reset.devices[path]? = none := Std.ExtTreeMap.getElem?_empty
    rw [hempty] at h
    cases h
  · cases h

theorem next_allFollowed {e : Event} (hs : AllFollowed s) (hlinked : Linked s) (hkeep : KeepsWatch s e)
    (h : s.next e = some t) : AllFollowed t := by
  cases e with
  | connect c => cases h; exact (connect_watches s c).followed hs
  | addConnectionChangedCallback l => cases h; exact Watches.followed (.of_log [] rfl (by simp) rfl rfl) hs
  | ownerChange newOwner replies =>
    exact (onShillServiceOwnerChange_reset h).watches.followed (reset_allFollowed s)
  | serviceRegistration path success replies reentry =>
    cases h
    exact onServicePropertyChangeRegistration_allFollowed hs hlinked hkeep
  | serviceProperty path name value reentry =>
    cases h
    refine onServicePropertyChange_allFollowed hs hlinked fun hname hconn hends hsel => ?_
    obtain ⟨id, hservice⟩ := (isConnecting_iff s path).1 hconn
    exact hkeep ⟨path, value.tryGetString, by simp [Event.serviceState, hname], hconn, hends⟩ _ hservice hsel
  | timeout service reentry =>
    obtain ⟨-, rfl⟩ := timeout_next h
    have hqueue : AllFollowed { s with timeouts := s.timeouts.erase service } :=
      Watches.followed (.of_log [] rfl (by simp) rfl rfl) hs
    rw [connectToServiceError_eq]
    split
    · exact hqueue
    · rename_i hcur
      obtain ⟨hservice, hcallback⟩ := not_or.1 hcur
      rw [ne_eq, not_not] at hservice
      exact finish_allFollowed hqueue hservice.symm hcallback (hkeep hservice.symm _ hservice.symm)
  | notify => exact (notifyConnectivityListeners_watches h).followed hs
  | _ => exact (next_deviceMoves rfl h).watches.followed hs

theorem AllFollowed.watched (hs : AllFollowed s) : Watched s := by
  intro path device service hdevice hservice
  exact (hs service (.inl ⟨path, device, hdevice, hservice⟩)).resolve_left id

/-- **A selected service is watched**, in every run in which no attempt ends at the path of
a selected service, or its done callback connects to that path again. -/
theorem selected_watched (h : machine.ReachIf KeepsWatch s) : Watched s := by
  refine AllFollowed.watched (Machine.ReachIf.invariant ?_ ?_ h)
  · rintro s ⟨deviceWhitelist, replies, hs⟩
    exact (onManagerProperties_moves hs).watches.followed (reset_allFollowed _)
  · intro s e t hr ih hg hn
    exact next_allFollowed ih (reach_attemptInv hr.reach).linked hg hn

/-! ## Where a watch is lost -/

/-- A device has selected a service at the path, and its signals are not watched. -/
def Lost (path : ObjectPath) (s : ShillClient) : Prop := SelectedPath s path ∧ ¬live path s.log

theorem Lost.not_watched {path : ObjectPath} (h : Lost path s) : ¬Watched s := by
  obtain ⟨⟨service, ⟨a, device, hdevice, hservice⟩, rfl⟩, hdead⟩ := h
  exact fun hall => hdead (hall a device service hdevice hservice)

theorem Quiet.lost {path : ObjectPath} (h : Quiet s t) (hs : Lost path s) : Lost path t := by
  obtain ⟨⟨service, hsel, hpath⟩, hdead⟩ := hs
  exact ⟨⟨service, h.devices ▸ hsel, hpath⟩, by rwa [h.live path]⟩

theorem cleanup_dead {service : ServiceProxy} (hservice : s.connectingService = some service) :
    ¬live service.path s.cleanupConnectingService.log := by
  rw [cleanup_log, hservice]
  simp [live]

theorem cleanup_lost {service : ServiceProxy} (hservice : s.connectingService = some service)
    (hsel : SelectedPath s service.path) : Lost service.path s.cleanupConnectingService :=
  ⟨hsel, cleanup_dead hservice⟩

/-- The end of an attempt releases its path; only its callback can register it again. -/
theorem finish_lost {service : ServiceProxy} {error : ErrorPtr WeaveError} {reentry : List ConnectCall}
    (hservice : s.connectingService = some service) (hcallback : s.connectDoneCallback ≠ none)
    (hsel : SelectedPath s service.path) (hreentry : reentry.findSome? ConnectCall.accepted ≠ some service.path) :
    Lost service.path (s.finish error reentry) := by
  refine ⟨?_, ?_⟩
  · obtain ⟨x, hx, hpath⟩ := hsel
    exact ⟨x, (finish_sameNetwork s error reentry).devices ▸ hx, hpath⟩
  · obtain ⟨k, hk⟩ := Option.ne_none_iff_exists'.1 hcallback
    simp only [finish, runDone, hk]
    rw [foldl_connect_live reentry _ rfl]
    rintro (hlive | haccepted)
    · exact cleanup_dead hservice hlive
    · exact hreentry haccepted

theorem onStateChangeForConnectingService_lost {service : ServiceProxy} {state : String}
    {reentry : List ConnectCall} (hservice : s.connectingService = some service)
    (hcallback : s.connectDoneCallback ≠ none) (hsel : SelectedPath s service.path) (hstate : FinalState state)
    (hreentry : reentry.findSome? ConnectCall.accepted ≠ some service.path) :
    Lost service.path (s.onStateChangeForConnectingService state reentry) := by
  rw [onStateChangeForConnectingService_eq]
  rcases hstate with hstate | hstate
  · rw [hstate]
    exact finish_lost hservice hcallback hsel hreentry
  · rw [hstate]
    dsimp only
    rw [if_neg hcallback]
    exact finish_lost hservice hcallback hsel hreentry

theorem onServicePropertyChange_lost {service : ServiceProxy} {value : Any} {reentry : List ConnectCall}
    (hlinked : Linked s) (hservice : s.connectingService = some service) (hsel : SelectedPath s service.path)
    (hstate : FinalState value.tryGetString)
    (hreentry : reentry.findSome? ConnectCall.accepted ≠ some service.path) :
    Lost service.path (s.onServicePropertyChange service.path shill.kStateProperty value reentry) := by
  have hconn : s.isConnecting service.path := by simp [isConnecting, hservice]
  have hne : value.tryGetString ≠ "" := by
    intro hempty
    rw [hempty] at hstate
    revert hstate
    decide
  have hsame := onStateChangeForSelectedService_sameAttempt s service.path value.tryGetString
  obtain ⟨k, -, hk⟩ := hlinked.current hservice
  obtain ⟨x, hx, hpath⟩ := hsel
  unfold onServicePropertyChange
  dsimp only
  rw [if_pos rfl, if_neg hne, if_pos hconn]
  refine onStateChangeForConnectingService_lost (hsame.service.trans hservice) ?_ ?_ hstate hreentry
  · rw [hsame.callback, hk]
    simp
  · exact ⟨x, onStateChangeForSelectedService_selects.2 hx, hpath⟩

/-- An event that tells a final state of the connecting service leaves its path released. -/
theorem next_lost {e : Event} {path : ObjectPath} {state : String} {service : ServiceProxy} (hlinked : Linked s)
    (hn : s.next e = some t) (hstate : e.serviceState = some (path, state)) (hconn : s.isConnecting path)
    (hends : FinalState state) (hservice : s.connectingService = some service)
    (hsel : SelectedPath s service.path)
    (hreentry : e.reentry.findSome? ConnectCall.accepted ≠ some service.path) : Lost service.path t := by
  obtain ⟨id, hcur⟩ := (isConnecting_iff s path).1 hconn
  rw [hservice, Option.some.injEq] at hcur
  subst hcur
  cases e with
  | serviceProperty p name value reentry =>
    simp only [Event.serviceState] at hstate
    split at hstate
    · rename_i hname
      cases hstate
      cases hn
      rw [hname]
      exact onServicePropertyChange_lost hlinked hservice hsel hends hreentry
    · cases hstate
  | serviceRegistration p success replies reentry =>
    cases success with
    | false => cases hstate
    | true =>
      obtain ⟨properties, hprops, htold⟩ := Option.bind_eq_some_iff.1 hstate
      obtain ⟨value, hvalue, heq⟩ := Option.map_eq_some_iff.1 htold
      cases heq
      cases hn
      have hlost := onServicePropertyChange_lost hlinked hservice hsel hends hreentry
      simp only [onServicePropertyChangeRegistration, hconn, hprops, Bool.not_true, Bool.and_false,
        Bool.false_eq_true, if_false, Bool.true_or, Bool.or_false, List.foldl_cons, List.foldl_nil]
      -- the state is replayed first, and the other two properties change no registration
      refine (replayProperty_quiet _ _ properties reentry (by decide)).lost
        ((replayProperty_quiet _ _ properties reentry (by decide)).lost ?_)
      rwa [replayProperty, hvalue]
  | _ => cases hstate

/-- **The condition is exact**: an attempt that ends on a selected path, while its callback
does not connect to that path again, leaves a selected service unwatched. -/
theorem ending_unwatched {e : Event} (h : machine.Reach s) (hn : s.next e = some t) (hkeep : ¬KeepsWatch s e) :
    ¬Watched t := by
  have hlinked := (reach_attemptInv h).linked
  simp only [KeepsWatch, not_forall] at hkeep
  obtain ⟨hends, service, hservice, hsel, hreentry⟩ := hkeep
  suffices hlost : Lost service.path t from hlost.not_watched
  cases e with
  | timeout p reentry =>
    rw [EndsAttempt, hservice, Option.some.injEq] at hends
    subst hends
    obtain ⟨k, -, hk⟩ := hlinked.current hservice
    obtain ⟨-, rfl⟩ := timeout_next hn
    rw [connectToServiceError_eq, if_neg (by simp [hservice, hk])]
    exact finish_lost hservice (by simp [hk]) hsel hreentry
  | serviceRegistration p success replies reentry =>
    cases success with
    | false =>
      cases hn
      have hconn : s.isConnecting p := hends
      simp only [onServicePropertyChangeRegistration, hconn]
      exact cleanup_lost hservice hsel
    | true =>
      obtain ⟨path, state, hstate, hconn, hfinal⟩ := hends
      exact next_lost hlinked hn hstate hconn hfinal hservice hsel hreentry
  | _ =>
    obtain ⟨path, state, hstate, hconn, hfinal⟩ := hends
    exact next_lost hlinked hn hstate hconn hfinal hservice hsel hreentry

def wifiDevice : ObjectPath := ⟨"/device/wlan0"⟩

/-- The client connects, and its Wi-Fi device selects the service. -/
def selectingClient : ShillClient :=
  ((idleClient.connect homeCall).onManagerPropertyChange shill.kDevicesProperty (.paths [wifiDevice])
    {}).onDevicePropertyChange wifiDevice shill.kSelectedServiceProperty (.path homeService) {}

theorem selectingClient_reach : machine.ReachIf KeepsWatch selectingClient := by
  have hquiet : ∀ s : ShillClient, ∀ e : Event, e.serviceState = none → (∀ p r, e ≠ .timeout p r) →
      (∀ p b r c, e ≠ .serviceRegistration p b r c) → KeepsWatch s e := by
    intro s e hstate htimeout hregistration hends
    cases e <;> simp_all [EndsAttempt]
  refine .step (.step (.step (.start idleClient_start) (e := .connect homeCall) ?_ rfl)
    (e := .managerProperty shill.kDevicesProperty (.paths [wifiDevice]) {}) ?_ rfl)
    (e := .deviceProperty wifiDevice shill.kSelectedServiceProperty (.path homeService) {}) ?_ rfl
  · exact hquiet _ _ rfl (by simp) (by simp)
  · exact hquiet _ _ rfl (by simp) (by simp)
  · exact hquiet _ _ rfl (by simp) (by simp)

theorem selected_watched_test : Watched selectingClient := selected_watched selectingClient_reach

/-- The usual order: connect, selection, online. The service of the device is unwatched. -/
theorem online_unwatched : ¬∀ s, machine.Reach s → Watched s := by
  intro hall
  have hreach := selectingClient_reach.reach.step (e := homeOnline) trivial rfl
  have hdevice : (selectingClient.onServicePropertyChange homeService shill.kStateProperty
      (.string "online") []).devices[wifiDevice]? = some ⟨some ⟨.connect 0, homeService⟩, .online⟩ := by
    decide +kernel
  have hlive := hall _ hreach wifiDevice _ _ hdevice rfl
  have hdead : live homeService (selectingClient.onServicePropertyChange homeService shill.kStateProperty
      (.string "online") []).log = false := by
    decide +kernel
  rw [hdead] at hlive
  cases hlive

end ShillClient

end SystemWeaved
