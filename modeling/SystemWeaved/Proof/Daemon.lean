import SystemWeaved.Proof.Handlers
import SystemWeaved.Spec.Daemon

/-!
# The device in the daemon

* `devices_safe_iff`: every use of a device is one of the device that the `Manager` has,
  exactly if traits and components are asked for only while there is a device, and no service
  is called after the `Stop` that follows its making. `traits_before_device` is a run without
  this.
* `server_up_iff`: `CreateDevice` is called exactly when both ports are known, and not more
  than once between two `Stop`s, exactly if no protocol handler is connected while the HTTPS
  port is known, or becomes known, and the HTTP port is not (`KnowsHttp`). `https_first` is a
  run without this.
-/

namespace SystemWeaved

variable {N : ProtocolNames} {S : Strings}

namespace Manager

variable {m m' : Manager}

/-- Services have been made for the device, and the device is as before. -/
structure Serves (device : ℕ) (m m' : Manager) : Prop where
  device_eq : m'.device = m.device
  devices_eq : m'.devices = m.devices
  made : ∃ new, m'.made = m.made ++ new ∧ ∀ service ∈ new, service.device = device

theorem createServices_serves (device : Device) (watch : WeaveClient → Bool) (clients : List WeaveClient) :
    ∀ m : Manager, Serves device.id m (createServices (S := S) device watch m clients).1 := by
  induction clients with
  | nil => exact fun m => ⟨rfl, rfl, [], (List.append_nil _).symm, fun _ h => by cases h⟩
  | cons client clients ih =>
    intro m
    obtain ⟨hdevice, hdevices, new, hmade, hnew⟩ := ih (m.createService (S := S) device watch client).1
    refine ⟨hdevice, hdevices, ⟨m.made.length, device.id, client⟩ :: new, ?_, ?_⟩
    · have hcons : (m.createService (S := S) device watch client).1.made =
          m.made ++ [⟨m.made.length, device.id, client⟩] := rfl
      rw [hcons, List.append_assoc] at hmade
      exact hmade
    · exact List.forall_mem_cons.2 ⟨rfl, hnew⟩

theorem connect_serves {device : Device} (h : m.device = some device) (client : WeaveClient)
    (watch : WeaveClient → Bool) : Serves device.id m (m.connect (S := S) client watch).1 := by
  unfold connect
  simp only [h]
  obtain ⟨hdevice, hdevices, hmade⟩ := createServices_serves (S := S) device watch (m.pendingClients ++ [client])
    { m with device := some device, pendingClients := [] }
  exact ⟨hdevice.trans h.symm, hdevices, hmade⟩

/-- Without a device, a client has to wait. -/
theorem connect_waits (h : m.device = none) (client : WeaveClient) (watch : WeaveClient → Bool) :
    (m.connect (S := S) client watch).1 = { m with pendingClients := m.pendingClients ++ [client] } := by
  unfold connect
  simp only [h]

/-- A new device has the next number, and the waiting clients have services for it. -/
theorem createDevice_new (h : m.device = none) (watch : WeaveClient → Bool) :
    (∃ device, (m.createDevice (S := S) watch).1.device = some device ∧ device.id = m.devices) ∧
      (m.createDevice (S := S) watch).1.devices = m.devices + 1 ∧
      ∃ new, (m.createDevice (S := S) watch).1.made = m.made ++ new ∧
        ∀ service ∈ new, service.device = m.devices := by
  have hserves := createServices_serves (S := S)
    ⟨m.devices, [⟨kBaseComponent, kRebootCommand, .onRebootDevice⟩]⟩ watch m.pendingClients
    { m with
      device := some ⟨m.devices, [⟨kBaseComponent, kRebootCommand, .onRebootDevice⟩]⟩
      devices := m.devices + 1
      pendingClients := [] }
  unfold createDevice
  simp only [h]
  exact ⟨⟨_, hserves.device_eq, rfl⟩, hserves.devices_eq, hserves.made⟩

end Manager

namespace Daemon

variable {s t : Daemon}

/-! ## Uses of devices -/

/-- A use is one of the device that the `Manager` has. -/
def SafeUse : DaemonEffect → Prop
  | .use device held => device ≠ none ∧ device = held
  | _ => True

/-- Every use so far has been safe. -/
def Safe (s : Daemon) : Prop := ∀ e ∈ s.log, SafeUse e

/-- Traits and components are asked for while there is a device; services are called before
the `Stop` that follows their making. -/
def Timely (s : Daemon) : Event S → Prop
  | .getTraits | .getComponents => s.manager.device.isSome = true
  | .addComponent service _ _ | .updateState service _ _ | .registerCommandHandler service _ _ =>
    service ∉ s.stale
  | _ => True

/-- The services are for the device, or from before the last `Stop`. -/
structure Devices (s : Daemon) : Prop where
  device_lt : ∀ device, s.manager.device = some device → device.id < s.manager.devices
  made_lt : ∀ service ∈ s.manager.made, service.device < s.manager.devices
  fresh : ∀ service ∈ s.manager.made, service ∉ s.stale → s.held = some service.device
  stale : ∀ service ∈ s.stale, s.held ≠ some service.device
  stale_made : ∀ service ∈ s.stale, service ∈ s.manager.made

theorem safe_emit {e : DaemonEffect} : Safe (s.emit e) ↔ Safe s ∧ SafeUse e := by
  unfold Safe
  show (∀ e' ∈ e :: s.log, SafeUse e') ↔ _
  rw [List.forall_mem_cons]
  exact and_comm

theorem safe_useDevice {device : Option ℕ} :
    Safe (s.useDevice device) ↔ Safe s ∧ device ≠ none ∧ device = s.held := safe_emit

theorem devices_emit {e : DaemonEffect} (h : Devices s) : Devices (s.emit e) :=
  ⟨h.device_lt, h.made_lt, h.fresh, h.stale, h.stale_made⟩

theorem stop_devices (h : Devices s) : Devices s.stop := by
  refine devices_emit ⟨fun _ hd => (by cases hd), h.made_lt, fun _ hm hs => absurd hm hs, fun _ _ hd => ?_, fun _ hs => hs⟩
  cases hd

theorem stop_safe : Safe s.stop ↔ Safe s := by
  unfold stop
  rw [safe_emit]
  exact and_iff_left trivial

theorem createDevice_devices (h : Devices s) (watch : WeaveClient → Bool) : Devices (s.createDevice S watch) := by
  unfold createDevice
  cases hd : s.manager.device with
  | some device => exact h
  | none =>
    obtain ⟨⟨device, hdevice, hid⟩, hdevices, new, hmade, hnew⟩ := Manager.createDevice_new (S := S) hd watch
    -- all services from before are from before the last `Stop`, too
    have hstale : ∀ service ∈ s.manager.made, service ∈ s.stale := by
      intro service hm
      by_contra hs
      have hheld := h.fresh service hm hs
      unfold held at hheld
      rw [hd] at hheld
      cases hheld
    have hheld : (s.manager.createDevice (S := S) watch).1.device.map Device.id = some s.manager.devices := by
      rw [hdevice, Option.map_some, hid]
    refine devices_emit (devices_emit ?_)
    constructor
    case device_lt =>
      intro device' hdevice'
      rw [hdevice] at hdevice'
      cases hdevice'
      rw [hdevices, hid]
      exact Nat.lt_succ_self _
    case made_lt =>
      intro service hm
      rw [hmade] at hm
      rw [hdevices]
      rcases List.mem_append.1 hm with hold | hin
      · exact Nat.lt_succ_of_lt (h.made_lt service hold)
      · rw [hnew service hin]
        exact Nat.lt_succ_self _
    case fresh =>
      intro service hm hs
      rw [hmade] at hm
      rcases List.mem_append.1 hm with hold | hin
      · exact absurd (hstale service hold) hs
      · show Option.map Device.id _ = _
        rw [hheld, hnew service hin]
    case stale =>
      -- the new device has a new number
      intro service hs heq
      have hlt := h.made_lt service (h.stale_made service hs)
      have heq : Option.map Device.id (s.manager.createDevice (S := S) watch).1.device = some service.device := heq
      rw [hheld] at heq
      have hid := Option.some.inj heq
      omega
    case stale_made =>
      intro service hs
      rw [hmade]
      exact List.mem_append_left _ (h.stale_made service hs)

theorem createDevice_safe (watch : WeaveClient → Bool) : Safe (s.createDevice S watch) ↔ Safe s := by
  unfold createDevice
  cases hd : s.manager.device with
  | some device => exact Iff.rfl
  | none =>
    obtain ⟨⟨device, hdevice, -⟩, -⟩ := Manager.createDevice_new (S := S) hd watch
    have hheld : (s.manager.createDevice (S := S) watch).1.device.map Device.id ≠ none := by
      rw [hdevice]
      exact Option.some_ne_none _
    dsimp only
    rw [safe_useDevice, safe_emit]
    constructor
    · exact fun h => h.1.1
    · exact fun h => ⟨⟨h, trivial⟩, hheld, rfl⟩

theorem restartWeave_devices (h : Devices s) (privet : Bool) (watch : WeaveClient → Bool) :
    Devices (s.restartWeave S privet watch) := by
  have hstop := stop_devices h
  unfold restartWeave
  split
  · exact ⟨hstop.device_lt, hstop.made_lt, hstop.fresh, hstop.stale, hstop.stale_made⟩
  · exact createDevice_devices hstop watch

theorem restartWeave_safe (privet : Bool) (watch : WeaveClient → Bool) :
    Safe (s.restartWeave S privet watch) ↔ Safe s := by
  unfold restartWeave
  split
  · exact stop_safe
  · rw [createDevice_safe, stop_safe]

theorem onProtocolHandlerConnected_devices (h : Devices s) (handler : ProtocolHandler)
    (watch : WeaveClient → Bool) : Devices (s.onProtocolHandlerConnected N S handler watch) := by
  unfold onProtocolHandlerConnected
  split
  · exact h
  · rename_i w _
    have hconnected : Devices ({ s with webServClient := some (w.onProtocolHandlerConnected N handler) }) :=
      ⟨h.device_lt, h.made_lt, h.fresh, h.stale, h.stale_made⟩
    dsimp only
    split
    · exact createDevice_devices (devices_emit hconnected) watch
    · exact devices_emit hconnected

theorem onProtocolHandlerConnected_safe (handler : ProtocolHandler) (watch : WeaveClient → Bool) :
    Safe (s.onProtocolHandlerConnected N S handler watch) ↔ Safe s := by
  unfold onProtocolHandlerConnected
  split
  · exact Iff.rfl
  · dsimp only
    split
    · rw [createDevice_safe, safe_emit]
      exact and_iff_left trivial
    · rw [safe_emit]
      exact and_iff_left trivial

theorem connect_devices (h : Devices s) (client : WeaveClient) (watch : WeaveClient → Bool) :
    Devices (s.connect S client watch) := by
  unfold connect
  cases hd : s.manager.device with
  | none =>
    rw [Manager.connect_waits hd]
    exact ⟨h.device_lt, h.made_lt, h.fresh, h.stale, h.stale_made⟩
  | some device =>
    obtain ⟨hdevice, hdevices, new, hmade, hnew⟩ := Manager.connect_serves (S := S) hd client watch
    have hheld : Option.map Device.id (s.manager.connect (S := S) client watch).1.device = s.held := by
      rw [hdevice]
      rfl
    refine devices_emit ?_
    constructor
    case device_lt =>
      intro device' hdevice'
      rw [hdevice] at hdevice'
      rw [hdevices]
      exact h.device_lt device' hdevice'
    case made_lt =>
      intro service hm
      rw [hmade] at hm
      rw [hdevices]
      rcases List.mem_append.1 hm with hold | hin
      · exact h.made_lt service hold
      · rw [hnew service hin]
        exact h.device_lt device hd
    case fresh =>
      intro service hm hs
      rw [hmade] at hm
      show Option.map Device.id _ = _
      rw [hheld]
      rcases List.mem_append.1 hm with hold | hin
      · exact h.fresh service hold hs
      · rw [hnew service hin]
        unfold held
        rw [hd]
        rfl
    case stale =>
      intro service hs heq
      have heq : Option.map Device.id (s.manager.connect (S := S) client watch).1.device = some service.device := heq
      rw [hheld] at heq
      exact h.stale service hs heq
    case stale_made =>
      intro service hs
      rw [hmade]
      exact List.mem_append_left _ (h.stale_made service hs)

theorem connect_safe (client : WeaveClient) (watch : WeaveClient → Bool) :
    Safe (s.connect S client watch) ↔ Safe s := by
  unfold connect
  cases hd : s.manager.device with
  | none => exact Iff.rfl
  | some device =>
    obtain ⟨hdevice, -⟩ := Manager.connect_serves (S := S) hd client watch
    have hheld : Option.map Device.id (s.manager.connect (S := S) client watch).1.device = some device.id := by
      rw [hdevice, hd]
      rfl
    dsimp only
    rw [safe_useDevice]
    constructor
    · exact fun h => h.1
    · exact fun h => ⟨h, Option.some_ne_none _, hheld.symm⟩

/-- A handler of a command changes nothing but the handlers of the device. -/
theorem registerCommandHandler_held (service : BinderWeaveService) (component command : S.String16) :
    ((s.manager.registerCommandHandler service component command).getD s.manager).device.map Device.id = s.held ∧
      ((s.manager.registerCommandHandler service component command).getD s.manager).made = s.manager.made ∧
      ((s.manager.registerCommandHandler service component command).getD s.manager).devices = s.manager.devices := by
  cases hm : s.manager.registerCommandHandler service component command with
  | none => exact ⟨rfl, rfl, rfl⟩
  | some m =>
    obtain ⟨device, hd, rfl⟩ := Manager.registerCommandHandler_cases hm
    refine ⟨?_, rfl, rfl⟩
    unfold held
    rw [hd]
    rfl

theorem registerCommandHandler_devices (h : Devices s) (service : BinderWeaveService)
    (component command : S.String16) : Devices (s.registerCommandHandler S service component command) := by
  obtain ⟨hheld, hmade, hdevices⟩ := registerCommandHandler_held (s := s) service component command
  constructor
  case device_lt =>
    intro device hdevice
    have heq : some device.id = s.held := by
      rw [← hheld]
      exact (congrArg (Option.map Device.id) hdevice).symm
    obtain ⟨device', hdevice', hid⟩ := Option.map_eq_some_iff.1 heq.symm
    show device.id < Manager.devices _
    rw [← hid]
    exact lt_of_lt_of_eq (h.device_lt device' hdevice') hdevices.symm
  case made_lt =>
    intro service' hm
    have hm : service' ∈ s.manager.made := hmade ▸ hm
    exact lt_of_lt_of_eq (h.made_lt service' hm) hdevices.symm
  case fresh =>
    intro service' hm hs
    have hm : service' ∈ s.manager.made := hmade ▸ hm
    exact hheld.trans (h.fresh service' hm hs)
  case stale =>
    intro service' hs heq
    exact h.stale service' hs (hheld.symm.trans heq)
  case stale_made =>
    intro service' hs
    exact hmade.symm ▸ h.stale_made service' hs

/-- A service that has been made is for the device, unless it is from before `Stop`. -/
theorem service_safe (h : Devices s) {service : BinderWeaveService} (hm : service ∈ s.manager.made) :
    Safe (s.useDevice (some service.device)) ↔ Safe s ∧ service ∉ s.stale := by
  rw [safe_useDevice]
  constructor
  · rintro ⟨hsafe, -, heq⟩
    exact ⟨hsafe, fun hs => h.stale service hs heq.symm⟩
  · rintro ⟨hsafe, hs⟩
    exact ⟨hsafe, Option.some_ne_none _, (h.fresh service hm hs).symm⟩

theorem dereferenceDevice_safe : Safe s.dereferenceDevice ↔ Safe s ∧ s.manager.device.isSome = true := by
  unfold dereferenceDevice
  rw [safe_useDevice]
  unfold held
  cases s.manager.device <;> simp

theorem next_devices {e : Event S} (h : Devices s) (hn : s.next N S e = some t) : Devices t := by
  cases e with
  | restartWeave privet watch => cases hn; exact restartWeave_devices h privet watch
  | protocolHandlerConnected handler watch => cases hn; exact onProtocolHandlerConnected_devices h handler watch
  | protocolHandlerDisconnected handler =>
    cases hn
    exact ⟨h.device_lt, h.made_lt, h.fresh, h.stale, h.stale_made⟩
  | stop => cases hn; exact stop_devices h
  | connect client watch => cases hn; exact connect_devices h client watch
  | registerNotificationListener listener =>
    cases hn
    exact ⟨h.device_lt, h.made_lt, h.fresh, h.stale, h.stale_made⟩
  | getProperty property => cases hn; exact h
  | getTraits => cases hn; exact devices_emit h
  | getComponents => cases hn; exact devices_emit h
  | addComponent service name traits =>
    obtain ⟨-, hn⟩ := Option.ite_none_right_eq_some.1 hn
    cases hn
    exact devices_emit h
  | registerCommandHandler service component command =>
    obtain ⟨-, hn⟩ := Option.ite_none_right_eq_some.1 hn
    cases hn
    exact registerCommandHandler_devices h service component command
  | updateState service component state =>
    obtain ⟨-, hn⟩ := Option.ite_none_right_eq_some.1 hn
    cases hn
    exact devices_emit h
  | onClientDisconnected client =>
    cases hn
    exact ⟨h.device_lt, h.made_lt, h.fresh, h.stale, h.stale_made⟩

/-- An event keeps the uses safe exactly if it is timely. -/
theorem next_safe_iff {e : Event S} (h : Devices s) (hn : s.next N S e = some t) :
    Safe t ↔ Safe s ∧ Timely s e := by
  cases e with
  | restartWeave privet watch => cases hn; rw [restartWeave_safe]; exact (and_iff_left trivial).symm
  | protocolHandlerConnected handler watch =>
    cases hn
    rw [onProtocolHandlerConnected_safe]
    exact (and_iff_left trivial).symm
  | protocolHandlerDisconnected handler => cases hn; exact (and_iff_left trivial).symm
  | stop => cases hn; rw [stop_safe]; exact (and_iff_left trivial).symm
  | connect client watch => cases hn; rw [connect_safe]; exact (and_iff_left trivial).symm
  | registerNotificationListener listener => cases hn; exact (and_iff_left trivial).symm
  | getProperty property => cases hn; exact (and_iff_left trivial).symm
  | getTraits => cases hn; exact dereferenceDevice_safe
  | getComponents => cases hn; exact dereferenceDevice_safe
  | addComponent service name traits =>
    obtain ⟨hm, hn⟩ := Option.ite_none_right_eq_some.1 hn
    cases hn
    exact service_safe h hm
  | registerCommandHandler service component command =>
    obtain ⟨hm, hn⟩ := Option.ite_none_right_eq_some.1 hn
    cases hn
    exact service_safe h hm
  | updateState service component state =>
    obtain ⟨hm, hn⟩ := Option.ite_none_right_eq_some.1 hn
    cases hn
    exact service_safe h hm
  | onClientDisconnected client => cases hn; exact (and_iff_left trivial).symm

theorem start_devices : Devices {} :=
  ⟨fun _ h => (by cases h), fun _ h => (by cases h), fun _ h => (by cases h), fun _ h => (by cases h),
    fun _ h => (by cases h)⟩

/-- **Every use of a device is safe** exactly if every event of the run is timely. -/
theorem devices_safe_iff {es : List (Event S)} (h : (machine N S).run {} es = some s) :
    Safe s ↔ (machine N S).Meets Timely {} es := by
  have hiff := Machine.run_iff_meets (M := machine N S) (P := Devices) (Q := Safe) (G := Timely)
    (fun _ _ _ hs hn => next_devices hs hn) (fun _ _ _ hs hn => next_safe_iff hs hn) start_devices h
  rw [hiff]
  exact and_iff_right fun e he => by cases he

/-- The daemon starts with Privet, and a client asks for the traits. -/
def earlyRun : List (Event Strings.plain) := [.restartWeave true fun _ => true, .getTraits]

/-- A client is served, and calls its service. -/
def servedRun : List (Event Strings.plain) :=
  [.restartWeave false fun _ => true, .connect Manager.firstClient fun _ => true,
    .addComponent ⟨0, 0, Manager.firstClient⟩ "lock" ["lock"]]

/-- The protocol handlers of libwebserv. -/
def httpNames : ProtocolNames := ⟨"http", "https", by decide⟩

def earlyState : Daemon := ((machine httpNames Strings.plain).run {} earlyRun).get rfl

def servedState : Daemon := ((machine httpNames Strings.plain).run {} servedRun).get (by decide +kernel)

theorem devices_safe_iff_test :
    Safe servedState ↔ (machine httpNames Strings.plain).Meets Timely {} servedRun :=
  devices_safe_iff (Option.some_get _).symm

theorem traits_before_device :
    ¬∀ (N : ProtocolNames) (S : Strings) (es : List (Event S)) (s : Daemon),
      (machine N S).run {} es = some s → Safe s := by
  intro hall
  have h := hall httpNames Strings.plain earlyRun earlyState rfl
  have huse : DaemonEffect.use none none ∈ earlyState.log := List.mem_cons_self
  exact (h _ huse).1 rfl

/-! ## The ports of the web server -/

/-- How many devices have been created since the last `Stop`. -/
def createdSinceStop : List DaemonEffect → ℕ
  | [] | .stopped :: _ => 0
  | .deviceCreated _ :: log => createdSinceStop log + 1
  | .use _ _ :: log | .protocolHandlerConnected _ _ _ :: log => createdSinceStop log

/-- The callback is run exactly when both ports are known. -/
def ServerAvailable : DaemonEffect → Prop
  | .protocolHandlerConnected httpPort httpsPort callback => callback = true ↔ httpPort ≠ 0 ∧ httpsPort ≠ 0
  | _ => True

/-- A device that is created with a web server knows both of its ports. -/
def PortsKnown : DaemonEffect → Prop
  | .deviceCreated (some w) => w.httpPort ≠ 0 ∧ w.httpsPort ≠ 0
  | _ => True

/-- The device is started only when the server is up, and once until `Stop`. -/
structure ServerUp (s : Daemon) : Prop where
  available : ∀ e ∈ s.log, ServerAvailable e
  known : ∀ e ∈ s.log, PortsKnown e
  once : ∀ log, log <:+ s.log → createdSinceStop log ≤ 1

/-- A protocol handler that is connected is the HTTP one, or the HTTP port is known, or the
HTTPS port is not known, before and after. -/
def KnowsHttp (N : ProtocolNames) (s : Daemon) : Event S → Prop
  | .protocolHandlerConnected handler _ => ∀ w ∈ s.webServClient,
    handler.name = N.kHttp ∨ w.httpPort ≠ 0 ∨ (handler.name ≠ N.kHttps ∧ w.httpsPort = 0)
  | _ => True

/-! One device is created until `Stop`, in every run. -/

structure Created (s : Daemon) : Prop where
  current : createdSinceStop s.log = if s.manager.device.isSome then 1 else 0
  once : ∀ log, log <:+ s.log → createdSinceStop log ≤ 1

theorem created_emit {e : DaemonEffect} {m : Manager} {w : Option WebServClient}
    {stale : List BinderWeaveService} (h : Created s)
    (hcount : createdSinceStop (e :: s.log) = if m.device.isSome then 1 else 0) :
    Created (emit ⟨m, w, s.log, stale⟩ e) := by
  refine ⟨hcount, fun log hl => ?_⟩
  rcases List.suffix_cons_iff.1 hl with rfl | hl
  · show createdSinceStop (e :: s.log) ≤ 1
    rw [hcount]
    split <;> omega
  · exact h.once log hl

/-- The `Manager` changes, but has a device if it had one. -/
theorem created_manager {m : Manager} {w : Option WebServClient} {stale : List BinderWeaveService}
    (h : Created s) (hdevice : m.device.isSome = s.manager.device.isSome) : Created ⟨m, w, s.log, stale⟩ := by
  refine ⟨?_, h.once⟩
  show createdSinceStop s.log = if m.device.isSome then 1 else 0
  rw [hdevice]
  exact h.current

theorem useDevice_created (h : Created s) (device : Option ℕ) : Created (s.useDevice device) :=
  created_emit (e := .use device s.held) (m := s.manager) h h.current

theorem stop_created (h : Created s) : Created s.stop := created_emit (m := s.manager.stop) h rfl

theorem createDevice_created (h : Created s) (watch : WeaveClient → Bool) : Created (s.createDevice S watch) := by
  unfold createDevice
  cases hd : s.manager.device with
  | some device => exact h
  | none =>
    obtain ⟨⟨device, hdevice, -⟩, -⟩ := Manager.createDevice_new (S := S) hd watch
    have hzero : createdSinceStop s.log = 0 := by
      rw [h.current, hd]
      rfl
    refine useDevice_created (created_emit (m := (s.manager.createDevice (S := S) watch).1) h ?_) _
    show createdSinceStop s.log + 1 = _
    rw [hzero, hdevice]
    rfl

theorem connect_isSome (m : Manager) (client : WeaveClient) (watch : WeaveClient → Bool) :
    (m.connect (S := S) client watch).1.device.isSome = m.device.isSome :=
  congrArg Option.isSome (Manager.connect_device client watch)

theorem next_created {e : Event S} (h : Created s) (hn : s.next N S e = some t) : Created t := by
  cases e with
  | restartWeave privet watch =>
    cases hn
    unfold restartWeave
    split
    · exact created_manager (stop_created h) rfl
    · exact createDevice_created (stop_created h) watch
  | protocolHandlerConnected handler watch =>
    cases hn
    unfold onProtocolHandlerConnected
    split
    · exact h
    · dsimp only
      split
      · exact createDevice_created (created_emit (e := .protocolHandlerConnected _ _ _) (m := s.manager) h h.current) watch
      · exact created_emit (e := .protocolHandlerConnected _ _ _) (m := s.manager) h h.current
  | protocolHandlerDisconnected handler => cases hn; exact created_manager h rfl
  | stop => cases hn; exact stop_created h
  | connect client watch =>
    cases hn
    have hconnect : Created { s with manager := (s.manager.connect (S := S) client watch).1 } :=
      created_manager h (connect_isSome s.manager client watch)
    unfold connect
    dsimp only
    split
    · exact useDevice_created hconnect _
    · exact hconnect
  | registerNotificationListener listener => cases hn; exact created_manager h rfl
  | getProperty property => cases hn; exact h
  | getTraits => cases hn; exact useDevice_created h _
  | getComponents => cases hn; exact useDevice_created h _
  | addComponent service name traits =>
    obtain ⟨-, hn⟩ := Option.ite_none_right_eq_some.1 hn
    cases hn
    exact useDevice_created h _
  | registerCommandHandler service component command =>
    obtain ⟨-, hn⟩ := Option.ite_none_right_eq_some.1 hn
    cases hn
    obtain ⟨hheld, -⟩ := registerCommandHandler_held (s := s) service component command
    refine created_manager (useDevice_created h (some service.device)) ?_
    have hsome := congrArg Option.isSome hheld
    unfold held at hsome
    rw [Option.isSome_map, Option.isSome_map] at hsome
    exact hsome
  | updateState service component state =>
    obtain ⟨-, hn⟩ := Option.ite_none_right_eq_some.1 hn
    cases hn
    exact useDevice_created h _
  | onClientDisconnected client => cases hn; exact created_manager h rfl

/-! The callback is run for both ports, if the HTTP port is known. -/

/-- The effects so far are as the ports are. -/
def Ports (s : Daemon) : Prop := ∀ e ∈ s.log, ServerAvailable e ∧ PortsKnown e

theorem ports_emit {e : DaemonEffect} : Ports (s.emit e) ↔ Ports s ∧ ServerAvailable e ∧ PortsKnown e := by
  unfold Ports
  show (∀ e' ∈ e :: s.log, _) ↔ _
  rw [List.forall_mem_cons]
  exact and_comm

theorem useDevice_ports {device : Option ℕ} : Ports (s.useDevice device) ↔ Ports s :=
  ports_emit.trans (and_iff_left ⟨trivial, trivial⟩)

theorem stop_ports : Ports s.stop ↔ Ports s :=
  ports_emit.trans (and_iff_left ⟨trivial, trivial⟩)

theorem createDevice_ports (watch : WeaveClient → Bool) :
    Ports (s.createDevice S watch) ↔
      Ports s ∧ (s.manager.device = none → PortsKnown (.deviceCreated s.webServClient)) := by
  unfold createDevice
  cases hd : s.manager.device with
  | some device =>
    refine (and_iff_left fun h => ?_).symm
    cases h
  | none =>
    rw [useDevice_ports, ports_emit]
    constructor
    · exact fun h => ⟨h.1, fun _ => h.2.2⟩
    · exact fun h => ⟨h.1, trivial, h.2 rfl⟩

/-- With the condition `https_port_ && https_port_`, the callback depends on HTTPS only. -/
theorem serverAvailable_iff (w : WebServClient) : w.serverAvailable = true ↔ w.httpsPort ≠ 0 := by
  unfold WebServClient.serverAvailable
  simp

/-- When the HTTP port is known after a connection if the HTTPS port is. -/
theorem onProtocolHandlerConnected_knows (w : WebServClient) (handler : ProtocolHandler) :
    ((w.onProtocolHandlerConnected N handler).httpsPort ≠ 0 →
        (w.onProtocolHandlerConnected N handler).httpPort ≠ 0) ↔
      handler.name = N.kHttp ∨ w.httpPort ≠ 0 ∨ (handler.name ≠ N.kHttps ∧ w.httpsPort = 0) := by
  have hport := handler.port_ne_zero
  unfold WebServClient.onProtocolHandlerConnected
  by_cases hhttp : handler.name = N.kHttp
  · simp [hhttp, hport]
  · by_cases hhttps : handler.name = N.kHttps
    · have hne : N.kHttps ≠ N.kHttp := N.kHttp_ne_kHttps.symm
      simp [hhttps, hport, hne]
    · simp only [hhttp, hhttps, if_false, false_or, ne_eq, not_false_eq_true, true_and]
      tauto

theorem onProtocolHandlerConnected_ports {w : WebServClient} (hw : s.webServClient = some w)
    (handler : ProtocolHandler) (watch : WeaveClient → Bool) :
    Ports (s.onProtocolHandlerConnected N S handler watch) ↔
      Ports s ∧ ((w.onProtocolHandlerConnected N handler).httpsPort ≠ 0 →
        (w.onProtocolHandlerConnected N handler).httpPort ≠ 0) := by
  unfold onProtocolHandlerConnected
  simp only [hw]
  set w' := w.onProtocolHandlerConnected N handler with hw'
  have hentry : ServerAvailable (.protocolHandlerConnected w'.httpPort w'.httpsPort w'.serverAvailable) ↔
      (w'.httpsPort ≠ 0 → w'.httpPort ≠ 0) := by
    show (w'.serverAvailable = true ↔ _) ↔ _
    rw [serverAvailable_iff]
    tauto
  by_cases havailable : w'.serverAvailable = true
  · -- the device, if one is created, has the ports of this connection
    rw [if_pos havailable, createDevice_ports, ports_emit, hentry]
    have hhttps := (serverAvailable_iff w').1 havailable
    constructor
    · exact fun h => ⟨h.1.1, h.1.2.1⟩
    · exact fun h => ⟨⟨h.1, h.2, trivial⟩, fun _ => ⟨h.2 hhttps, hhttps⟩⟩
  · rw [if_neg havailable, ports_emit, hentry]
    constructor
    · exact fun h => ⟨h.1, h.2.1⟩
    · exact fun h => ⟨h.1, h.2, trivial⟩

theorem connect_ports (client : WeaveClient) (watch : WeaveClient → Bool) :
    Ports (s.connect S client watch) ↔ Ports s := by
  unfold connect
  dsimp only
  split
  · exact useDevice_ports
  · exact Iff.rfl

/-- An event keeps the effects as the ports are, exactly if the HTTP port is known. -/
theorem next_ports_iff {e : Event S} (hn : s.next N S e = some t) : Ports t ↔ Ports s ∧ KnowsHttp N s e := by
  cases e with
  | restartWeave privet watch =>
    cases hn
    refine Iff.trans ?_ (and_iff_left trivial).symm
    unfold restartWeave
    split
    · exact stop_ports
    · rw [createDevice_ports, stop_ports]
      exact and_iff_left fun _ => trivial
  | protocolHandlerConnected handler watch =>
    cases hn
    cases hw : s.webServClient with
    | none =>
      have hsame : s.onProtocolHandlerConnected N S handler watch = s := by
        unfold onProtocolHandlerConnected
        rw [hw]
      rw [hsame]
      refine (and_iff_left fun w hmem => ?_).symm
      rw [hw] at hmem
      cases hmem
    | some w =>
      rw [onProtocolHandlerConnected_ports hw, onProtocolHandlerConnected_knows]
      unfold KnowsHttp
      rw [hw]
      simp
  | protocolHandlerDisconnected handler => cases hn; exact (and_iff_left trivial).symm
  | stop => cases hn; exact stop_ports.trans (and_iff_left trivial).symm
  | connect client watch => cases hn; exact (connect_ports client watch).trans (and_iff_left trivial).symm
  | registerNotificationListener listener => cases hn; exact (and_iff_left trivial).symm
  | getProperty property => cases hn; exact (and_iff_left trivial).symm
  | getTraits => cases hn; exact useDevice_ports.trans (and_iff_left trivial).symm
  | getComponents => cases hn; exact useDevice_ports.trans (and_iff_left trivial).symm
  | addComponent service name traits =>
    obtain ⟨-, hn⟩ := Option.ite_none_right_eq_some.1 hn
    cases hn
    exact useDevice_ports.trans (and_iff_left trivial).symm
  | registerCommandHandler service component command =>
    obtain ⟨-, hn⟩ := Option.ite_none_right_eq_some.1 hn
    cases hn
    exact (useDevice_ports (s := s)).trans (and_iff_left trivial).symm
  | updateState service component state =>
    obtain ⟨-, hn⟩ := Option.ite_none_right_eq_some.1 hn
    cases hn
    exact useDevice_ports.trans (and_iff_left trivial).symm
  | onClientDisconnected client => cases hn; exact (and_iff_left trivial).symm

theorem start_created : Created {} := by
  refine ⟨rfl, fun log hl => ?_⟩
  rw [List.suffix_nil.1 hl]
  exact Nat.zero_le 1

theorem run_created {es : List (Event S)} (h : (machine N S).run {} es = some s) : Created s := by
  refine Machine.ReachIf.invariant (P := Created) ?_ ?_ (Machine.run_reach (M := machine N S) (.start rfl) h)
  · rintro s rfl
    exact start_created
  · intro s e t _ hs _ hn
    exact next_created hs hn

/-- **The device starts only when the server is up** exactly if the HTTP port is known at
each connection that leaves the HTTPS port known. -/
theorem server_up_iff {es : List (Event S)} (h : (machine N S).run {} es = some s) :
    ServerUp s ↔ (machine N S).Meets (KnowsHttp N) {} es := by
  have hports : Ports s ↔ Ports {} ∧ (machine N S).Meets (KnowsHttp N) {} es :=
    Machine.run_iff_meets (M := machine N S) (P := fun _ => True) (fun _ _ _ _ _ => trivial)
      (fun _ _ _ _ hn => next_ports_iff hn) trivial h
  rw [and_iff_right (show Ports {} from fun e he => by cases he)] at hports
  rw [← hports]
  constructor
  · exact fun hup e he => ⟨hup.available e he, hup.known e he⟩
  · exact fun hp => ⟨fun e he => (hp e he).1, fun e he => (hp e he).2, (run_created h).once⟩

def httpHandler : ProtocolHandler := ⟨"http", [80], [], by decide, by decide⟩

def httpsHandler : ProtocolHandler := ⟨"https", [443], [1], by decide, by decide⟩

/-- The HTTPS handler comes up after the HTTP handler. -/
def httpFirstRun : List (Event Strings.plain) :=
  [.restartWeave true fun _ => true, .protocolHandlerConnected httpHandler fun _ => true,
    .protocolHandlerConnected httpsHandler fun _ => true]

def httpsFirstRun : List (Event Strings.plain) :=
  [.restartWeave true fun _ => true, .protocolHandlerConnected httpsHandler fun _ => true]

def httpFirstState : Daemon := ((machine httpNames Strings.plain).run {} httpFirstRun).get (by decide +kernel)

def httpsFirstState : Daemon := ((machine httpNames Strings.plain).run {} httpsFirstRun).get (by decide +kernel)

theorem server_up_iff_test :
    ServerUp httpFirstState ↔ (machine httpNames Strings.plain).Meets (KnowsHttp httpNames) {} httpFirstRun :=
  server_up_iff (Option.some_get _).symm

/-- The HTTPS handler comes up first, and the device is created with the HTTP port 0. -/
theorem https_first :
    ¬∀ (N : ProtocolNames) (S : Strings) (es : List (Event S)) (s : Daemon),
      (machine N S).run {} es = some s → ServerUp s := by
  intro hall
  have hup := hall httpNames Strings.plain httpsFirstRun httpsFirstState (Option.some_get _).symm
  have hcreated : DaemonEffect.deviceCreated (some ⟨0, 443, [1]⟩) ∈ httpsFirstState.log := by decide +kernel
  have hknown : (0 : UInt16) ≠ 0 ∧ (443 : UInt16) ≠ 0 := hup.known _ hcreated
  exact hknown.1 rfl

end Daemon

end SystemWeaved
