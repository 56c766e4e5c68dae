import SystemWeaved.Spec.Manager

/-!
# The command handlers of the device

weaved hands every request of a client on to the device, whatever has been registered
before (`handlers_eq`). So a command has two handlers exactly if it has been requested
twice, or is the daemon's own (`one_handler_iff`); a client that comes back after its death
and registers again is enough (`reconnecting_client`).
-/

namespace SystemWeaved

namespace Manager

variable {S : Strings} {m m' : Manager}

/-- The pairs requested of the device so far, after one more event. -/
def request (requested : List (String × String)) : Event S → List (String × String)
  | .registerCommandHandler _ component command =>
    requested ++ [(S.ToString component, S.ToString command)]
  | .stop => []
  | _ => requested

/-- The pairs that clients have requested since the device was made. -/
def requests (es : List (Event S)) : List (String × String) := es.foldl request []

def rebootPair : String × String := (kBaseComponent, kRebootCommand)

/-- The device has the daemon's handler and one for each request. -/
structure Requested (m : Manager) (requested : List (String × String)) : Prop where
  handlers : ∀ device, m.device = some device →
    device.handlers.map CommandHandler.pair = rebootPair :: requested
  none : m.device = none → requested = []

theorem createServices_device (device : Device) (watch : WeaveClient → Bool) (clients : List WeaveClient) :
    ∀ m : Manager, (createServices (S := S) device watch m clients).1.device = m.device := by
  induction clients with
  | nil => exact fun _ => rfl
  | cons client clients ih => exact fun m => ih (m.createService (S := S) device watch client).1

theorem connect_device (client : WeaveClient) (watch : WeaveClient → Bool) :
    (m.connect (S := S) client watch).1.device = m.device := by
  unfold connect
  dsimp only
  split
  · exact createServices_device _ _ _ _
  · rfl

theorem createDevice_requested {requested : List (String × String)} (watch : WeaveClient → Bool)
    (h : Requested m requested) : Requested (m.createDevice (S := S) watch).1 requested := by
  unfold createDevice
  cases hd : m.device with
  | some device => exact h
  | none =>
    have hnil := h.none hd
    have hdev := createServices_device (S := S) ⟨m.devices, [⟨kBaseComponent, kRebootCommand, .onRebootDevice⟩]⟩
      watch m.pendingClients
    refine ⟨fun device hdevice => ?_, fun hnone => ?_⟩
    · rw [createServicesForClients, hdev] at hdevice
      cases hdevice
      rw [hnil]
      rfl
    · rw [createServicesForClients, hdev] at hnone
      cases hnone

/-- A request that returns has added one handler to the device of its service. -/
theorem registerCommandHandler_cases {service : BinderWeaveService} {component command : S.String16}
    (h : m.registerCommandHandler service component command = some m') :
    ∃ device, m.device = some device ∧ m' = { m with device := some { device with
      handlers := device.handlers ++ [⟨S.ToString component, S.ToString command, .onCommand service⟩] } } := by
  unfold registerCommandHandler at h
  split at h
  · split at h
    · exact ⟨_, ‹_›, (Option.some.inj h).symm⟩
    · cases h
  · cases h

theorem registerCommandHandler_requested {requested : List (String × String)} {service : BinderWeaveService}
    {component command : S.String16} (h : Requested m requested)
    (hm : m.registerCommandHandler service component command = some m') :
    Requested m' (requested ++ [(S.ToString component, S.ToString command)]) := by
  obtain ⟨device, hd, rfl⟩ := registerCommandHandler_cases hm
  refine ⟨fun device' hdevice => ?_, fun hnone => by cases hnone⟩
  cases hdevice
  rw [List.map_append, h.handlers device hd]
  rfl

/-- One event adds to the handlers what it adds to the requests. -/
theorem next_requested {requested : List (String × String)} {e : Event S} (h : Requested m requested)
    (hm : next S m e = some m') : Requested m' (request requested e) := by
  cases e with
  | createDevice watch => cases hm; exact createDevice_requested watch h
  | connect client watch =>
    cases hm
    have hdev := connect_device (S := S) (m := m) client watch
    exact ⟨fun device hd => h.handlers device (hdev ▸ hd), fun hn => h.none (hdev ▸ hn)⟩
  | registerNotificationListener listener => cases hm; exact ⟨h.handlers, h.none⟩
  | registerCommandHandler service component command =>
    simp only [next] at hm
    split at hm
    · exact registerCommandHandler_requested h hm
    · cases hm
  | onClientDisconnected client => cases hm; exact ⟨h.handlers, h.none⟩
  | stop => cases hm; exact ⟨fun device hd => (by cases hd), fun _ => rfl⟩

/-- **The handlers of the device are the daemon's own and those requested, in order.** -/
theorem handlers_eq {es : List (Event S)} {device : Device} (h : (machine S).run {} es = some m)
    (hd : m.device = some device) :
    device.handlers.map CommandHandler.pair = rebootPair :: requests es := by
  have hrun : ∀ (es : List (Event S)) (m₀ : Manager) (requested : List (String × String)),
      Requested m₀ requested → (machine S).run m₀ es = some m → Requested m (es.foldl request requested) := by
    intro es
    induction es with
    | nil =>
      intro m₀ requested h₀ h
      cases h
      exact h₀
    | cons e es ih =>
      intro m₀ requested h₀ h
      obtain ⟨m₁, hm₁, h⟩ := Option.bind_eq_some_iff.1 h
      exact ih m₁ _ (next_requested h₀ hm₁) h
  exact (hrun es {} [] ⟨fun device hd => (by cases hd), fun _ => rfl⟩ h).handlers device hd

/-- **No command has two handlers** exactly if the requested pairs, those of dead clients
included, are pairwise distinct and none is the daemon's own. -/
theorem one_handler_iff {es : List (Event S)} {device : Device} (h : (machine S).run {} es = some m)
    (hd : m.device = some device) :
    (device.handlers.map CommandHandler.pair).Nodup ↔ rebootPair ∉ requests es ∧ (requests es).Nodup := by
  rw [handlers_eq h hd, List.nodup_cons]

def firstClient : WeaveClient := ⟨0, 0, 0⟩

def secondClient : WeaveClient := ⟨1, 0, 0⟩

/-- A client connects, registers and dies; then it is started again and registers again. -/
def reconnectRun : List (Event Strings.plain) :=
  [.createDevice fun _ => true, .connect firstClient fun _ => true,
    .registerCommandHandler ⟨0, 0, firstClient⟩ "lock" "lock.setConfig", .onClientDisconnected firstClient,
    .connect secondClient fun _ => true,
    .registerCommandHandler ⟨1, 0, secondClient⟩ "lock" "lock.setConfig"]

/-- The device of that run. -/
def reconnectDevice : Device :=
  ⟨0, [⟨"base", "base.reboot", .onRebootDevice⟩,
    ⟨"lock", "lock.setConfig", .onCommand ⟨0, 0, firstClient⟩⟩,
    ⟨"lock", "lock.setConfig", .onCommand ⟨1, 0, secondClient⟩⟩]⟩

def reconnectManager : Manager where
  device := some reconnectDevice
  services := [(secondClient, ⟨1, 0, secondClient⟩)]
  deathNotifications := [firstClient, secondClient]
  made := [⟨0, 0, firstClient⟩, ⟨1, 0, secondClient⟩]
  devices := 1

theorem reconnectRun_eq : (machine Strings.plain).run {} reconnectRun = some reconnectManager := by
  rfl

theorem one_handler_iff_test :
    (reconnectDevice.handlers.map CommandHandler.pair).Nodup ↔
      rebootPair ∉ requests reconnectRun ∧ (requests reconnectRun).Nodup :=
  one_handler_iff reconnectRun_eq rfl

theorem reconnecting_client :
    ¬∀ (S : Strings) (es : List (Event S)) (m : Manager) (device : Device),
      (machine S).run {} es = some m → m.device = some device →
      (device.handlers.map CommandHandler.pair).Nodup := by
  intro hall
  have h := hall Strings.plain reconnectRun reconnectManager reconnectDevice reconnectRun_eq rfl
  exact absurd h (by decide)

end Manager

end SystemWeaved
