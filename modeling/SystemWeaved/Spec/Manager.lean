import SystemWeaved.Lib.Machine
import SystemWeaved.Spec.Binder

/-!
# weaved's side of its clients (`buffet/manager.cc`, `buffet/binder_weave_service.cc`)

`Manager` takes connecting clients, makes a `BinderWeaveService` for each once there is a
device, and forgets them when they die. The services register command handlers on the
device. Of `weave::Device` (libweave) only the calls of `AddCommandHandler` are kept.
-/

namespace SystemWeaved

/-- What a command handler is bound to. -/
inductive CommandTarget
  | onRebootDevice
  | onCommand (service : BinderWeaveService)
  deriving DecidableEq

/-- A call of `weave::Device::AddCommandHandler`. -/
structure CommandHandler where
  component : String
  command : String
  target : CommandTarget
  deriving DecidableEq

/-- The command the handler is for. -/
def CommandHandler.pair (h : CommandHandler) : String × String := (h.component, h.command)

/-- `weave::Device`: the handlers added, oldest first. -/
structure Device where
  id : ℕ
  handlers : List CommandHandler

/-- `buffet::Manager`, with the `BinderWeaveService` objects it has made. -/
structure Manager where
  device : Option Device := none
  pendingClients : List WeaveClient := []
  services : List (WeaveClient × BinderWeaveService) := []
  notificationListeners : List NotificationListener := []
  /-- The clients whose death is watched. -/
  deathNotifications : List WeaveClient := []
  /-- The services that have been made, those that are gone, and how many devices. -/
  made : List BinderWeaveService := []
  gone : List BinderWeaveService := []
  devices : ℕ := 0

namespace Manager

variable {S : Strings} (m : Manager)

def kBaseComponent := "base"
def kRebootCommand := "base.reboot"

/-- `std::map::emplace`: an entry that is there stays. -/
def emplace (services : List (WeaveClient × BinderWeaveService)) (client : WeaveClient)
    (service : BinderWeaveService) : List (WeaveClient × BinderWeaveService) :=
  if client ∈ services.map Prod.fst then services else services ++ [(client, service)]

/-- One round of the loop of `CreateServicesForClients`. Whether the death of the client can
be watched is up to binder. -/
def createService (device : Device) (watch : WeaveClient → Bool) (client : WeaveClient) :
    Manager × ClientCall S :=
  let service : BinderWeaveService := ⟨m.made.length, device.id, client⟩
  ({ m with
      made := m.made ++ [service]
      services := emplace m.services client service
      deathNotifications := if watch client then m.deathNotifications ++ [client] else m.deathNotifications },
    .onServiceConnected client service)

/-- The loop of `CreateServicesForClients`. -/
def createServices (device : Device) (watch : WeaveClient → Bool) :
    Manager → List WeaveClient → Manager × List (ClientCall S)
  | m, [] => (m, [])
  | m, client :: clients =>
    let (m, call) := m.createService device watch client
    let (m, calls) := createServices device watch m clients
    (m, call :: calls)

/-- `CreateServicesForClients`. -/
def createServicesForClients (device : Device) (watch : WeaveClient → Bool) : Manager × List (ClientCall S) :=
  createServices device watch { m with pendingClients := [] } m.pendingClients

/-- `CreateDevice`: the daemon's own handler comes first. -/
def createDevice (watch : WeaveClient → Bool) : Manager × List (ClientCall S) :=
  match m.device with
  | some _ => (m, [])
  | none =>
    let device : Device := ⟨m.devices, [⟨kBaseComponent, kRebootCommand, .onRebootDevice⟩]⟩
    createServicesForClients { m with device := some device, devices := m.devices + 1 } device watch

/-- `connect`. -/
def connect (client : WeaveClient) (watch : WeaveClient → Bool) : Manager × List (ClientCall S) :=
  let m := { m with pendingClients := m.pendingClients ++ [client] }
  match m.device with
  | some device => m.createServicesForClients device watch
  | none => (m, [])

/-- `registerNotificationListener`. -/
def registerNotificationListener (listener : NotificationListener) : Manager :=
  { m with notificationListeners := m.notificationListeners.insert listener }

/-- `OnClientDisconnected`. -/
def onClientDisconnected (client : WeaveClient) : Manager :=
  { m with services := m.services.filter fun entry => entry.1 ≠ client }

/-- The device is destroyed by `Stop`. -/
def stop : Manager := { m with device := none }

/-- `BinderWeaveService::registerCommandHandler`. A service whose device is gone has a
dangling pointer: then there is no next state. -/
def registerCommandHandler (service : BinderWeaveService) (component command : S.String16) : Option Manager :=
  match m.device with
  | some device =>
    if service.device = device.id then
      some { m with device := some { device with
        handlers := device.handlers ++ [⟨S.ToString component, S.ToString command, .onCommand service⟩] } }
    else none
  | none => none

/-- The device runs a command handler. One that is bound to a service that is gone does
nothing; otherwise this is `BinderWeaveService::OnCommand`. -/
def runHandler (handler : CommandHandler) (command : ℕ) : List (ClientCall S) :=
  match handler.target with
  | .onRebootDevice => []
  | .onCommand service =>
    if service ∈ m.gone then []
    else [.onCommand service.client (S.ToString16 handler.component) (S.ToString16 handler.command) command]

/-- What weaved receives: calls of any clients, and the deaths it is told of. -/
inductive Event (S : Strings)
  | createDevice (watch : WeaveClient → Bool)
  | connect (client : WeaveClient) (watch : WeaveClient → Bool)
  | registerNotificationListener (listener : NotificationListener)
  | registerCommandHandler (service : BinderWeaveService) (component command : S.String16)
  | onClientDisconnected (client : WeaveClient)
  | stop

/-- One event. Clients can only use services that have been made. -/
def next (S : Strings) (m : Manager) : Event S → Option Manager
  | .createDevice watch => some (m.createDevice (S := S) watch).1
  | .connect client watch => some (m.connect (S := S) client watch).1
  | .registerNotificationListener listener => some (m.registerNotificationListener listener)
  | .registerCommandHandler service component command =>
    if service ∈ m.made then m.registerCommandHandler service component command else none
  | .onClientDisconnected client => some (m.onClientDisconnected client)
  | .stop => some m.stop

/-- All runs of a weaved process. -/
def machine (S : Strings) : Machine Manager (Event S) where
  start m := m = {}
  next := next S

end Manager

end SystemWeaved
