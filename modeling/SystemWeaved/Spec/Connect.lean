import SystemWeaved.Lib.Machine
import SystemWeaved.Spec.Manager

/-!
# Connecting clients, call by call (`buffet/manager.cc`)

`Manager.connect` serves the waiting clients in one go. Here weaved stops at each call of
`onServiceConnected`, in which another `connect` can arrive: `CreateServicesForClients` can
then be entered again while it iterates over its batch. Clients can die at any time; their
deaths are reported to weaved if it has registered for them.
-/

namespace SystemWeaved

/-- A function of `Manager` under way: `CreateDevice` before it serves the clients, or
`CreateServicesForClients` at the head of its loop, or in `onServiceConnected` of a client. -/
inductive ConnectFrame
  | createDevice
  | nextClient (clients : List WeaveClient)
  | onServiceConnected (client : WeaveClient) (clients : List WeaveClient)

/-- The clients of the batch that have not been served. -/
def ConnectFrame.batch : ConnectFrame → List WeaveClient
  | .createDevice => []
  | .nextClient clients | .onServiceConnected _ clients => clients

/-- weaved with its call stack, innermost first, and its clients. -/
structure ConnectSystem where
  manager : Manager := {}
  frames : List ConnectFrame := []
  /-- The calls of `connect` and of `onServiceConnected`, oldest first. -/
  connects : List WeaveClient := []
  served : List WeaveClient := []
  dead : List WeaveClient := []

namespace ConnectSystem

variable (s : ConnectSystem)

/-- weaved is in its message loop, or waits for a client. -/
def canBeCalled : Bool :=
  match s.frames with
  | [] | .onServiceConnected _ _ :: _ => true
  | .createDevice :: _ | .nextClient _ :: _ => false

/-- `CreateServicesForClients` up to its loop. -/
def createServicesForClients : Option ConnectSystem :=
  match s.manager.device with
  -- `CHECK(device_)`
  | none => none
  | some _ => some { s with
      manager := { s.manager with pendingClients := [] }
      frames := .nextClient s.manager.pendingClients :: s.frames }

/-- `connect`. -/
def connect (client : WeaveClient) : Option ConnectSystem :=
  let s := { s with
    manager := { s.manager with pendingClients := s.manager.pendingClients ++ [client] }
    connects := s.connects ++ [client] }
  match s.manager.device with
  | some _ => s.createServicesForClients
  | none => some s

/-- `CreateDevice` up to its call of `CreateServicesForClients`. -/
def createDevice : ConnectSystem :=
  match s.manager.device with
  | some _ => s
  | none =>
    let device : Device := ⟨s.manager.devices, [⟨Manager.kBaseComponent, Manager.kRebootCommand, .onRebootDevice⟩]⟩
    { s with
      manager := { s.manager with device := some device, devices := s.manager.devices + 1 }
      frames := .createDevice :: s.frames }

/-- The service of a client is made and stored. -/
def makeService (m : Manager) (device : Device) (client : WeaveClient) : Manager :=
  let service : BinderWeaveService := ⟨m.made.length, device.id, client⟩
  { m with made := m.made ++ [service], services := Manager.emplace m.services client service }

/-- `RegisterForDeathNotifications`, which fails on a client that is dead. Nobody looks at
its result. -/
def registerForDeathNotifications (m : Manager) (dead : List WeaveClient) (client : WeaveClient) : Manager :=
  { m with deathNotifications := if client ∈ dead then m.deathNotifications else m.deathNotifications ++ [client] }

/-- The innermost function goes on. -/
def resume : Option ConnectSystem :=
  match s.frames with
  | [] => none
  | .createDevice :: frames => ({ s with frames }).createServicesForClients
  | .nextClient [] :: frames => some { s with frames }
  | .nextClient (client :: clients) :: frames =>
    s.manager.device.map fun device => { s with
      manager := makeService s.manager device client
      served := s.served ++ [client]
      frames := .onServiceConnected client clients :: frames }
  | .onServiceConnected client clients :: frames => some { s with
      manager := registerForDeathNotifications s.manager s.dead client
      frames := .nextClient clients :: frames }

/-- `OnClientDisconnected`, for a registered client that has died. -/
def onClientDisconnected (client : WeaveClient) : ConnectSystem :=
  let m := s.manager.onClientDisconnected client
  { s with manager := { m with deathNotifications := m.deathNotifications.erase client } }

inductive Event
  | connect (client : WeaveClient)
  | createDevice
  | resume
  | clientDies (client : WeaveClient)
  | onClientDisconnected (client : WeaveClient)

/-- One event. -/
def next : Event → Option ConnectSystem
  | .connect client => if s.canBeCalled then s.connect client else none
  | .createDevice => if s.canBeCalled then some s.createDevice else none
  | .resume => s.resume
  | .clientDies client => some { s with dead := client :: s.dead }
  | .onClientDisconnected client =>
    if s.canBeCalled ∧ client ∈ s.dead ∧ client ∈ s.manager.deathNotifications then
      some (s.onClientDisconnected client)
    else none

/-- All runs of a weaved process and its clients. -/
def machine : Machine ConnectSystem Event where
  start s := s = {}
  next s e := s.next e

end ConnectSystem

end SystemWeaved
