import SystemWeaved.Spec.Manager
import SystemWeaved.Spec.Service

/-!
# weaved and its clients

weaved processes, one at a time and numbered by their starts, any number of clients, and
the oneway calls between them that have been sent and not yet handled. They are handled in
any order. A call to a process that is dead is lost.

Binder and the service manager decide what they may: whether a running weaved is found,
whether a registration for death notifications succeeds, and when a death is reported. A
death is reported to those who registered, at any time after it.
-/

namespace SystemWeaved

/-- A oneway call under way. -/
inductive Message (S : Strings)
  | connect (weaved : ℕ) (client : WeaveClient)
  | registerNotificationListener (weaved : ℕ) (listener : NotificationListener)
  | onServiceConnected (client : WeaveClient) (service : WeaveService)
  | onCommand (client : WeaveClient) (componentName commandName : S.String16) (command : ℕ)
  deriving DecidableEq

/-- weaved, its clients and the calls between them. -/
structure System (S : Strings) where
  weaved : Option Manager := none
  /-- The number of the last weaved that has been started. -/
  starts : ℕ := 0
  clients : ℕ → Client S := fun _ => {}
  inFlight : List (Message S) := []

namespace System

variable {S : Strings} (s : System S)

/-- The weaved with the number is running. -/
def alive (weaved : ℕ) : Bool := s.weaved.isSome && weaved == s.starts

/-- A call of the running weaved, on its way. -/
def sent : ClientCall S → Message S
  | .onServiceConnected client service => .onServiceConnected client ⟨s.starts, service⟩
  | .onCommand client componentName commandName command => .onCommand client componentName commandName command

/-- The running weaved has handled something. -/
def setWeaved (r : Manager × List (ClientCall S)) : System S :=
  { s with weaved := some r.1, inFlight := s.inFlight ++ r.2.map s.sent }

/-- A client has done something. -/
def setClient (c : ℕ) (client : Client S) : System S := { s with clients := Function.update s.clients c client }

def send (message : Message S) : System S := { s with inFlight := s.inFlight ++ [message] }

/-- A call to a client is handled by its message loop. -/
def handleByClient (c : ℕ) (handle : Client S → Client S) : Option (System S) :=
  match (s.clients c).running, (s.clients c).frame with
  -- a call to a dead process is lost
  | false, _ => some s
  | true, .messageLoop => some (s.setClient c (handle (s.clients c)))
  | true, _ => none

/-- A call to a weaved is handled if it is still running. -/
def handleByWeaved (weaved : ℕ) (handle : Manager → Manager × List (ClientCall S)) : System S :=
  match s.weaved with
  | some manager => if weaved = s.starts then s.setWeaved (handle manager) else s
  | none => s

/-- A message that has been taken from those in flight is handled. -/
def handle (watch : WeaveClient → Bool) : Message S → Option (System S)
  | .connect weaved client => some (s.handleByWeaved weaved fun manager => manager.connect client watch)
  | .registerNotificationListener weaved listener =>
    some (s.handleByWeaved weaved fun manager => (manager.registerNotificationListener listener, []))
  | .onServiceConnected client service =>
    s.handleByClient client.client fun c => c.onServiceConnected client service
  | .onCommand client componentName commandName command =>
    s.handleByClient client.client fun c => c.onCommand client componentName commandName command

/-- The client runs a task of its message loop. `GetService` may find the running weaved. -/
def runTask (c : ℕ) (task : ClientTask) (found : Bool) : Option (System S) :=
  let client := s.clients c
  match client.running, client.frame with
  | true, .messageLoop =>
    if task ∈ client.tasks then
      let client := { client with tasks := client.tasks.erase task }
      match task with
      | .tryConnecting impl =>
        some (s.setClient c (client.tryConnecting impl (if found && s.weaved.isSome then some s.starts else none)))
      | .reconnectOnServiceDisconnection impl =>
        some (s.setClient c (client.reconnectOnServiceDisconnection impl))
    else none
  | _, _ => none

/-- The client makes the next binder call of the function it is in, or its call returns. -/
def resume (c : ℕ) (success : Bool) : Option (System S) :=
  let client := s.clients c
  match client.running, client.frame with
  | true, .gotService impl weaved =>
    some (s.setClient c (client.registerForDeathNotifications impl weaved success))
  | true, .watchesService impl weaved =>
    some ((s.setClient c (client.connectManager c impl weaved)).send
      (.connect weaved (client.makeWeaveClient c impl)))
  | true, .connected impl weaved =>
    some ((s.setClient c { client with frame := .messageLoop }).send
      (.registerNotificationListener weaved ⟨c, impl⟩))
  | true, .registering service component command =>
    match s.weaved with
    | some manager =>
      if service.weaved = s.starts then
        (manager.registerCommandHandler service.service component command).map fun manager =>
          { s.setClient c (client.commandHandlerAdded true) with weaved := some manager }
      else some (s.setClient c (client.commandHandlerAdded false))
    | none => some (s.setClient c (client.commandHandlerAdded false))
  | _, _ => none

/-- What can happen. -/
inductive Event (S : Strings)
  | startWeaved
  | createDevice (watch : WeaveClient → Bool)
  | weavedDies
  | onClientDisconnected (client : WeaveClient)
  | serviceGone (service : BinderWeaveService)
  | command (handler : CommandHandler) (command : ℕ)
  | handle (message : Message S) (watch : WeaveClient → Bool)
  | serviceConnect (c : ℕ)
  | destroySubscription (c : ℕ)
  | exit (c : ℕ)
  | runTask (c : ℕ) (task : ClientTask) (found : Bool)
  | resume (c : ℕ) (success : Bool)
  | deathNotice (c : ℕ) (notification : DeathNotification)
  | addCommandHandler (c : ℕ) (component traitName commandName : String) (callback : ℕ)

/-- What happens to the client `c` in its message loop. -/
def clientEvent (c : ℕ) (f : Client S → Option (Client S)) : Option (System S) :=
  match (s.clients c).running, (s.clients c).frame with
  | true, .messageLoop => (f (s.clients c)).map (s.setClient c)
  | _, _ => none

/-- One event. -/
def next (s : System S) : Event S → Option (System S)
  | .startWeaved =>
    match s.weaved with
    | none => some { s with weaved := some {}, starts := s.starts + 1 }
    | some _ => none
  | .createDevice watch => s.weaved.map fun manager => s.setWeaved (manager.createDevice watch)
  | .weavedDies => s.weaved.map fun _ => { s with weaved := none }
  | .onClientDisconnected client => s.weaved.bind fun manager =>
    if client ∈ manager.deathNotifications ∧ (s.clients client.client).running = false then
      some { s with weaved := some (manager.onClientDisconnected client) }
    else none
  | .serviceGone service => s.weaved.bind fun manager =>
    if service ∈ manager.made ∧ service ∉ manager.services.map Prod.snd then
      some { s with weaved := some { manager with gone := service :: manager.gone } }
    else none
  | .command handler command => s.weaved.bind fun manager =>
    if ∃ device ∈ manager.device, handler ∈ device.handlers then
      some (s.setWeaved (manager, manager.runHandler handler command))
    else none
  | .handle message watch =>
    if message ∈ s.inFlight then handle { s with inFlight := s.inFlight.erase message } watch message else none
  | .serviceConnect c => s.clientEvent c Client.serviceConnect
  | .destroySubscription c => s.clientEvent c fun client => some client.destroySubscription
  | .exit c => some (s.setClient c (s.clients c).exit)
  | .runTask c task found => s.runTask c task found
  | .resume c success => s.resume c success
  | .deathNotice c notification =>
    let client := s.clients c
    if client.running ∧ notification ∈ client.deathNotifications ∧ !s.alive notification.weaved then
      some (s.setClient c (Client.onWeaveServiceDisconnected
        { client with deathNotifications := client.deathNotifications.erase notification } notification.impl))
    else none
  | .addCommandHandler c component traitName commandName callback =>
    s.clientEvent c fun client => client.addCommandHandler component traitName commandName callback

/-- All runs. -/
def machine (S : Strings) : Machine (System S) (Event S) where
  start s := s = {}
  next := next

end System

end SystemWeaved
