import SystemWeaved.Spec.Connect
import SystemWeaved.Spec.Properties

/-!
# The end of weaved (`buffet/manager.cc`)

`Manager` registers for the deaths of its clients and of its notification listeners. Its
destructor takes these registrations back.
-/

namespace SystemWeaved

/-- A binder that `Manager` registers for. -/
inductive WatchedBinder
  | client (client : WeaveClient)
  | listener (listener : NotificationListener)
  deriving DecidableEq

/-- weaved with its clients and listeners, up to the end of `~Manager`. -/
structure Shutdown where
  clients : ConnectSystem := {}
  /-- The listeners whose death is watched. -/
  deathNotifications : List NotificationListener := []
  deadListeners : List NotificationListener := []
  gone : Bool := false
  /-- The calls of `UnregisterForDeathNotifications`, oldest first. -/
  unregistered : List WatchedBinder := []

namespace Shutdown

variable (s : Shutdown)

def manager : Manager := s.clients.manager

def setManager (manager : Manager) : Shutdown := { s with clients := { s.clients with manager } }

/-- `registerNotificationListener`. The registration fails for a listener that is dead. -/
def registerNotificationListener (listener : NotificationListener) : Shutdown :=
  { s.setManager (s.manager.registerNotificationListener listener) with
    deathNotifications :=
      if listener ∈ s.deadListeners then s.deathNotifications else s.deathNotifications ++ [listener] }

/-- `OnNotificationListenerDestroyed`. -/
def onNotificationListenerDestroyed (listener : NotificationListener) : Shutdown :=
  { s.setManager (s.manager.onNotificationListenerDestroyed listener) with
    deathNotifications := s.deathNotifications.erase listener }

/-- `~Manager`. -/
def destroyManager : Shutdown :=
  { s with
    gone := true
    unregistered := s.unregistered ++ s.manager.notificationListeners.map .listener ++
      s.manager.services.map fun entry => .client entry.1 }

inductive Event
  | connecting (event : ConnectSystem.Event)
  | registerNotificationListener (listener : NotificationListener)
  | listenerDies (listener : NotificationListener)
  | onNotificationListenerDestroyed (listener : NotificationListener)
  | destroyManager

/-- One event. The `Manager` is destroyed when none of its functions is running. -/
def next : Event → Option Shutdown
  | .connecting event =>
    if s.gone then none else (s.clients.next event).map fun clients => { s with clients }
  | .registerNotificationListener listener =>
    if s.gone = false ∧ s.clients.canBeCalled then some (s.registerNotificationListener listener) else none
  | .listenerDies listener => some { s with deadListeners := listener :: s.deadListeners }
  | .onNotificationListenerDestroyed listener =>
    if s.gone = false ∧ s.clients.canBeCalled ∧ listener ∈ s.deadListeners ∧ listener ∈ s.deathNotifications then
      some (s.onNotificationListenerDestroyed listener)
    else none
  | .destroyManager => if s.gone = false ∧ s.clients.frames = [] then some s.destroyManager else none

/-- All runs of a weaved process. -/
def machine : Machine Shutdown Event where
  start s := s = {}
  next s e := s.next e

end Shutdown

end SystemWeaved
