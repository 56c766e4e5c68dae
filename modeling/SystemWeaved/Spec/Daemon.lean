import SystemWeaved.Spec.Properties

/-!
# The weaved daemon (`buffet/main.cc`, `buffet/manager.cc`, `buffet/webserv_client.cc`)

The `Manager` is published to binder when the daemon starts. If the web server is used, the
device is created only when `WebServClient` finds both of its protocol handlers connected;
`Stop` destroys it. Each `BinderWeaveService` keeps a pointer to the device it was made for.

Every use of a device is recorded, with the device that the `Manager` has then. What a use
of a device that is not there does is unknown; here it does nothing.
-/

namespace SystemWeaved

/-- The names of the protocol handlers (libwebserv). -/
structure ProtocolNames where
  kHttp : String
  kHttps : String
  kHttp_ne_kHttps : kHttp ≠ kHttps

/-- `libwebserv::ProtocolHandler` when it is connected: it has ports, and none of them is 0.
The set of ports is in ascending order. -/
structure ProtocolHandler where
  name : String
  ports : List UInt16
  certificateFingerprint : List UInt8 := []
  ports_ne_nil : ports ≠ []
  zero_not_mem : 0 ∉ ports

/-- `*GetPorts().begin()`. -/
def ProtocolHandler.port (h : ProtocolHandler) : UInt16 := h.ports.head h.ports_ne_nil

theorem ProtocolHandler.port_ne_zero (h : ProtocolHandler) : h.port ≠ 0 := by
  intro hzero
  have hmem : h.port ∈ h.ports := List.head_mem h.ports_ne_nil
  rw [hzero] at hmem
  exact h.zero_not_mem hmem

/-- `WebServClient`. -/
structure WebServClient where
  httpPort : UInt16 := 0
  httpsPort : UInt16 := 0
  certificate : List UInt8 := []
  deriving DecidableEq

namespace WebServClient

variable (N : ProtocolNames) (w : WebServClient)

/-- `OnProtocolHandlerConnected`, up to its condition. -/
def onProtocolHandlerConnected (h : ProtocolHandler) : WebServClient :=
  if h.name = N.kHttp then { w with httpPort := h.port }
  else if h.name = N.kHttps then { w with httpsPort := h.port, certificate := h.certificateFingerprint }
  else w

/-- The condition of `server_available_callback_`: `https_port_ && https_port_`. -/
def serverAvailable : Bool := w.httpsPort ≠ 0 && w.httpsPort ≠ 0

/-- `OnProtocolHandlerDisconnected`. -/
def onProtocolHandlerDisconnected (h : ProtocolHandler) : WebServClient :=
  if h.name = N.kHttp then { w with httpPort := 0 }
  else if h.name = N.kHttps then { w with httpsPort := 0, certificate := [] }
  else w

end WebServClient

/-- What the daemon does. -/
inductive DaemonEffect
  /-- A device is used through a pointer, while the `Manager` has this one. -/
  | use (device held : Option ℕ)
  | protocolHandlerConnected (httpPort httpsPort : UInt16) (callback : Bool)
  | deviceCreated (webServClient : Option WebServClient)
  | stopped
  deriving DecidableEq

/-- The daemon, with the effects newest first. -/
structure Daemon where
  manager : Manager := {}
  webServClient : Option WebServClient := none
  log : List DaemonEffect := []
  /-- The services that had been made before the last `Stop`. -/
  stale : List BinderWeaveService := []

namespace Daemon

variable (N : ProtocolNames) (S : Strings) (s : Daemon)

/-- `device_`. -/
def held : Option ℕ := s.manager.device.map Device.id

def emit (e : DaemonEffect) : Daemon := { s with log := e :: s.log }

def useDevice (device : Option ℕ) : Daemon := s.emit (.use device s.held)

/-- `CreateDevice`. The definitions, the callbacks and the services of waiting clients are
added through the new `device_`. -/
def createDevice (watch : WeaveClient → Bool) : Daemon :=
  match s.manager.device with
  | some _ => s
  | none =>
    let s := { s with manager := (s.manager.createDevice (S := S) watch).1 }.emit (.deviceCreated s.webServClient)
    s.useDevice s.held

/-- `Stop`. -/
def stop : Daemon :=
  { s with manager := s.manager.stop, webServClient := none, stale := s.manager.made }.emit .stopped

/-- `RestartWeave`, with Privet or without. -/
def restartWeave (privet : Bool) (watch : WeaveClient → Bool) : Daemon :=
  if privet then { s.stop with webServClient := some {} } else s.stop.createDevice S watch

/-- `WebServClient::OnProtocolHandlerConnected`. The callback is `CreateDevice`. -/
def onProtocolHandlerConnected (h : ProtocolHandler) (watch : WeaveClient → Bool) : Daemon :=
  match s.webServClient with
  | none => s
  | some w =>
    let w := w.onProtocolHandlerConnected N h
    let s := { s with webServClient := some w }.emit
      (.protocolHandlerConnected w.httpPort w.httpsPort w.serverAvailable)
    if w.serverAvailable then s.createDevice S watch else s

/-- `WebServClient::OnProtocolHandlerDisconnected`. -/
def onProtocolHandlerDisconnected (h : ProtocolHandler) : Daemon :=
  { s with webServClient := s.webServClient.map fun w => w.onProtocolHandlerDisconnected N h }

/-- `Manager::connect`. The services are made with the pointer of `device_`, if it is set. -/
def connect (client : WeaveClient) (watch : WeaveClient → Bool) : Daemon :=
  let t := { s with manager := (s.manager.connect (S := S) client watch).1 }
  match s.manager.device with
  | some device => t.useDevice (some device.id)
  | none => t

/-- `Manager::getTraits` and `Manager::getComponents`, which dereference `device_`. -/
def dereferenceDevice : Daemon := s.useDevice s.held

/-- `BinderWeaveService::registerCommandHandler`. -/
def registerCommandHandler (service : BinderWeaveService) (component command : S.String16) : Daemon :=
  let s := s.useDevice (some service.device)
  { s with manager := (s.manager.registerCommandHandler service component command).getD s.manager }

/-- What the daemon receives. -/
inductive Event (S : Strings)
  | restartWeave (privet : Bool) (watch : WeaveClient → Bool)
  | protocolHandlerConnected (h : ProtocolHandler) (watch : WeaveClient → Bool)
  | protocolHandlerDisconnected (h : ProtocolHandler)
  | stop
  -- `IWeaveServiceManager`
  | connect (client : WeaveClient) (watch : WeaveClient → Bool)
  | registerNotificationListener (listener : NotificationListener)
  | getProperty (property : Property)
  | getTraits
  | getComponents
  -- `IWeaveService`
  | addComponent (service : BinderWeaveService) (name : S.String16) (traits : List S.String16)
  | registerCommandHandler (service : BinderWeaveService) (component command : S.String16)
  | updateState (service : BinderWeaveService) (component state : S.String16)
  -- a death notification
  | onClientDisconnected (client : WeaveClient)

/-- One event. Clients can only call services that have been made. The getters of the
properties read members of the `Manager`. -/
def next : Event S → Option Daemon
  | .restartWeave privet watch => some (s.restartWeave S privet watch)
  | .protocolHandlerConnected h watch => some (s.onProtocolHandlerConnected N S h watch)
  | .protocolHandlerDisconnected h => some (s.onProtocolHandlerDisconnected N h)
  | .stop => some s.stop
  | .connect client watch => some (s.connect S client watch)
  | .registerNotificationListener listener =>
    some { s with manager := s.manager.registerNotificationListener listener }
  | .getProperty _ => some s
  | .getTraits | .getComponents => some s.dereferenceDevice
  | .addComponent service _ _ | .updateState service _ _ =>
    if service ∈ s.manager.made then some (s.useDevice (some service.device)) else none
  | .registerCommandHandler service component command =>
    if service ∈ s.manager.made then some (s.registerCommandHandler S service component command) else none
  | .onClientDisconnected client => some { s with manager := s.manager.onClientDisconnected client }

/-- All runs of the daemon, whose `Manager` is published before it starts. -/
def machine : Machine Daemon (Event S) where
  start s := s = {}
  next s e := s.next N S e

end Daemon

end SystemWeaved
