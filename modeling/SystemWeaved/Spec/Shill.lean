import SystemWeaved.Lib.Machine
import SystemWeaved.Spec.DBus
import SystemWeaved.Spec.Error

/-!
# The Wi-Fi client (`buffet/shill_client.cc`)

`ShillClient` follows the devices and services of shill and makes one connect attempt at
a time. Every handler is a function on its state; what a handler does to the outside
(posted tasks, callbacks run, D-Bus calls) is an `Effect` in `log`, newest first.

* Connect calls are numbered; the number stands for the done callback of the call. The
  proxy made by call `k` is `⟨.connect k, path⟩`.
* D-Bus answers come with the event that asks for them (`Replies`), as do the calls of
  `Connect` that a done callback makes while it runs (`reentry`).
* A failed `CHECK` ends the process: the handler returns `none`.
-/

namespace SystemWeaved

namespace shill

def kDevicesProperty := "Devices"
def kSelectedServiceProperty := "SelectedService"
def kInterfaceProperty := "Interface"
def kStateProperty := "State"
def kSignalStrengthProperty := "Strength"
def kErrorProperty := "Error"
def kTypeProperty := "Type"
def kSSIDProperty := "SSID"
def kSecurityProperty := "Security"
def kPassphraseProperty := "Passphrase"
def kSaveCredentialsProperty := "SaveCredentials"
def kAutoConnectProperty := "AutoConnect"
def kTypeWifi := "wifi"
def kSecurityNone := "none"
def kSecurityPsk := "psk"
def kErrorOutOfRange := "out-of-range"
def kErrorInternal := "internal-error"

end shill

open shill

/-- `weave::provider::Network::State`. -/
inductive NetworkState
  | offline | error | connecting | online
  deriving DecidableEq, Repr

namespace NetworkState

/-- The position in the enumeration. -/
def rank : NetworkState → ℕ
  | offline => 0
  | error => 1
  | connecting => 2
  | online => 3

theorem rank_injective : Function.Injective rank := by
  intro a b h
  cases a <;> cases b <;> simp_all [rank]

instance : LinearOrder NetworkState := LinearOrder.lift' rank rank_injective

instance : OrderBot NetworkState where
  bot := offline
  bot_le s := Nat.zero_le (rank s)

end NetworkState

/-- `ShillServiceStateToNetworkState`. -/
def shillServiceStateToNetworkState (state : String) : NetworkState :=
  if state = "ready" ∨ state = "portal" ∨ state = "online" then .online
  else if state = "association" ∨ state = "configuration" then .connecting
  else if state = "failure" ∨ state = "activation-failure" then .error
  else .offline

/-- The identity of a `ServiceProxy` object: the connect call or the selection that made it. -/
inductive ProxyId
  | connect (call : ℕ)
  | selected (n : ℕ)
  deriving DecidableEq, Repr

/-- A `ServiceProxy` object. Pointers are equal when the objects are. -/
structure ServiceProxy where
  id : ProxyId
  path : ObjectPath
  deriving DecidableEq, Repr

/-- `ShillClient::DeviceState`, without the device proxy. -/
structure DeviceState where
  selectedService : Option ServiceProxy := none
  serviceState : NetworkState := .offline
  deriving DecidableEq, Repr

/-- What a handler does to the outside. -/
inductive Effect
  | postDone (call : ℕ) (error : ErrorPtr WeaveError)
  | runDone (call : ℕ) (error : ErrorPtr WeaveError)
  | postTimeout (service : ServiceProxy)
  | runListener (listener : ℕ)
  | configureService (properties : List (String × Any))
  | requestScan
  | connectService (service : ServiceProxy)
  | registerService (path : ObjectPath)
  | registerDevice (path : ObjectPath)
  | releaseService (path : ObjectPath)
  deriving DecidableEq

/-- A call of `Connect`, with the answers of shill's manager. -/
structure ConnectCall where
  ssid : String
  passphrase : String
  configureService : Except (ErrorChain BrilloError) ObjectPath
  requestScan : Except (ErrorChain BrilloError) Unit := .ok ()

/-- What the `GetProperties` calls of one handler return, `none` for a failed call.
`device i p` answers the `i`-th device query of the handler. -/
structure Replies where
  manager : Option VariantDictionary := none
  device : ℕ → ObjectPath → Option VariantDictionary := fun _ _ => none
  service : Option VariantDictionary := none

/-- `ShillClient`, with the tasks it has queued and the log of its effects. -/
structure ShillClient where
  deviceWhitelist : List String
  connectivityListeners : List ℕ := []
  haveCalledConnect : Bool := false
  connectingService : Option ServiceProxy := none
  connectingServiceError : String := ""
  connectDoneCallback : Option ℕ := none
  devices : PathMap DeviceState := ∅
  connectivityState : NetworkState := .offline
  /-- The queued `ConnectToServiceError` tasks. -/
  timeouts : List ServiceProxy := []
  /-- The queued `NotifyConnectivityListeners` tasks. -/
  notifications : List Bool := []
  /-- How many calls of `Connect` and how many selections there have been. -/
  calls : ℕ := 0
  selections : ℕ := 0
  log : List Effect := []

namespace ShillClient

variable (s : ShillClient)

def emit (e : Effect) : ShillClient := { s with log := e :: s.log }

/-! ## Connectivity -/

/-- The state of the most connected selected service. -/
def bestServiceState : NetworkState :=
  s.devices.toList.foldl (fun best kv => if kv.2.serviceState > best then kv.2.serviceState else best)
    .offline

/-- `GetConnectionState`. -/
def getConnectionState : NetworkState := s.connectivityState

/-- `UpdateConnectivityState`. -/
def updateConnectivityState : ShillClient :=
  let best := s.bestServiceState
  { s with connectivityState := best, notifications := s.notifications ++ [best == .online] }

/-- `NotifyConnectivityListeners`, as the first such task in the queue. -/
def notifyConnectivityListeners : Option ShillClient :=
  match s.notifications with
  | [] => none
  | _ :: rest =>
    some { s with notifications := rest, log := (s.connectivityListeners.map .runListener).reverse ++ s.log }

/-- The device whose selected service is at `path`: the first one in map order. -/
def deviceSelecting (path : ObjectPath) : Option (ObjectPath × DeviceState) :=
  s.devices.toList.find? fun kv => kv.2.selectedService.any fun service => service.path == path

/-- `OnStateChangeForSelectedService`. -/
def onStateChangeForSelectedService (servicePath : ObjectPath) (state : String) : ShillClient :=
  match s.deviceSelecting servicePath with
  | none => s
  | some (devicePath, device) =>
    let device := { device with serviceState := shillServiceStateToNetworkState state }
    updateConnectivityState { s with devices := s.devices.insert devicePath device }

/-! ## The connect attempt -/

/-- `CleanupConnectingService`. -/
def cleanupConnectingService : ShillClient :=
  { s with
    log := match s.connectingService with
      | some service => .releaseService service.path :: s.log
      | none => s.log
    connectingService := none
    connectDoneCallback := none
    haveCalledConnect := false }

/-- The properties `Connect` configures the service with. -/
def serviceProperties (ssid passphrase : String) : List (String × Any) :=
  [(kTypeProperty, .string kTypeWifi), (kSSIDProperty, .string ssid)] ++
  (if passphrase = "" then [(kSecurityProperty, .string kSecurityNone)]
   else [(kPassphraseProperty, .string passphrase), (kSecurityProperty, .string kSecurityPsk)]) ++
  [(kSaveCredentialsProperty, .bool true), (kAutoConnectProperty, .bool true)]

/-- The end of `Connect`: the attempt of call `call` on the configured service begins. -/
def beginAttempt (call : ℕ) (servicePath : ObjectPath) : ShillClient :=
  let service : ServiceProxy := ⟨.connect call, servicePath⟩
  { s with
    connectingService := some service
    connectDoneCallback := some call
    timeouts := s.timeouts ++ [service]
    log := .postTimeout service :: .registerService servicePath :: .connectService service :: s.log }

/-- `Connect`. -/
def connect (c : ConnectCall) : ShillClient :=
  let call := s.calls
  let s := { s with calls := call + 1 }
  if s.connectingService.isSome then
    s.emit (.postDone call (addTo none ⟨"busy", "Already connecting to WiFi network"⟩))
  else
    let s := s.cleanupConnectingService.emit (.configureService (serviceProperties c.ssid c.passphrase))
    match c.configureService with
    | .error e => s.emit (.postDone call (convertError e none))
    | .ok servicePath =>
      let s := s.emit .requestScan
      match c.requestScan with
      | .error e => s.emit (.postDone call (convertError e none))
      | .ok () => s.beginAttempt call servicePath

/-- `callback.Run(error)`, unless it is null, with the calls of `Connect` it makes. -/
def runDone (callback : Option ℕ) (error : ErrorPtr WeaveError) (reentry : List ConnectCall) :
    ShillClient :=
  match callback with
  | none => s
  | some call => reentry.foldl connect (s.emit (.runDone call error))

/-- `OnErrorChangeForConnectingService`. -/
def onErrorChangeForConnectingService (error : String) (reentry : List ConnectCall) : ShillClient :=
  if error = "" then s
  else
    s.cleanupConnectingService.runDone s.connectDoneCallback
      (addTo none ⟨error, "Failed to connect to WiFi network"⟩) reentry

/-- The error `ConnectToServiceError` reports. -/
def attemptError : String :=
  let error := if s.haveCalledConnect then s.connectingServiceError else kErrorOutOfRange
  if error = "" then kErrorInternal else error

/-- `ConnectToServiceError`. -/
def connectToServiceError (connectingService : Option ServiceProxy) (reentry : List ConnectCall) :
    ShillClient :=
  if connectingService ≠ s.connectingService ∨ s.connectDoneCallback = none then s
  else s.onErrorChangeForConnectingService s.attemptError reentry

/-- `OnStateChangeForConnectingService`. -/
def onStateChangeForConnectingService (state : String) (reentry : List ConnectCall) : ShillClient :=
  match shillServiceStateToNetworkState state with
  | .online => s.cleanupConnectingService.runDone s.connectDoneCallback none reentry
  | .error => s.connectToServiceError s.connectingService reentry
  | .offline | .connecting => s

/-- `OnStrengthChangeForConnectingService`. -/
def onStrengthChangeForConnectingService (strength : UInt8) : ShillClient :=
  if strength = 0 ∨ s.haveCalledConnect then s
  else
    { s with
      haveCalledConnect := true
      log := match s.connectingService with
        | some service => .connectService service :: s.log
        | none => s.log }

/-! ## Service signals -/

/-- `connecting_service_` is set and at `path`. -/
def isConnecting (path : ObjectPath) : Bool := s.connectingService.any fun service => service.path == path

/-- `OnServicePropertyChange`. -/
def onServicePropertyChange (servicePath : ObjectPath) (name : String) (value : Any)
    (reentry : List ConnectCall) : ShillClient :=
  let isConnectingService := s.isConnecting servicePath
  if name = kStateProperty then
    let state := value.tryGetString
    if state = "" then s
    else
      let s := s.onStateChangeForSelectedService servicePath state
      if isConnectingService then s.onStateChangeForConnectingService state reentry else s
  else if name = kSignalStrengthProperty then
    if isConnectingService then s.onStrengthChangeForConnectingService value.tryGetUInt8 else s
  else if name = kErrorProperty then
    if isConnectingService then { s with connectingServiceError := value.tryGetString } else s
  else s

/-- One round of the loop over the initial property values. -/
def replayProperty (path : ObjectPath) (properties : VariantDictionary) (reentry : List ConnectCall)
    (name : String) : ShillClient :=
  match properties name with
  | none => s
  | some value => s.onServicePropertyChange path name value reentry

/-- `OnServicePropertyChangeRegistration`. -/
def onServicePropertyChangeRegistration (path : ObjectPath) (success : Bool) (replies : Replies)
    (reentry : List ConnectCall) : ShillClient :=
  let known := s.isConnecting path || (s.deviceSelecting path).isSome
  -- the service is looked up before the cleanup, which a failure for the connecting one does
  let s := if s.isConnecting path && !success then s.cleanupConnectingService else s
  if !known || !success then s
  else
    match replies.service with
    | none => s
    | some properties =>
      [kStateProperty, kSignalStrengthProperty, kErrorProperty].foldl
        (fun s name => s.replayProperty path properties reentry name) s

/-! ## Device signals -/

/-- `GetStateForService`. -/
def getStateForService (properties : Option VariantDictionary) : Option String :=
  match properties with
  | none => none
  | some properties =>
    match properties kStateProperty with
    | none => none
    | some value => if value.tryGetString = "" then none else some value.tryGetString

/-- The device's new selection: it reuses the connecting service, takes a new proxy, or has
no service. -/
def selectService (devicePath : ObjectPath) (device : DeviceState) (servicePath : ObjectPath)
    (replies : Replies) : ShillClient :=
  if servicePath.value ≠ "/" ∧ s.isConnecting servicePath then
    -- its signals may have been registered long before, so its state is read now
    let serviceState := match getStateForService replies.service with
      | some state => shillServiceStateToNetworkState state
      | none => device.serviceState
    { s with devices := s.devices.insert devicePath ⟨s.connectingService, serviceState⟩ }
  else if servicePath.value ≠ "/" then
    let service : ServiceProxy := ⟨.selected s.selections, servicePath⟩
    { s with
      devices := s.devices.insert devicePath { device with selectedService := some service }
      selections := s.selections + 1
      log := .registerService servicePath :: s.log }
  else
    { s with devices := s.devices.insert devicePath device }

/-- `OnDevicePropertyChange`. -/
def onDevicePropertyChange (devicePath : ObjectPath) (name : String) (value : Any) (replies : Replies) :
    ShillClient :=
  if name ≠ kSelectedServiceProperty then s
  else
    match s.devices[devicePath]? with
    | none => s
    | some device =>
      let servicePath := value.tryGetPath
      if !servicePath.isValid then s
      else if device.selectedService.any fun service => service.path == servicePath then s
      else
        -- the old proxy is dropped, without a release of its signals
        let removedOldService := device.selectedService.isSome
        let device := if removedOldService then {} else device
        let reuseConnectingService := servicePath.value ≠ "/" ∧ s.isConnecting servicePath
        let s := s.selectService devicePath device servicePath replies
        if reuseConnectingService ∨ removedOldService then s.updateConnectivityState else s

/-- `OnDevicePropertyChangeRegistration`. -/
def onDevicePropertyChangeRegistration (devicePath : ObjectPath) (success : Bool) (replies : Replies) :
    Option ShillClient :=
  match s.devices[devicePath]? with
  | none => some s
  | some _ =>
    if !success then none
    else
      match replies.device 0 devicePath with
      | none => some s
      | some properties =>
        match properties kSelectedServiceProperty with
        | none => some s
        | some value => some (s.onDevicePropertyChange devicePath kSelectedServiceProperty value replies)

/-! ## Manager signals -/

/-- `IsMonitoredDevice`, with the device's properties. -/
def isMonitoredDevice (properties : Option VariantDictionary) : Bool :=
  if s.deviceWhitelist = [] then true
  else
    match properties with
    | none => false
    | some properties =>
      match properties kInterfaceProperty with
      | none => false
      | some value => s.deviceWhitelist.contains value.tryGetString

/-- The loop over the device list: the devices not seen yet, and whether one was added. -/
structure DeviceScan where
  client : ShillClient
  devicePathsToRemove : List ObjectPath
  updateConnectivity : Bool

/-- One round of the loop, for a valid path. -/
def DeviceScan.visit (scan : DeviceScan) (properties : Option VariantDictionary)
    (devicePath : ObjectPath) : DeviceScan :=
  match scan.client.devices[devicePath]? with
  | some _ => { scan with devicePathsToRemove := scan.devicePathsToRemove.erase devicePath }
  | none =>
    if scan.client.isMonitoredDevice properties then
      { scan with
        client := { scan.client with
          devices := scan.client.devices.insert devicePath {}
          log := .registerDevice devicePath :: scan.client.log }
        updateConnectivity := true }
    else scan

/-- The loop from its `i`-th round on. It stops at an invalid path (`false`). -/
def DeviceScan.loop (replies : Replies) : ℕ → List ObjectPath → DeviceScan → Bool × DeviceScan
  | _, [], scan => (true, scan)
  | i, devicePath :: rest, scan =>
    if !devicePath.isValid then (false, scan)
    else loop replies (i + 1) rest (scan.visit (replies.device i devicePath) devicePath)

/-- The devices not seen in the list are dropped. -/
def removeDevices (paths : List ObjectPath) : ShillClient :=
  { s with devices := paths.foldl (fun devices path => devices.erase path) s.devices }

/-- `OnManagerPropertyChange`. -/
def onManagerPropertyChange (name : String) (value : Any) (replies : Replies) : ShillClient :=
  if name ≠ kDevicesProperty then s
  else
    let (done, scan) := DeviceScan.loop replies 0 value.tryGetPaths
      { client := s, devicePathsToRemove := s.devices.keys, updateConnectivity := false }
    -- an early return: the devices added so far stay, the others are not removed
    if !done then scan.client
    else
      let s := scan.client.removeDevices scan.devicePathsToRemove
      if scan.updateConnectivity || !scan.devicePathsToRemove.isEmpty then s.updateConnectivityState
      else s

/-- The device list in the manager's properties: shill always publishes one. -/
def onManagerProperties (replies : Replies) : Option ShillClient :=
  match replies.manager with
  | none => some s
  | some properties =>
    match properties kDevicesProperty with
    | none => none
    | some value => some (s.onManagerPropertyChange kDevicesProperty value replies)

/-- `OnManagerPropertyChangeRegistration`. -/
def onManagerPropertyChangeRegistration (success : Bool) (replies : Replies) : Option ShillClient :=
  if !success then none else s.onManagerProperties replies

/-! ## Life cycle -/

/-- Forgets the attempt, the devices and the connectivity. -/
def reset : ShillClient := { s.cleanupConnectingService with devices := ∅, connectivityState := .offline }

/-- `Init`. -/
def init (replies : Replies) : Option ShillClient := s.reset.onManagerProperties replies

/-- `OnShillServiceOwnerChange`. -/
def onShillServiceOwnerChange (newOwner : String) (replies : Replies) : Option ShillClient :=
  if newOwner = "" then some s.reset else s.init replies

/-- What can happen to a `ShillClient` between two turns of its message loop. -/
inductive Event
  | connect (c : ConnectCall)
  | addConnectionChangedCallback (listener : ℕ)
  | ownerChange (newOwner : String) (replies : Replies)
  | managerRegistration (success : Bool) (replies : Replies)
  | managerProperty (name : String) (value : Any) (replies : Replies)
  | deviceRegistration (path : ObjectPath) (success : Bool) (replies : Replies)
  | deviceProperty (path : ObjectPath) (name : String) (value : Any) (replies : Replies)
  | serviceRegistration (path : ObjectPath) (success : Bool) (replies : Replies)
      (reentry : List ConnectCall)
  | serviceProperty (path : ObjectPath) (name : String) (value : Any) (reentry : List ConnectCall)
  | timeout (service : ServiceProxy) (reentry : List ConnectCall)
  | notify

/-- One event. A timeout is taken from the queue, whichever it is. -/
def next : Event → Option ShillClient
  | .connect c => some (s.connect c)
  | .addConnectionChangedCallback l => some { s with connectivityListeners := s.connectivityListeners ++ [l] }
  | .ownerChange newOwner replies => s.onShillServiceOwnerChange newOwner replies
  | .managerRegistration success replies => s.onManagerPropertyChangeRegistration success replies
  | .managerProperty name value replies => some (s.onManagerPropertyChange name value replies)
  | .deviceRegistration path success replies => s.onDevicePropertyChangeRegistration path success replies
  | .deviceProperty path name value replies => some (s.onDevicePropertyChange path name value replies)
  | .serviceRegistration path success replies reentry =>
    some (s.onServicePropertyChangeRegistration path success replies reentry)
  | .serviceProperty path name value reentry => some (s.onServicePropertyChange path name value reentry)
  | .timeout service reentry =>
    if service ∈ s.timeouts then
      some (connectToServiceError { s with timeouts := s.timeouts.erase service } (some service) reentry)
    else none
  | .notify => s.notifyConnectivityListeners

/-- The constructor: the members' defaults, then `Init`. -/
def create (deviceWhitelist : List String) (replies : Replies) : Option ShillClient :=
  init { deviceWhitelist } replies

/-- All runs of a `ShillClient`. -/
def machine : Machine ShillClient Event where
  start s := ∃ deviceWhitelist replies, create deviceWhitelist replies = some s
  next := next

end ShillClient

end SystemWeaved
