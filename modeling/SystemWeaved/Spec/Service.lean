import SystemWeaved.Spec.Binder

/-!
# A client of weaved (`libweaved/service.cc`)

A client process with one `Service::Subscription`. The subscription has the only lasting
reference to its `ServiceImpl`, so a weak pointer to the `ServiceImpl` with number `g` can be
locked as long as the subscription owns `g` (`lock`). Tasks and death notifications hold
weak pointers, too: those to a `ServiceImpl` that is gone do nothing.

`TryConnecting` makes four binder calls, and `AddCommandHandler` one. Between two calls the
task is suspended (`Frame`), since death notices can come in any of them.
-/

namespace SystemWeaved

/-- A proxy of an `IWeaveService`: the weaved process it is in, and the object there. -/
structure WeaveService where
  weaved : ℕ
  service : BinderWeaveService
  deriving DecidableEq

/-- `ServiceImpl::CommandHandlerEntry`. -/
structure CommandHandlerEntry where
  component : String
  commandName : String
  callback : ℕ
  deriving DecidableEq

/-- `ServiceImpl`. -/
structure ServiceImpl where
  id : ℕ
  weaveServiceManager : Option ℕ := none
  weaveService : Option WeaveService := none
  commandHandlers : List CommandHandlerEntry := []

/-- `ServiceSubscription`. -/
structure ServiceSubscription where
  service : Option ServiceImpl

/-- A task in the message loop, for the `ServiceImpl` with the number. -/
inductive ClientTask
  | tryConnecting (impl : ℕ)
  | reconnectOnServiceDisconnection (impl : ℕ)
  deriving DecidableEq

/-- The `ServiceImpl` of the task. -/
def ClientTask.impl : ClientTask → ℕ
  | .tryConnecting impl | .reconnectOnServiceDisconnection impl => impl

/-- Where the thread of the client is: in its message loop, in `TryConnecting` after the
first, second or third binder call, or in the call of `AddCommandHandler`. -/
inductive Frame (S : Strings)
  | messageLoop
  | gotService (impl weaved : ℕ)
  | watchesService (impl weaved : ℕ)
  | connected (impl weaved : ℕ)
  | registering (service : WeaveService) (component command : S.String16)

/-- What the client does, newest first in its log. -/
inductive ClientEffect
  | connect (weaved : ℕ) (client : WeaveClient)
  | connectionCallback (impl : ℕ)
  | addCommandHandler (impl : ℕ) (entry : CommandHandlerEntry)
  | runHandler (callback command : ℕ)
  | abort (command : ℕ) (errorCode errorMessage : String)
  | unexpectedCommand (command : ℕ)
  deriving DecidableEq

/-- A death notification that has been asked for and not delivered. -/
structure DeathNotification where
  weaved : ℕ
  impl : ℕ
  deriving DecidableEq

/-- A client process. -/
structure Client (S : Strings) where
  running : Bool := true
  subscription : Option ServiceSubscription := none
  tasks : List ClientTask := []
  deathNotifications : List DeathNotification := []
  frame : Frame S := .messageLoop
  /-- How many `ServiceImpl` and `WeaveClient` objects have been made. -/
  impls : ℕ := 0
  weaveClients : ℕ := 0
  log : List ClientEffect := []

namespace Client

variable {S : Strings} (c : Client S)

/-- The `ServiceImpl` the subscription owns. -/
def owned : Option ServiceImpl := c.subscription.bind ServiceSubscription.service

/-- A weak pointer is locked. -/
def lock (impl : ℕ) : Option ServiceImpl := c.owned.filter fun service => service.id = impl

def emit (e : ClientEffect) : Client S := { c with log := e :: c.log }

def postTask (task : ClientTask) : Client S := { c with tasks := c.tasks ++ [task] }

/-- A member of the owned `ServiceImpl` is written. -/
def setOwned (service : ServiceImpl) : Client S := { c with subscription := some ⟨some service⟩ }

/-- `std::make_shared<ServiceImpl>`, `BeginConnect` and `SetService`. -/
def beginConnect : Client S :=
  let service : ServiceImpl := { id := c.impls }
  ({ c with impls := c.impls + 1, subscription := some ⟨some service⟩ }).postTask (.tryConnecting service.id)

/-- `Service::Connect`. -/
def serviceConnect : Option (Client S) :=
  match c.subscription with
  | some _ => none
  | none => some c.beginConnect

/-- The subscription is destroyed, and its `ServiceImpl` with it. The destructor unregisters
the binder of `weave_service_`, which has never been registered. -/
def destroySubscription : Client S := { c with subscription := none }

/-- `OnWeaveServiceDisconnected`. -/
def onWeaveServiceDisconnected (impl : ℕ) : Client S :=
  match c.lock impl with
  | some _ => c.postTask (.reconnectOnServiceDisconnection impl)
  | none => c

/-- `ReconnectOnServiceDisconnection`: the old `ServiceImpl` is destroyed. -/
def reconnectOnServiceDisconnection (impl : ℕ) : Client S :=
  match c.lock impl with
  | some _ => c.beginConnect
  | none => c

/-- `TryConnecting` up to `GetService`, which finds a weaved or none. -/
def tryConnecting (impl : ℕ) (binder : Option ℕ) : Client S :=
  match c.lock impl with
  | none => c
  | some _ =>
    match binder with
    -- tried again in a second
    | none => c.postTask (.tryConnecting impl)
    | some weaved => { c with frame := .gotService impl weaved }

/-- `TryConnecting`: `RegisterForDeathNotifications`, which can fail. -/
def registerForDeathNotifications (impl weaved : ℕ) (success : Bool) : Client S :=
  if !success then ({ c with frame := .messageLoop }).onWeaveServiceDisconnected impl
  else
    { c with deathNotifications := c.deathNotifications ++ [⟨weaved, impl⟩], frame := .watchesService impl weaved }

/-- `TryConnecting`: the `WeaveClient` it makes for `connect`. -/
def makeWeaveClient (client impl : ℕ) : WeaveClient := ⟨client, impl, c.weaveClients⟩

/-- `TryConnecting`: `connect` on the manager of a weaved. -/
def connectManager (client impl weaved : ℕ) : Client S :=
  match c.lock impl with
  | none => c
  | some service =>
    let weaveClient := c.makeWeaveClient client impl
    ({ c with weaveClients := c.weaveClients + 1, frame := .connected impl weaved }.setOwned
      { service with weaveServiceManager := some weaved }).emit (.connect weaved weaveClient)

/-- `WeaveClient::onServiceConnected` and `ServiceImpl::OnServiceConnected`. -/
def onServiceConnected (weaveClient : WeaveClient) (service : WeaveService) : Client S :=
  match c.lock weaveClient.serviceImpl with
  | none => c
  | some impl =>
    (c.setOwned { impl with weaveService := some service }).emit (.connectionCallback impl.id)

/-- The first entry of the table for a command. -/
def findHandler (entries : List CommandHandlerEntry) (component commandName : String) :
    Option CommandHandlerEntry :=
  entries.find? fun entry => entry.component = component ∧ entry.commandName = commandName

/-- `WeaveClient::onCommand` and `ServiceImpl::OnCommand`. -/
def onCommand (weaveClient : WeaveClient) (componentName commandName : S.String16) (command : ℕ) : Client S :=
  match c.lock weaveClient.serviceImpl with
  | some impl =>
    match findHandler impl.commandHandlers (S.ToString componentName) (S.ToString commandName) with
    | some entry => c.emit (.runHandler entry.callback command)
    -- only a warning: the command is dropped
    | none => c.emit (.unexpectedCommand command)
  | none => c.emit (.abort command "service_unavailable" "Command handler is unavailable")

/-- `base::StringPrintf("%s.%s", trait_name.c_str(), command_name.c_str())`. -/
def fullCommandName (traitName commandName : String) : String := cStr traitName ++ "." ++ cStr commandName

/-- A failed `CHECK`, or the end of the process for another reason. -/
def exit : Client S := { c with running := false }

/-- `AddCommandHandler` up to its binder call, on the `ServiceImpl` the client has been handed. -/
def addCommandHandler (component traitName commandName : String) (callback : ℕ) : Option (Client S) :=
  match c.owned with
  | none => none
  | some impl =>
    if .connectionCallback impl.id ∉ c.log then none
    else if component = "" ∨ commandName = "" then some c.exit
    else
      match impl.weaveService with
      | none => some c.exit
      | some service =>
        let entry : CommandHandlerEntry := ⟨component, fullCommandName traitName commandName, callback⟩
        some (({ c with frame := .registering service (S.ToString16 component) (S.ToString16 entry.commandName) }.setOwned
          { impl with commandHandlers := impl.commandHandlers ++ [entry] }).emit (.addCommandHandler impl.id entry))

/-- `AddCommandHandler` after its binder call: `CHECK(status.isOk())`. -/
def commandHandlerAdded (isOk : Bool) : Client S :=
  if isOk then { c with frame := .messageLoop } else c.exit

end Client

end SystemWeaved
