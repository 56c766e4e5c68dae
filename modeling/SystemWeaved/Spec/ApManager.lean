import SystemWeaved.Lib.Machine
import SystemWeaved.Spec.DBus

/-!
# The soft-AP client (`buffet/ap_manager_client.cc`)

`ApManagerClient` asks apmanager for one access-point service. It learns of the manager and of
the services from an `ObjectManagerProxy`, which owns their proxies: the client keeps plain
pointers to them.

* Object managers are numbered as they are made. A manager proxy carries the number of its owner,
  so that a pointer into an object manager that is gone is told from one that is held.
* A call through a pointer is recorded with the pointer and the object manager held at that
  time (`ManagerUse`). Nothing is known after a call through a missing or stale one: no event
  follows.
-/

namespace SystemWeaved

/-- A path that has come in a D-Bus message as an object path. -/
abbrev ValidPath := { path : ObjectPath // path.isValid }

namespace apmanager

/-- `ManagerProxy`, with the number of the object manager that owns it. -/
structure ManagerProxy where
  owner : ℕ
  path : ValidPath
  deriving DecidableEq

/-- `ServiceProxy`, with the path of its config. -/
structure ServiceProxy where
  path : ValidPath
  config : ObjectPath
  deriving DecidableEq

end apmanager

open apmanager

/-- A use of a pointer to a manager, and the object manager held. -/
structure ManagerUse where
  proxy : Option ManagerProxy
  held : Option ℕ
  deriving DecidableEq

/-- The pointer is not null, and its manager belongs to the object manager held. -/
def ManagerUse.Good (use : ManagerUse) : Prop := ∃ manager, use.proxy = some manager ∧ use.held = some manager.owner

instance (use : ManagerUse) : Decidable use.Good :=
  decidable_of_iff (use.proxy.any fun manager => use.held == some manager.owner) <| by
    unfold ManagerUse.Good
    cases use.proxy <;> simp

/-- What `ApManagerClient` does to the outside, and the lines it logs. -/
inductive ApEffect
  | managerAdded (path : ValidPath)
  | serviceAdded (path : ValidPath)
  | serviceRemoved (path : ValidPath)
  | managerRemoved (path : ValidPath)
  | createService (use : ManagerUse) (reply : Option ValidPath)
  | removeService (use : ManagerUse) (path : ObjectPath)
  | setSsid (config : ObjectPath) (ssid : String)
  | startService (path : ValidPath)
  deriving DecidableEq

/-- `ApManagerClient`, with the log of its effects, newest first. -/
structure ApManagerClient where
  objectManagerProxy : Option ℕ := none
  managerProxy : Option ManagerProxy := none
  servicePath : ObjectPath := ⟨""⟩
  serviceProxy : Option apmanager.ServiceProxy := none
  ssid : String := ""
  /-- How many object managers there have been. -/
  objectManagers : ℕ := 0
  /-- The client is destroyed, or has called through a pointer to nothing. -/
  ended : Bool := false
  log : List ApEffect := []

namespace ApManagerClient

variable (s : ApManagerClient)

def emit (e : ApEffect) : ApManagerClient := { s with log := e :: s.log }

/-- `Start`. -/
def start (ssid : String) : ApManagerClient :=
  if s.servicePath.isValid then s
  else
    -- `manager_proxy_` stays, although the object manager that owns it is destroyed
    { s with ssid := ssid, objectManagerProxy := some s.objectManagers, objectManagers := s.objectManagers + 1 }

/-- `RemoveService`, on a valid path. A failed call is only logged. -/
def removeService (path : ObjectPath) : ApManagerClient :=
  let use : ManagerUse := ⟨s.managerProxy, s.objectManagerProxy⟩
  { s.emit (.removeService use path) with ended := s.ended || !decide use.Good }

/-- `Stop`. -/
def stop : ApManagerClient :=
  let s := if s.managerProxy.isSome && s.servicePath.isValid then s.removeService s.servicePath else s
  { s with
    servicePath := ⟨""⟩
    serviceProxy := none
    managerProxy := none
    objectManagerProxy := none
    ssid := "" }

/-- `OnManagerAdded`, with the answer of `CreateService`. -/
def onManagerAdded (manager : ManagerProxy) (reply : Option ValidPath) : ApManagerClient :=
  let s := { s.emit (.managerAdded manager.path) with managerProxy := some manager }
  if s.servicePath.isValid then s
  else
    { s.emit (.createService ⟨s.managerProxy, s.objectManagerProxy⟩ reply) with
      servicePath := match reply with
        | some path => path.val
        | none => s.servicePath }

/-- `OnServiceAdded`. A service that is not the client's own is a leftover. -/
def onServiceAdded (service : apmanager.ServiceProxy) : ApManagerClient :=
  let s := s.emit (.serviceAdded service.path)
  if service.path.val ≠ s.servicePath then s.removeService service.path.val
  else { s.emit (.setSsid service.config s.ssid) with serviceProxy := some service }

/-- `OnSsidSet`. -/
def onSsidSet (success : Bool) : ApManagerClient :=
  match success, s.serviceProxy with
  | true, some service => s.emit (.startService service.path)
  | _, _ => s

/-- `OnServiceRemoved`. -/
def onServiceRemoved (path : ValidPath) : ApManagerClient :=
  let s := s.emit (.serviceRemoved path)
  if path.val ≠ s.servicePath then s
  else { s with servicePath := ⟨""⟩, serviceProxy := none }

/-- `OnManagerRemoved`. -/
def onManagerRemoved (path : ValidPath) : ApManagerClient :=
  stop { s.emit (.managerRemoved path) with managerProxy := none }

/-- `~ApManagerClient`. -/
def destroy : ApManagerClient := { s.stop with ended := true }

/-- What can happen to an `ApManagerClient`. -/
inductive Event
  | start (ssid : String)
  | stop
  | managerAdded (path : ValidPath) (reply : Option ValidPath)
  | serviceAdded (service : apmanager.ServiceProxy)
  | ssidSet (success : Bool)
  | serviceRemoved (path : ValidPath)
  | managerRemoved (path : ValidPath)
  | destroy
  deriving DecidableEq

/-- One event. The object manager's callbacks come only while it is held. -/
def next (e : Event) : Option ApManagerClient :=
  if s.ended then none
  else
    match e, s.objectManagerProxy with
    | .start ssid, _ => some (s.start ssid)
    | .stop, _ => some s.stop
    | .ssidSet success, _ => some (s.onSsidSet success)
    | .destroy, _ => some s.destroy
    | .managerAdded path reply, some owner => some (s.onManagerAdded ⟨owner, path⟩ reply)
    | .serviceAdded service, some _ => some (s.onServiceAdded service)
    | .serviceRemoved path, some _ => some (s.onServiceRemoved path)
    | .managerRemoved path, some _ => some (s.onManagerRemoved path)
    | _, none => none

/-- All runs of an `ApManagerClient`. -/
def machine : Machine ApManagerClient Event where
  start s := s = {}
  next := next

end ApManagerClient

end SystemWeaved
