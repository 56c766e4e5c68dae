import SystemWeaved.Lib.Machine
import Mathlib.Logic.Function.Basic

/-!
# The objects of weaved (`buffet/manager.cc`, `buffet/manager.h`)

`Manager` owns the `weave::Device` and the providers that the device is made with; the device
keeps plain pointers to them. `RestartWeave`, `CreateDevice`, `Stop` and the destructor are the
statements that make and destroy objects, in their order. weaved has one thread: a function
runs to its end before the next event.

Objects are numbered as they are made.
-/

namespace SystemWeaved

/-- The members of `Manager` that are handed to the device, in the order they are declared. -/
inductive Provider
  | taskRunner | bluetoothClient | config | httpClient | shillClient | mdnsClient | webServClient
  deriving DecidableEq, Repr

namespace Provider

/-- In the order they are declared. -/
def all : List Provider :=
  [taskRunner, bluetoothClient, config, httpClient, shillClient, mdnsClient, webServClient]

end Provider

/-- `weave::Device`, with the pointers it has been made with. -/
structure DeviceObject where
  id : ℕ
  pointers : Provider → Option ℕ

/-- What a statement does to the objects. -/
inductive Statement
  /-- `device_.reset()`. -/
  | resetDevice
  /-- `p.reset()`. -/
  | reset (p : Provider)
  /-- `p.reset(new ...)` and `p = CreateInstance()`. -/
  | make (p : Provider)
  /-- `device_ = weave::Device::Create(...)`, unless there is one. -/
  | createDevice
  deriving DecidableEq, Repr

/-- The objects that `Manager` owns, and those that have been destroyed, newest first. -/
structure Objects where
  providers : Provider → Option ℕ := fun _ => none
  device : Option DeviceObject := none
  made : ℕ := 0
  destroyed : List ℕ := []

namespace Objects

variable (o : Objects)

/-- One statement. -/
def exec : Statement → Objects
  | .resetDevice => { o with
      device := none
      destroyed := (o.device.map DeviceObject.id).toList ++ o.destroyed }
  | .reset p => { o with
      providers := Function.update o.providers p none
      destroyed := (o.providers p).toList ++ o.destroyed }
  | .make p => { o with
      providers := Function.update o.providers p (some o.made)
      made := o.made + 1
      destroyed := (o.providers p).toList ++ o.destroyed }
  | .createDevice =>
    match o.device with
    | some _ => o
    | none => { o with device := some ⟨o.made, o.providers⟩, made := o.made + 1 }

end Objects

/-- `Manager::Options`, and whether weaved is built with `BUFFET_USE_WIFI_BOOTSTRAPPING`. -/
structure ManagerOptions where
  useWifiBootstrapping : Bool
  disablePrivet : Bool
  deriving DecidableEq, Repr

namespace ManagerOptions

variable (options : ManagerOptions)

/-- `Stop`. -/
def stop : List Statement :=
  [.resetDevice] ++
  (if options.useWifiBootstrapping then [.reset .webServClient, .reset .mdnsClient] else []) ++
  [.reset .shillClient, .reset .httpClient, .reset .config, .reset .taskRunner]

/-- `RestartWeave`. Without a web server the device is created at once. -/
def restartWeave : List Statement :=
  options.stop ++ [.make .taskRunner, .make .config, .make .httpClient, .make .shillClient] ++
  (if options.useWifiBootstrapping && !options.disablePrivet then
    [.make .mdnsClient, .make .webServClient, .make .bluetoothClient]
  else [.createDevice])

/-- `~Manager`: the members are destroyed in the opposite order of their declarations. -/
def destructor : List Statement := .resetDevice :: Provider.all.reverse.map .reset

end ManagerOptions

/-- `Manager` with the statements it still has to run. -/
structure Lifetime where
  objects : Objects := {}
  code : List Statement := []
  /-- The objects that had been made when `RestartWeave` was called last. -/
  born : ℕ := 0
  /-- `~Manager` has been called. -/
  gone : Bool := false
  /-- The `base.reboot` commands that have been completed. -/
  completed : ℕ := 0
  /-- The `RebootDeviceNow` tasks that are queued. -/
  queued : ℕ := 0
  reboots : ℕ := 0
  /-- The `RebootDeviceNow` tasks that have found the `Manager` gone. -/
  expired : ℕ := 0
  /-- A null `task_runner_` has been used. -/
  fault : Bool := false

namespace Lifetime

variable (options : ManagerOptions) (s : Lifetime)

/-- `OnRebootDevice`, for a command that is gone or cannot be completed, or that is. -/
def onRebootDevice (completed : Bool) : Lifetime :=
  if !completed then s
  else
    match s.objects.providers .taskRunner with
    | some _ => { s with completed := s.completed + 1, queued := s.queued + 1 }
    | none => { s with completed := s.completed + 1, fault := true }

/-- The task `RebootDeviceNow`, which has a weak pointer to the `Manager`. -/
def rebootDeviceNow : Lifetime :=
  if s.gone then { s with queued := s.queued - 1, expired := s.expired + 1 }
  else { s with queued := s.queued - 1, reboots := s.reboots + 1 }

inductive Event
  | restartWeave
  | stop
  /-- `WebServClient` runs `server_available_callback_`, which is `CreateDevice`. -/
  | serverAvailable
  | destroyManager
  | statement
  /-- The device runs its handler for `base.reboot`. -/
  | rebootCommand (completed : Bool)
  | rebootDeviceNow
  deriving DecidableEq

/-- A function begins, if no other one is running. -/
def call (code : List Statement) : Option Lifetime :=
  if s.code = [] ∧ s.gone = false then some { s with code } else none

/-- One event. -/
def next : Event → Option Lifetime
  | .restartWeave => (s.call options.restartWeave).map fun s => { s with born := s.objects.made }
  | .stop => s.call options.stop
  | .serverAvailable =>
    if (s.objects.providers .webServClient).isSome then s.call [.createDevice] else none
  | .destroyManager => (s.call ManagerOptions.destructor).map fun s => { s with gone := true }
  | .statement =>
    match s.code with
    | [] => none
    | statement :: code => some { s with objects := s.objects.exec statement, code }
  | .rebootCommand completed =>
    if s.objects.device.isSome ∧ s.code = [] then some (s.onRebootDevice completed) else none
  | .rebootDeviceNow => if s.queued ≠ 0 ∧ s.code = [] then some s.rebootDeviceNow else none

/-- All runs of a `Manager`. -/
def machine : Machine Lifetime Event where
  start s := s = {}
  next s e := s.next options e

end Lifetime

end SystemWeaved
