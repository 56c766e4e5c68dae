import SystemWeaved.Spec.System

/-!
# Registrations for the death of weaved (`libweaved/service.cc`)

`TryConnecting` registers with the binder of weaved's manager, `~ServiceImpl` unregisters the
binder of `weave_service_`. The calls of each `ServiceImpl` are kept beside the system, with the
deaths it is notified of.
-/

namespace SystemWeaved

/-- A binder of weaved that a `ServiceImpl` has. -/
inductive WeavedBinder
  | manager (weaved : ℕ)
  | service (service : WeaveService)
  deriving DecidableEq

/-- What a `ServiceImpl` of a client has to do with a binder, and its end. -/
inductive DeathCall
  | registered (c impl : ℕ) (binder : WeavedBinder)
  | delivered (c impl : ℕ) (binder : WeavedBinder)
  | unregistered (c impl : ℕ) (binder : WeavedBinder)
  | destroyed (c impl : ℕ)
  deriving DecidableEq

/-- `~ServiceImpl`. -/
def ServiceImpl.destroy (c : ℕ) (impl : ServiceImpl) : List DeathCall :=
  match impl.weaveService with
  | some service => [.destroyed c impl.id, .unregistered c impl.id (.service service)]
  | none => [.destroyed c impl.id]

/-- weaved and its clients, with the calls of all `ServiceImpl` objects, newest first. -/
structure DeathSystem (S : Strings) where
  system : System S := {}
  calls : List DeathCall := []

namespace DeathSystem

variable {S : Strings}

/-- The calls that are made in an event. -/
def deathCalls (s : System S) : System.Event S → List DeathCall
  | .resume c success =>
    match (s.clients c).frame with
    | .gotService impl weaved => if success then [.registered c impl (.manager weaved)] else []
    | _ => []
  | .deathNotice c notification => [.delivered c notification.impl (.manager notification.weaved)]
  | .destroySubscription c =>
    match (s.clients c).owned with
    | some impl => impl.destroy c
    | none => []
  | .runTask c (.reconnectOnServiceDisconnection impl) _ =>
    match (s.clients c).lock impl with
    -- `weave_service_` is cleared before the object is destroyed
    | some service => { service with weaveService := none }.destroy c
    | none => []
  | _ => []

/-- One event. -/
def next (s : DeathSystem S) (e : System.Event S) : Option (DeathSystem S) :=
  (s.system.next e).map fun system => { system, calls := deathCalls s.system e ++ s.calls }

/-- All runs. -/
def machine (S : Strings) : Machine (DeathSystem S) (System.Event S) where
  start s := s = {}
  next := next

end DeathSystem

end SystemWeaved
