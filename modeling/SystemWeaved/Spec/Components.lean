import SystemWeaved.Spec.ServiceCalls

/-!
# Components over binder (`buffet/binder_weave_service.cc`, `libweaved/service.cc`)

Clients add components to the device and set their state. A method of `ServiceImpl` makes a
call of its `BinderWeaveService`, that one calls the `weave::Device` (libweave), and what the
device answers goes back as a `Status`. weaved handles one call at a time, in the order they come.
A client that fails a `CHECK` ends there, and makes no more calls.
-/

namespace SystemWeaved

/-- The calls of `weave::Device` that `BinderWeaveService` makes. -/
inductive DeviceCall
  | addComponent (name : String) (traits : List String)
  | setStatePropertiesFromJson (component json : String)
  deriving DecidableEq, Repr

/-- `weave::Device` (libweave): what its calls return and do. A call that returns false sets the
error, which is null before. -/
structure WeaveDevice where
  State : Type
  run : DeviceCall → State → (Bool × ErrorPtr WeaveError) × State
  error_of_false : ∀ call device, (run call device).1.1 = false → (run call device).1.2.isSome

/-- What a method of `ServiceImpl` has returned, with the error it was given. -/
structure MethodResult where
  given : ErrorPtr BrilloError
  success : Bool
  error : ErrorPtr BrilloError
  deriving DecidableEq, Repr

/-- The device, the `components_` of each `BinderWeaveService` and what the methods have returned. -/
structure ComponentSystem (D : WeaveDevice) where
  device : D.State
  components : ℕ → List String := fun _ => []
  results : List MethodResult := []
  /-- The clients that a `CHECK` has ended. -/
  ended : List ℕ := []

namespace ComponentSystem

variable {S : Strings} {J : JsonPaths} {D : WeaveDevice} (s : ComponentSystem D)

/-- `BinderWeaveService::addComponent`. There is no status if a null error is dereferenced. -/
def addComponent (service : ℕ) (name : S.String16) (traits : List S.String16) :
    Option (Status × ComponentSystem D) :=
  let componentName := S.ToString name
  let supportedTraits := traits.map S.ToString
  let ((success, error), device) := D.run (.addComponent componentName supportedTraits) s.device
  let s := { s with device }
  if !success then (toStatus false error).map fun status => (status, s)
  else some (.ok, { s with
    components := Function.update s.components service (s.components service ++ [componentName]) })

/-- `BinderWeaveService::updateState`. -/
def updateState (component state : S.String16) : Option (Status × ComponentSystem D) :=
  let ((success, error), device) :=
    D.run (.setStatePropertiesFromJson (S.ToString component) (S.ToString state)) s.device
  (toStatus success error).map fun status => (status, { s with device })

/-- A call arrives at a service. -/
def onTransact (service : ℕ) : WeaveServiceCall S → Option (Status × ComponentSystem D)
  | .addComponent name traits => s.addComponent service name traits
  | .updateState component state => s.updateState component state

/-- A method that a client calls on its `ServiceImpl`, with the error it passes. -/
structure Event (J : JsonPaths) where
  client : ℕ
  impl : ServiceImpl
  method : ServiceMethod J
  error : ErrorPtr BrilloError

/-- One call, from the client to the device and back. A `CHECK` that fails ends the client
before its call. -/
def next (S : Strings) (s : ComponentSystem D) (e : Event J) : Option (ComponentSystem D) :=
  if e.client ∈ s.ended then none
  else
    match e.impl.call S e.method with
    | none => some { s with ended := e.client :: s.ended }
    | some (service, call) => (s.onTransact service.service.id call).map fun (status, s) =>
      let (success, error) := statusToError status e.error
      { s with results := s.results ++ [⟨e.error, success, error⟩] }

/-- All runs on a device. -/
def machine (S : Strings) (J : JsonPaths) (D : WeaveDevice) : Machine (ComponentSystem D) (Event J) where
  start s := ∃ device, s = { device }
  next := next S

end ComponentSystem

/-- A call that the device has got, for a service, and what it has returned. -/
structure DirectCall where
  service : ℕ
  call : DeviceCall
  reply : Bool × ErrorPtr WeaveError

/-- The device as if it were called directly: its state, and the calls it has got. -/
structure DirectDevice (D : WeaveDevice) where
  device : D.State
  calls : List DirectCall := []

namespace DirectDevice

/-- All runs of calls on a device, for the services they are made for. -/
def machine (D : WeaveDevice) : Machine (DirectDevice D) (ℕ × DeviceCall) where
  start t := t.calls = []
  next t e :=
    let (reply, device) := D.run e.2 t.device
    some { device, calls := t.calls ++ [⟨e.1, e.2, reply⟩] }

end DirectDevice

end SystemWeaved
