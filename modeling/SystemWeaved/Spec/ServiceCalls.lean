import SystemWeaved.Spec.Command
import SystemWeaved.Spec.Pairing
import SystemWeaved.Spec.System

/-!
# What a client does with its service (`libweaved/service.cc`)

The methods of `ServiceImpl` next to `AddCommandHandler`. `AddComponent`, `SetStateProperties`
and `SetStateProperty` make one binder call and report its status. A call to a weaved that is
dead fails, and so may any other.

A `CHECK` that fails ends the client. The clients that have ended for another reason are kept.
-/

namespace SystemWeaved

/-- `base::DictionaryValue` with `Set` (libchrome), which puts a copy of a value at a path. -/
structure JsonPaths extends Json where
  set : toJson.Dictionary → String → toJson.Value → toJson.Dictionary

/-- The calls of `IWeaveService` that `ServiceImpl` waits for, next to `registerCommandHandler`. -/
inductive WeaveServiceCall (S : Strings)
  | addComponent (name : S.String16) (traits : List S.String16)
  | updateState (component state : S.String16)

/-- The methods of `ServiceImpl` that return what became of their call. -/
inductive ServiceMethod (J : JsonPaths)
  | addComponent (component : String) (traits : List String)
  | setStateProperties (component : String) (dict : J.Dictionary)
  | setStateProperty (component traitName propertyName : String) (value : J.Value)

namespace ServiceImpl

variable (S : Strings) {J : JsonPaths} (impl : ServiceImpl)

/-- `AddComponent`: the call that it makes on `weave_service_`, or a `CHECK` that fails. -/
def addComponent (component : String) (traits : List String) : Option (WeaveService × WeaveServiceCall S) :=
  impl.weaveService.map fun service => (service, .addComponent (S.ToString16 component) (traits.map S.ToString16))

/-- `SetStateProperties`: the same. -/
def setStateProperties (component : String) (dict : J.Dictionary) : Option (WeaveService × WeaveServiceCall S) :=
  if component = "" then none
  else impl.weaveService.map fun service =>
    (service, .updateState (S.ToString16 component) (J.ToString16 S dict))

/-- `SetStateProperty`. -/
def setStateProperty (component traitName propertyName : String) (value : J.Value) :
    Option (WeaveService × WeaveServiceCall S) :=
  let name := cStr traitName ++ "." ++ cStr propertyName
  impl.setStateProperties S component (J.set J.empty name value)

/-- The method up to its binder call. -/
def call : ServiceMethod J → Option (WeaveService × WeaveServiceCall S)
  | .addComponent component traits => impl.addComponent S component traits
  | .setStateProperties component dict => impl.setStateProperties S component dict
  | .setStateProperty component traitName propertyName value =>
    impl.setStateProperty S component traitName propertyName value

end ServiceImpl

/-- The `ServiceImpl` that the client locks: the connection callback has handed it out, and it
is still there. -/
def Client.lockService {S : Strings} (k : Client S) : Option ServiceImpl :=
  k.owned.filter fun impl => .connectionCallback impl.id ∈ k.log

/-- A call of `IWeaveService`, the status it came back with, and what the method made of it. -/
structure ServiceReply (S : Strings) where
  client : ℕ
  call : WeaveServiceCall S
  status : Status
  result : Bool
  error : ErrorPtr BrilloError

/-- weaved and its clients, with the calls on their services. -/
structure ServiceSystem (S : Strings) where
  system : System S := {}
  /-- What each `ServiceImpl` of each client has of pairing. -/
  pairing : ℕ → ℕ → PairingImpl := fun _ _ => {}
  replies : List (ServiceReply S) := []
  /-- The clients that no `CHECK` has ended. -/
  exited : List ℕ := []

namespace ServiceSystem

variable {S : Strings} {B : ByteStrings} {J : JsonPaths} (s : ServiceSystem S)

/-- What can happen. The pairing information is read as bytes. -/
inductive Event (S : Strings) (B : ByteStrings) (J : JsonPaths)
  | system (e : System.Event S)
  | method (c : ℕ) (method : ServiceMethod J) (status : Status) (error : ErrorPtr BrilloError)
  | setPairingInfoListener (c : ℕ) (callback : Option ℕ)
  | onNotification (c impl : ℕ) (ids : List (ℤ × Option B.String16))

/-- The clients that have ended by themselves after an event. -/
def exitedAfter : System.Event S → List ℕ
  | .exit c => if (s.system.clients c).running then c :: s.exited else s.exited
  | _ => s.exited

/-- A client in its message loop does something with a `ServiceImpl` that it can lock. -/
def withService (c : ℕ) (service : Option ServiceImpl) (f : ServiceImpl → Option (ServiceSystem S)) :
    Option (ServiceSystem S) :=
  match (s.system.clients c).running, (s.system.clients c).frame with
  | true, .messageLoop => service.bind f
  | _, _ => none

/-- A method of a `ServiceImpl` whose binder call, if it gets to it, comes back with a status. -/
def runMethod (c : ℕ) (method : ServiceMethod J) (status : Status) (error : ErrorPtr BrilloError)
    (impl : ServiceImpl) : Option (ServiceSystem S) :=
  match impl.call S method with
  | none => some { s with system := s.system.setClient c (s.system.clients c).exit }
  | some (service, call) =>
    if status.isOk && !s.system.alive service.weaved then none
    else
      let (result, error) := statusToError status error
      some { s with replies := ⟨c, call, status, result, error⟩ :: s.replies }

/-- The pairing side of a `ServiceImpl` does something. -/
def onPairing (c impl : ℕ) (f : PairingImpl → PairingImpl) : ServiceSystem S :=
  { s with pairing := Function.update s.pairing c (Function.update (s.pairing c) impl (f (s.pairing c impl))) }

/-- One event. -/
def next : Event S B J → Option (ServiceSystem S)
  | .system e => (s.system.next e).map fun system => { s with system, exited := s.exitedAfter e }
  | .method c method status error =>
    s.withService c (s.system.clients c).lockService fun impl => s.runMethod c method status error impl
  | .setPairingInfoListener c callback =>
    s.withService c (s.system.clients c).lockService fun impl =>
      some (s.onPairing c impl.id fun p => p.setPairingInfoListener callback)
  | .onNotification c impl ids =>
    s.withService c ((s.system.clients c).lock impl) fun impl =>
      some (s.onPairing c impl.id fun p => p.handleNotification B ids)

/-- All runs. -/
def machine (S : Strings) (B : ByteStrings) (J : JsonPaths) : Machine (ServiceSystem S) (Event S B J) where
  start s := s = {}
  next s e := s.next e

end ServiceSystem

end SystemWeaved
