import SystemWeaved.Spec.Binder
import SystemWeaved.Spec.Error

/-!
# Commands over binder (`buffet/binder_command_proxy.cc`, `libweaved/command.cc`, `common/binder_utils.cc`)

weaved hands a `weave::Command` (libweave) to a client behind a `BinderCommandProxy` that
holds a weak pointer to it; the client wraps the proxy in a `Command`. Binder delivers the
texts and the `Status` of a call as they are.
-/

namespace SystemWeaved

/-- `android::binder::Status`. -/
structure Status where
  exceptionCode : ℤ
  serviceSpecificErrorCode : ℤ
  exceptionMessage : String
  deriving DecidableEq

namespace Status

def EX_NONE : ℤ := 0
def EX_SERVICE_SPECIFIC : ℤ := -8

def ok : Status := ⟨EX_NONE, 0, ""⟩

/-- The message is an `android::String8`, made from a C string. -/
def fromServiceSpecificError (errorCode : ℤ) (message : String) : Status :=
  ⟨EX_SERVICE_SPECIFIC, errorCode, cStr message⟩

def isOk (status : Status) : Bool := status.exceptionCode = EX_NONE

@[simp] theorem isOk_ok : ok.isOk = true := rfl

/-- The code of the service says nothing about success, not even if it is 0. -/
@[simp] theorem isOk_fromServiceSpecificError (errorCode : ℤ) (message : String) :
    (fromServiceSpecificError errorCode message).isOk = false := rfl

end Status

/-- The outermost error of a chain. -/
def ErrorChain.outer {α : Type} : ErrorChain α → α
  | .last e | .wrap e _ => e

/-- `ToStatus`. There is none if a null `error` is dereferenced. -/
def toStatus (success : Bool) (error : ErrorPtr WeaveError) : Option Status :=
  if success then some .ok
  else error.map fun error => .fromServiceSpecificError 1 error.outer.message

/-- `StatusToError`. -/
def statusToError (status : Status) (error : ErrorPtr BrilloError) : Bool × ErrorPtr BrilloError :=
  if status.isOk then (true, error)
  else (false, addTo error ⟨"binder", toString status.exceptionCode, status.exceptionMessage⟩)

/-- The JSON of libchrome. A dictionary that is written can be read again; control
characters are escaped. -/
structure Json where
  Value : Type
  Dictionary : Type
  /-- A `base::DictionaryValue` is a `base::Value`. -/
  ofDictionary : Dictionary → Value
  getAsDictionary : Value → Option Dictionary
  empty : Dictionary
  write : Value → String
  /-- A value, or the code and the message of an error. -/
  readAndReturnError : String → Except (ℤ × String) Value
  getAsDictionary_ofDictionary : ∀ dict, getAsDictionary (ofDictionary dict) = some dict
  write_nulFree : ∀ value, NulFree (write value)
  read_write : ∀ dict, readAndReturnError (write (ofDictionary dict)) = .ok (ofDictionary dict)

/-- `ToString16` on a dictionary. -/
def Json.ToString16 (J : Json) (S : Strings) (value : J.Dictionary) : S.String16 :=
  S.ToString16 (J.write (J.ofDictionary value))

/-- `ParseDictionary`. The code and the message of the error are 0 and empty if the text is
JSON, but not a dictionary. -/
def parseDictionary (S : Strings) (J : Json) (json : S.String16) : Except Status J.Dictionary :=
  match J.readAndReturnError (S.ToString json) with
  | .error (error, message) => .error (.fromServiceSpecificError error message)
  | .ok value =>
    match J.getAsDictionary value with
    | none => .error (.fromServiceSpecificError 0 "")
    | some dict => .ok dict

/-- The states of a command, for `weave::Command` and `weaved::Command`. -/
inductive CommandState
  | kQueued | kInProgress | kPaused | kError | kDone | kCancelled | kAborted | kExpired
  deriving DecidableEq

/-- The origins of a command, for `weave::Command` and `weaved::Command`. -/
inductive CommandOrigin
  | kLocal | kCloud
  deriving DecidableEq

/-- `weave::EnumToString` (libweave) on the enumerations of a command. -/
structure EnumToString where
  ofState : CommandState → String
  ofOrigin : CommandOrigin → String
  queued : ofState .kQueued = "queued"
  inProgress : ofState .kInProgress = "inProgress"
  paused : ofState .kPaused = "paused"
  error : ofState .kError = "error"
  done : ofState .kDone = "done"
  cancelled : ofState .kCancelled = "cancelled"
  aborted : ofState .kAborted = "aborted"
  expired : ofState .kExpired = "expired"
  ofLocal : ofOrigin .kLocal = "local"
  ofCloud : ofOrigin .kCloud = "cloud"

/-- The operations of `weave::Command` that change it, with their arguments. -/
inductive Operation (J : Json)
  | setProgress (progress : J.Dictionary)
  | complete (results : J.Dictionary)
  | abort (commandError : ErrorPtr WeaveError)
  | cancel
  | pause
  | setError (commandError : ErrorPtr WeaveError)

/-- `weave::Command` (libweave): what it reports, and what its operations return and do. An
operation that returns false sets the error, which is null before. -/
structure WeaveCommand (J : Json) where
  State : Type
  getID : State → String
  getName : State → String
  getComponent : State → String
  getState : State → CommandState
  getOrigin : State → CommandOrigin
  getParameters : State → J.Dictionary
  getProgress : State → J.Dictionary
  getResults : State → J.Dictionary
  run : Operation J → State → (Bool × ErrorPtr WeaveError) × State
  error_of_false : ∀ operation command,
    (run operation command).1.1 = false → (run operation command).1.2.isSome

/-- `BinderCommandProxy`: what its weak pointer is to, and the operations it has invoked. -/
structure BinderCommandProxy {J : Json} (W : WeaveCommand J) where
  command : Option W.State
  invoked : List (Operation J) := []

/-- The calls of `IWeaveCommand` that change the command. -/
inductive CommandCall (S : Strings)
  | setProgress (progress : S.String16)
  | complete (results : S.String16)
  | abort (errorCode errorMessage : S.String16)
  | cancel
  | pause
  | setError (errorCode errorMessage : S.String16)

namespace BinderCommandProxy

variable {S : Strings} {J : Json} {W : WeaveCommand J} (E : EnumToString) (proxy : BinderCommandProxy W)

def reportDestroyedError : Status := .fromServiceSpecificError 1 "Command has been destroyed"

/-- A getter: what a live command reports, as a string. -/
def get (value : W.State → S.String16) : Except Status S.String16 :=
  match proxy.command with
  | none => .error reportDestroyedError
  | some command => .ok (value command)

def getId : Except Status S.String16 := proxy.get fun command => S.ToString16 (W.getID command)

def getName : Except Status S.String16 := proxy.get fun command => S.ToString16 (W.getName command)

def getComponent : Except Status S.String16 :=
  proxy.get fun command => S.ToString16 (W.getComponent command)

def getState : Except Status S.String16 :=
  proxy.get fun command => S.ToString16 (E.ofState (W.getState command))

def getOrigin : Except Status S.String16 :=
  proxy.get fun command => S.ToString16 (E.ofOrigin (W.getOrigin command))

def getParameters : Except Status S.String16 :=
  proxy.get fun command => J.ToString16 S (W.getParameters command)

def getProgress : Except Status S.String16 :=
  proxy.get fun command => J.ToString16 S (W.getProgress command)

def getResults : Except Status S.String16 :=
  proxy.get fun command => J.ToString16 S (W.getResults command)

/-- An operation is invoked on the live command. -/
def invoke (command : W.State) (operation : Operation J) : Option (Status × BinderCommandProxy W) :=
  let (reply, command) := W.run operation command
  (toStatus reply.1 reply.2).map fun status =>
    (status, { command := some command, invoked := proxy.invoked ++ [operation] })

/-- `setProgress` and `complete`: the text is parsed before the command is touched. -/
def invokeWithDictionary (json : S.String16) (operation : J.Dictionary → Operation J) :
    Option (Status × BinderCommandProxy W) :=
  match proxy.command with
  | none => some (reportDestroyedError, proxy)
  | some command =>
    match parseDictionary S J json with
    | .error status => some (status, proxy)
    | .ok dict => proxy.invoke command (operation dict)

def setProgress (progress : S.String16) : Option (Status × BinderCommandProxy W) :=
  proxy.invokeWithDictionary progress .setProgress

def complete (results : S.String16) : Option (Status × BinderCommandProxy W) :=
  proxy.invokeWithDictionary results .complete

/-- The error that `abort` and `setError` make of their texts. -/
def commandError (errorCode errorMessage : S.String16) : ErrorPtr WeaveError :=
  addTo none ⟨S.ToString errorCode, S.ToString errorMessage⟩

/-- The other operations: they need only the command. -/
def invokeIfAlive (operation : Operation J) : Option (Status × BinderCommandProxy W) :=
  match proxy.command with
  | none => some (reportDestroyedError, proxy)
  | some command => proxy.invoke command operation

def abort (errorCode errorMessage : S.String16) : Option (Status × BinderCommandProxy W) :=
  proxy.invokeIfAlive (.abort (commandError errorCode errorMessage))

def cancel : Option (Status × BinderCommandProxy W) := proxy.invokeIfAlive .cancel

def pause : Option (Status × BinderCommandProxy W) := proxy.invokeIfAlive .pause

def setError (errorCode errorMessage : S.String16) : Option (Status × BinderCommandProxy W) :=
  proxy.invokeIfAlive (.setError (commandError errorCode errorMessage))

/-- A call arrives at the proxy. -/
def onTransact : CommandCall S → Option (Status × BinderCommandProxy W)
  | .setProgress progress => proxy.setProgress progress
  | .complete results => proxy.complete results
  | .abort errorCode errorMessage => proxy.abort errorCode errorMessage
  | .cancel => proxy.cancel
  | .pause => proxy.pause
  | .setError errorCode errorMessage => proxy.setError errorCode errorMessage

end BinderCommandProxy

/-- `weaved::Command`, without the proxy it is made over. -/
structure Command (J : Json) where
  parameterCache : Option J.Dictionary := none

/-- The methods of `weaved::Command` that change the command. -/
inductive CommandMethod (J : Json)
  | setProgress (progress : J.Dictionary)
  | complete (results : J.Dictionary)
  | abort (errorCode errorMessage : String)
  | cancel
  | pause
  | setError (errorCode errorMessage : String)

namespace Command

variable (S : Strings) {J : Json} {W : WeaveCommand J} (E : EnumToString) (binderProxy : BinderCommandProxy W)

/-- The text of a getter, which is empty after a failure. -/
def assign (value : Except Status S.String16) : String :=
  match value with
  | .ok value16 => S.ToString value16
  | .error _ => ""

def getID : String := assign S binderProxy.getId

/-- `GetName`, which calls `getId` of the proxy. -/
def getName : String := assign S binderProxy.getId

/-- `GetComponent`, which calls `getId`, too. -/
def getComponent : String := assign S binderProxy.getId

def getState : CommandState :=
  let state := assign S (binderProxy.getState E)
  if state = "queued" then .kQueued
  else if state = "inProgress" then .kInProgress
  else if state = "paused" then .kPaused
  else if state = "error" then .kError
  else if state = "done" then .kDone
  else if state = "cancelled" then .kCancelled
  else if state = "aborted" then .kAborted
  else if state = "expired" then .kExpired
  else .kQueued

/-- `GetOrigin`, which calls `getState` of the proxy. -/
def getOrigin : CommandOrigin :=
  let origin := assign S (binderProxy.getState E)
  if origin = "local" then .kLocal
  else if origin = "cloud" then .kCloud
  else .kLocal

/-- `GetParameters`, with the cache after it. -/
def getParameters (c : Command J) : J.Dictionary × Command J :=
  match c.parameterCache with
  | some params => (params, c)
  | none =>
    let params :=
      match binderProxy.getParameters (S := S) with
      | .error _ => J.empty
      | .ok paramsString16 =>
        match parseDictionary S J paramsString16 with
        | .error _ => J.empty
        | .ok params => params
    (params, { parameterCache := some params })

/-- A call of the proxy, and `StatusToError` on what it returns. -/
def call (error : ErrorPtr BrilloError) (reply : Option (Status × BinderCommandProxy W)) :
    Option ((Bool × ErrorPtr BrilloError) × BinderCommandProxy W) :=
  reply.map fun (status, proxy) => (statusToError status error, proxy)

/-- The binder call that a method makes. -/
def request : CommandMethod J → CommandCall S
  | .setProgress progress => .setProgress (J.ToString16 S progress)
  | .complete results => .complete (J.ToString16 S results)
  | .abort errorCode errorMessage => .abort (S.ToString16 errorCode) (S.ToString16 errorMessage)
  | .cancel => .cancel
  | .pause => .pause
  | .setError errorCode errorMessage => .setError (S.ToString16 errorCode) (S.ToString16 errorMessage)

/-- `SetProgress`, `Complete`, `Abort`, `Cancel`, `Pause` and `SetError`. -/
def execute (method : CommandMethod J) (error : ErrorPtr BrilloError) :
    Option ((Bool × ErrorPtr BrilloError) × BinderCommandProxy W) :=
  call error (binderProxy.onTransact (request S method))

end Command

end SystemWeaved
