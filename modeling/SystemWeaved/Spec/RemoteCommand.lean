import SystemWeaved.Spec.Command
import SystemWeaved.Spec.Components

/-!
# A command over its life (`libweaved/command.cc`)

A client works on a command through its `Command`, which keeps the parameters it has read. It
fails the command with an error of its own, or with the `Status` of a binder call that has failed.
Meanwhile libweave changes the command as it likes, and destroys it.
-/

namespace SystemWeaved

namespace Status

def EX_SECURITY : ℤ := -1
def EX_BAD_PARCELABLE : ℤ := -2
def EX_ILLEGAL_ARGUMENT : ℤ := -3
def EX_NULL_POINTER : ℤ := -4
def EX_ILLEGAL_STATE : ℤ := -5
def EX_NETWORK_MAIN_THREAD : ℤ := -6
def EX_UNSUPPORTED_OPERATION : ℤ := -7

end Status

/-- `BinderExceptionString`. -/
def binderExceptionString (exceptionCode : ℤ) : String :=
  if exceptionCode = Status.EX_NONE then "_none"
  else if exceptionCode = Status.EX_SECURITY then "_security"
  else if exceptionCode = Status.EX_BAD_PARCELABLE then "_bad_parcelable"
  else if exceptionCode = Status.EX_ILLEGAL_ARGUMENT then "_illegal_argument"
  else if exceptionCode = Status.EX_NULL_POINTER then "_null_pointer"
  else if exceptionCode = Status.EX_ILLEGAL_STATE then "_illegal_state"
  else if exceptionCode = Status.EX_NETWORK_MAIN_THREAD then "_network_error"
  else if exceptionCode = Status.EX_UNSUPPORTED_OPERATION then "_unsupported_operation"
  else if exceptionCode = Status.EX_SERVICE_SPECIFIC then "_general_failure"
  else "_unknown"

/-- The argument of `AbortWithCustomError` and `SetCustomError`. -/
inductive CustomError
  | error (commandError : BrilloError)
  | status (failed : Status)

namespace CustomError

/-- The `error_code` the overloads make. -/
def errorCode : CustomError → String
  | .error commandError => "_" ++ commandError.code
  | .status failed => binderExceptionString failed.exceptionCode

/-- The message they hand on. That of a status is read as a C string. -/
def errorMessage : CustomError → String
  | .error commandError => commandError.message
  | .status failed => cStr failed.exceptionMessage

end CustomError

/-- What a client calls on its `Command` to change the command. -/
inductive CommandRequest (J : Json)
  | method (method : CommandMethod J)
  | abortWithCustomError (commandError : CustomError)
  | setCustomError (commandError : CustomError)

namespace Command

variable (S : Strings) {J : Json} {W : WeaveCommand J} (binderProxy : BinderCommandProxy W)

/-- `AbortWithCustomError`. -/
def abortWithCustomError (commandError : CustomError) (error : ErrorPtr BrilloError) :
    Option ((Bool × ErrorPtr BrilloError) × BinderCommandProxy W) :=
  execute S binderProxy (.abort commandError.errorCode commandError.errorMessage) error

/-- `SetCustomError`. -/
def setCustomError (commandError : CustomError) (error : ErrorPtr BrilloError) :
    Option ((Bool × ErrorPtr BrilloError) × BinderCommandProxy W) :=
  execute S binderProxy (.setError commandError.errorCode commandError.errorMessage) error

/-- Any of them. -/
def run (error : ErrorPtr BrilloError) :
    CommandRequest J → Option ((Bool × ErrorPtr BrilloError) × BinderCommandProxy W)
  | .method method => execute S binderProxy method error
  | .abortWithCustomError commandError => abortWithCustomError S binderProxy commandError error
  | .setCustomError commandError => setCustomError S binderProxy commandError error

end Command

/-- weaved's proxy of a command, the client's `Command`, and what its methods have returned. -/
structure RemoteCommand {J : Json} (W : WeaveCommand J) where
  proxy : BinderCommandProxy W
  command : Command J := {}
  results : List MethodResult := []
  /-- What `GetID`, `GetState` and `GetParameters` have returned. -/
  ids : List String := []
  states : List CommandState := []
  parameters : List J.Dictionary := []

namespace RemoteCommand

variable {J : Json} {W : WeaveCommand J}

/-- What can happen. -/
inductive Event (W : WeaveCommand J)
  | request (request : CommandRequest J) (error : ErrorPtr BrilloError)
  | getID
  | getState
  | getParameters
  | changed (command : W.State)
  | destroyed

/-- One event. -/
def next (S : Strings) (E : EnumToString) (s : RemoteCommand W) : Event W → Option (RemoteCommand W)
  | .request request error => (Command.run S s.proxy error request).map fun ((success, error'), proxy) =>
    { s with proxy, results := s.results ++ [⟨error, success, error'⟩] }
  | .getID => some { s with ids := s.ids ++ [Command.getID S s.proxy] }
  | .getState => some { s with states := s.states ++ [Command.getState S E s.proxy] }
  | .getParameters =>
    let (parameters, command) := s.command.getParameters S s.proxy
    some { s with command, parameters := s.parameters ++ [parameters] }
  | .changed command =>
    if s.proxy.command.isSome then some { s with proxy := { s.proxy with command := some command } } else none
  | .destroyed => some { s with proxy := { s.proxy with command := none } }

/-- All runs on a command that is alive. -/
def machine (S : Strings) (E : EnumToString) (W : WeaveCommand J) : Machine (RemoteCommand W) (Event W) where
  start s := ∃ command : W.State, s = { proxy := { command := some command } }
  next := next S E

end RemoteCommand

/-- The error a client has passed with a request, and what the operation has returned, if there was
a command to run it. -/
structure DirectReply where
  given : ErrorPtr BrilloError
  reply : Option (Bool × ErrorPtr WeaveError)

/-- The command as if the client had it: its state, the operations it has got, what the client
has been answered and what it has read. -/
structure DirectCommand {J : Json} (W : WeaveCommand J) where
  command : Option W.State
  invoked : List (Operation J) := []
  replies : List DirectReply := []
  ids : List String := []
  states : List CommandState := []
  snapshot : Option J.Dictionary := none
  parameters : List J.Dictionary := []

namespace DirectCommand

variable {J : Json} {W : WeaveCommand J}

inductive Event (W : WeaveCommand J)
  | invoke (operation : Operation J) (error : ErrorPtr BrilloError)
  | readID
  | readState
  | read
  | changed (command : W.State)
  | destroyed

/-- The identifier, up to a NUL. There is none of a command that is gone. -/
def id (t : DirectCommand W) : String :=
  match t.command with
  | some command => cStr (W.getID command)
  | none => ""

/-- The state. A command that is gone counts as queued. -/
def state (t : DirectCommand W) : CommandState :=
  match t.command with
  | some command => W.getState command
  | none => .kQueued

/-- The parameters, as they are read for the first time. -/
def read (t : DirectCommand W) : J.Dictionary :=
  match t.snapshot, t.command with
  | some parameters, _ => parameters
  | none, some command => W.getParameters command
  | none, none => J.empty

/-- All runs on a command that is alive. -/
def machine (W : WeaveCommand J) : Machine (DirectCommand W) (Event W) where
  start t := ∃ command : W.State, t = { command := some command }
  next t
    | .invoke operation error =>
      match t.command with
      | some command => some { t with
          command := some (W.run operation command).2
          invoked := t.invoked ++ [operation]
          replies := t.replies ++ [⟨error, some (W.run operation command).1⟩] }
      | none => some { t with replies := t.replies ++ [⟨error, none⟩] }
    | .readID => some { t with ids := t.ids ++ [t.id] }
    | .readState => some { t with states := t.states ++ [t.state] }
    | .read => some { t with snapshot := some t.read, parameters := t.parameters ++ [t.read] }
    | .changed command => if t.command.isSome then some { t with command := some command } else none
    | .destroyed => some { t with command := none }

end DirectCommand

end SystemWeaved
