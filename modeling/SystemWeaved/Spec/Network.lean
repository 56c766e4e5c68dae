import SystemWeaved.Lib.Machine
import SystemWeaved.Spec.Error
import SystemWeaved.Spec.SocketStream

/-!
# Streams, sockets and requests (`buffet/socket_stream.cc`, `buffet/http_transport_client.cc`, `buffet/shill_client.cc`)

libweave reads and writes streams, opens TLS sockets and sends HTTP requests by calls that
take a callback. brillo takes up an operation for a call and reports on it later, unless it
is cancelled (`Brillo`); if it refuses an operation the callback is posted with the error.

Calls are numbered, and the number stands for the callback. A stream has the number of the
call that has opened it. A callback is run at the end of a task, so that the calls that it
makes are the next events, as is a report that brillo makes before a call returns.
-/

namespace SystemWeaved

/-- `brillo::http::Request`, as `SendRequest` makes it. -/
structure HttpRequest where
  url : String
  method : String
  headers : List (String × String)
  body : Option String
  deriving DecidableEq, Repr

/-- `ResponseImpl`, whose data is extracted when it is made. -/
structure HttpResponse where
  statusCode : ℤ
  contentType : String
  data : String
  deriving DecidableEq, Repr

/-- The kinds of calls. -/
inductive CallKind
  | read | write | openSslSocket | sendRequest
  deriving DecidableEq, Repr

/-- What brillo reports on an operation. -/
inductive AsyncReport
  | failed (error : ErrorChain BrilloError)
  | read (size : ℕ)
  | written
  | connected
  | response (response : HttpResponse)
  deriving DecidableEq, Repr

/-- The arguments of `ReadCallback`, `WriteCallback`, `OpenSslSocketCallback` and
`SendRequestCallback`. -/
inductive CallReply
  | read (size : ℕ) (error : ErrorPtr WeaveError)
  | write (error : ErrorPtr WeaveError)
  | openSslSocket (stream : Option ℕ) (error : ErrorPtr WeaveError)
  | sendRequest (response : Option HttpResponse) (error : ErrorPtr WeaveError)
  deriving DecidableEq, Repr

/-- The callback of a call, run with an error: `base::Bind(callback, 0)` for `Read`,
`base::Bind(callback, nullptr)` where it takes a pointer. -/
def failure : CallKind → ErrorPtr WeaveError → CallReply
  | .read, error => .read 0 error
  | .write, error => .write error
  | .openSslSocket, error => .openSslSocket none error
  | .sendRequest, error => .sendRequest none error

/-- `OnError` and `OnErrorCallback`. -/
def onError (kind : CallKind) (brilloError : ErrorChain BrilloError) : CallReply :=
  failure kind (convertError brilloError none)

/-- The callbacks that brillo is given for a call: `OnError`, or the one for success. There is
none for a report on something else. -/
def onReport (call : ℕ) : CallKind → AsyncReport → Option CallReply
  | kind, .failed error => some (onError kind error)
  | .read, .read size => some (.read size none)
  | .write, .written => some (.write none)
  | .openSslSocket, .connected => some (.openSslSocket (some call) none)
  | .sendRequest, .response response => some (.sendRequest (some response) none)
  | _, _ => none

/-- An operation that brillo has taken up, on a stream if it is of one. -/
structure AsyncOperation where
  call : ℕ
  kind : CallKind
  stream : Option ℕ
  deriving DecidableEq, Repr

/-- What brillo does with operations (`brillo::Stream`, `brillo::http::Transport`), and what it
documents: there is one report on an operation that it has taken up, and none after its stream
has been told to cancel. -/
structure Brillo where
  State : Type
  start : State
  takeUp : State → AsyncOperation → State
  /-- `CancelPendingAsyncOperations` of a stream, or the end of the stream. -/
  cancel : State → ℕ → State
  /-- A report on an operation, if brillo makes it. -/
  report : State → AsyncOperation → AsyncReport → Option State
  /-- The operations that it has still to report on. -/
  pending : State → List AsyncOperation
  pending_start : pending start = []
  pending_takeUp : ∀ brillo operation, (pending (takeUp brillo operation)).Perm (operation :: pending brillo)
  none_after_cancel : ∀ brillo stream,
    (pending (cancel brillo stream)).Perm ((pending brillo).filter fun operation => operation.stream ≠ some stream)
  one_report : ∀ brillo operation r brillo', report brillo operation r = some brillo' →
    (operation :: pending brillo').Perm (pending brillo)

/-- The providers, with all calls. -/
structure Network (B : Brillo) where
  disableXmpp : Bool
  calls : ℕ := 0
  /-- The streams that libweave has. -/
  streams : List ℕ := []
  brillo : B.State := B.start
  /-- The callbacks that are posted. -/
  tasks : List (ℕ × CallReply) := []
  /-- The callbacks that have been run, newest first. -/
  answers : List (ℕ × CallReply) := []
  /-- The calls whose operations have been cancelled. -/
  cancelled : List ℕ := []
  /-- The calls of `OpenSslSocket` that have been ignored. -/
  ignored : List ℕ := []
  /-- What has been reported on calls, newest first. -/
  reports : List (ℕ × CallKind × AsyncReport) := []
  requests : List HttpRequest := []
  socketCalls : List SocketCall := []

namespace Network

variable {B : Brillo} (s : Network B)

/-- The operations that brillo has still to report on. -/
def operations : List AsyncOperation := B.pending s.brillo

/-- A call is made. -/
def newCall : Network B := { s with calls := s.calls + 1 }

/-- brillo takes up an operation. -/
def takeUp (operation : AsyncOperation) : Network B := { s with brillo := B.takeUp s.brillo operation }

/-- The callback of a call is posted with an error. -/
def refuse (call : ℕ) (kind : CallKind) (error : ErrorChain BrilloError) : Network B :=
  { s with
    tasks := s.tasks ++ [(call, onError kind error)]
    reports := (call, kind, .failed error) :: s.reports }

/-- An operation on a stream is begun for the next call. -/
def beginAsync (kind : CallKind) (stream : ℕ) (begun : Except (ErrorChain BrilloError) Unit) : Network B :=
  match begun with
  | .ok () => s.newCall.takeUp ⟨s.calls, kind, some stream⟩
  | .error brilloError => s.newCall.refuse s.calls kind brilloError

/-- `SocketStream::Read`. -/
def read (stream : ℕ) (readAsync : Except (ErrorChain BrilloError) Unit) : Network B :=
  s.beginAsync .read stream readAsync

/-- `SocketStream::Write`. -/
def write (stream : ℕ) (writeAllAsync : Except (ErrorChain BrilloError) Unit) : Network B :=
  s.beginAsync .write stream writeAllAsync

/-- `SocketStream::CancelPendingOperations`. -/
def cancelPendingOperations (stream : ℕ) : Network B :=
  { s with
    brillo := B.cancel s.brillo stream
    cancelled :=
      ((s.operations.filter fun operation => operation.stream = some stream).map AsyncOperation.call) ++ s.cancelled }

/-- `~SocketStream`: the operations of the stream end with it. -/
def destroyStream (stream : ℕ) : Network B :=
  { s.cancelPendingOperations stream with streams := s.streams.erase stream }

/-- `ShillClient::OpenSslSocket`, with the error that `AddSystemError` makes of `errno`. The
operation of `TlsConnect` is on no stream of libweave. -/
def openSslSocket (host : String) (port : UInt16) (answers : ConnectAnswers) (errno : BrilloError) : Network B :=
  let call := s.calls
  let s := s.newCall
  -- the callback is dropped
  if s.disableXmpp then { s with ignored := call :: s.ignored }
  else
    let (rawStream, calls) := SocketStream.connectBlocking answers host port
    let s := { s with socketCalls := s.socketCalls ++ calls }
    match rawStream with
    | none => s.refuse call .openSslSocket (.last errno)
    | some _ => s.takeUp ⟨call, .openSslSocket, none⟩

/-- `HttpTransportClient::SendRequest`. A request without data has no body. -/
def sendRequest (method url : String) (headers : List (String × String)) (data : String)
    (addRequestBody : Except (ErrorChain BrilloError) Unit) : Network B :=
  let call := s.calls
  let s := s.newCall
  let getResponse (body : Option String) : Network B :=
    let request : HttpRequest := ⟨url, method, headers, body⟩
    ({ s with requests := s.requests ++ [request] }).takeUp ⟨call, .sendRequest, none⟩
  if data = "" then getResponse none
  else
    match addRequestBody with
    | .error cromeosError => s.refuse call .sendRequest cromeosError
    | .ok () => getResponse (some data)

/-- brillo reports on an operation. -/
def report (operation : AsyncOperation) (report : AsyncReport) : Option (Network B) :=
  (B.report s.brillo operation report).bind fun brillo =>
    (onReport operation.call operation.kind report).map fun reply => { s with
      brillo
      answers := (operation.call, reply) :: s.answers
      reports := (operation.call, operation.kind, report) :: s.reports
      streams := if report = .connected then s.streams ++ [operation.call] else s.streams }

/-- A posted callback is run. -/
def runTask (task : ℕ × CallReply) : Network B :=
  { s with tasks := s.tasks.erase task, answers := task :: s.answers }

inductive Event
  | read (stream : ℕ) (readAsync : Except (ErrorChain BrilloError) Unit)
  | write (stream : ℕ) (writeAllAsync : Except (ErrorChain BrilloError) Unit)
  | cancelPendingOperations (stream : ℕ)
  | destroyStream (stream : ℕ)
  | openSslSocket (host : String) (port : UInt16) (answers : ConnectAnswers) (errno : BrilloError)
  | sendRequest (method url : String) (headers : List (String × String)) (data : String)
      (addRequestBody : Except (ErrorChain BrilloError) Unit)
  | report (operation : AsyncOperation) (report : AsyncReport)
  | runTask (task : ℕ × CallReply)

/-- One event. libweave uses the streams that it has. -/
def next : Event → Option (Network B)
  | .read stream readAsync => if stream ∈ s.streams then some (s.read stream readAsync) else none
  | .write stream writeAllAsync => if stream ∈ s.streams then some (s.write stream writeAllAsync) else none
  | .cancelPendingOperations stream =>
    if stream ∈ s.streams then some (s.cancelPendingOperations stream) else none
  | .destroyStream stream => if stream ∈ s.streams then some (s.destroyStream stream) else none
  | .openSslSocket host port answers errno => some (s.openSslSocket host port answers errno)
  | .sendRequest method url headers data addRequestBody =>
    some (s.sendRequest method url headers data addRequestBody)
  | .report operation report => s.report operation report
  | .runTask task => if task ∈ s.tasks then some (s.runTask task) else none

/-- All runs of the providers. -/
def machine (B : Brillo) : Machine (Network B) Event where
  start s := ∃ disableXmpp, s = { disableXmpp }
  next s e := s.next e

end Network

end SystemWeaved
