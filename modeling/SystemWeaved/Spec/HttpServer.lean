import SystemWeaved.Lib.Machine

/-!
# Local requests (`buffet/webserv_client.cc`, `buffet/manager.cc`)

`WebServClient` passes the requests that the web server has for its handlers on to their
callbacks, each wrapped in a `RequestImpl`. The web server finds the handler of a request.

Requests are numbered as they come. `ReadBlocking` of their data streams reads any number of
bytes, or fails; what it gives comes with the request.
-/

namespace SystemWeaved

/-- One `ReadBlocking`. At the end of the stream it reads nothing. -/
inductive ReadResult
  | failed
  | read (data : List UInt8)
  deriving DecidableEq, Repr

/-- `libwebserv::Request`: its data stream, if it has one, by what its reads give. -/
structure WebRequest where
  path : String
  headers : List (String × String)
  dataStream : Option (List ReadResult)
  deriving DecidableEq, Repr

/-- `RequestImpl`. -/
structure RequestImpl where
  request : WebRequest
  requestData : Option (List UInt8) := none
  deriving DecidableEq, Repr

namespace RequestImpl

variable (r : RequestImpl)

/-- `GetPath`. -/
def getPath : String := r.request.path

/-- `GetFirstHeader`, empty if there is none. -/
def getFirstHeader (name : String) : String := (r.request.headers.lookup name).getD ""

/-- The loop of `GetData`: the data, and what is left of the stream. -/
def readLoop : List ReadResult → List UInt8 → List UInt8 × List ReadResult
  | [], requestData => (requestData, [])
  | .failed :: reads, requestData => (requestData, reads)
  | .read [] :: reads, requestData => (requestData, reads)
  | .read (byte :: bytes) :: reads, requestData => readLoop reads (requestData ++ byte :: bytes)

/-- `GetData`. The stream is read at the first call. -/
def getData : List UInt8 × RequestImpl :=
  match r.requestData, r.request.dataStream with
  | some requestData, _ => (requestData, r)
  | none, none => ([], { r with requestData := some [] })
  | none, some reads =>
    let (requestData, rest) := readLoop reads []
    (requestData, { request := { r.request with dataStream := some rest }, requestData := some requestData })

end RequestImpl

/-- The handlers that are added: that of `RestartWeave` for pings, and those of libweave. -/
inductive RequestHandlerCallback
  | ping
  | weave (callback : ℕ)
  deriving DecidableEq, Repr

/-- The default protocol handlers. -/
inductive HandlerProtocol
  | http | https
  deriving DecidableEq, Repr

/-- A handler in the web server. -/
structure HttpHandler where
  protocol : HandlerProtocol
  path : String
  callback : RequestHandlerCallback
  deriving DecidableEq, Repr

/-- `Response::ReplyWithText`. -/
structure TextReply where
  statusCode : ℤ
  data : String
  mimeType : String
  deriving DecidableEq, Repr

/-- The local server, from the `RestartWeave` that makes it to the `Stop` that destroys it. -/
structure HttpServer where
  /-- `web_serv_client_` is there. -/
  available : Bool := true
  handlers : List HttpHandler := []
  requests : List RequestImpl := []
  /-- The requests as they have come. -/
  arrived : List WebRequest := []
  /-- The callbacks that have been run, with the numbers of their requests, newest first. -/
  runs : List (RequestHandlerCallback × ℕ) := []
  /-- What `GetData` has returned, newest first. -/
  data : List (ℕ × List UInt8) := []
  /-- The replies, newest first. -/
  replies : List (ℕ × TextReply) := []

namespace HttpServer

variable (s : HttpServer)

/-- `AddHttpRequestHandler` and `AddHttpsRequestHandler`. -/
def addRequestHandler (protocol : HandlerProtocol) (path : String) (callback : RequestHandlerCallback) : HttpServer :=
  { s with handlers := s.handlers ++ [⟨protocol, path, callback⟩] }

/-- `SendReply`. -/
def sendReply (request : ℕ) (reply : TextReply) : HttpServer := { s with replies := (request, reply) :: s.replies }

def pingReply : TextReply := ⟨200, "Hello, world!", "text/plain"⟩

/-- The part of `RestartWeave` that makes the server. -/
def restartWeave (enablePing : Bool) : HttpServer :=
  if enablePing then
    (addRequestHandler {} .http "/privet/ping" .ping).addRequestHandler .https "/privet/ping" .ping
  else {}

/-- `OnRequest`, with what the handler for pings does at once. -/
def onRequest (callback : RequestHandlerCallback) (request : WebRequest) : HttpServer :=
  let number := s.requests.length
  let s := { s with
    requests := s.requests ++ [{ request }]
    arrived := s.arrived ++ [request]
    runs := (callback, number) :: s.runs }
  match callback with
  | .ping => s.sendReply number pingReply
  | .weave _ => s

/-- A callback of libweave calls `GetData` of its request. -/
def getData (number : ℕ) (r : RequestImpl) : HttpServer :=
  let (requestData, r) := r.getData
  { s with requests := s.requests.set number r, data := (number, requestData) :: s.data }

inductive Event
  | addRequestHandler (protocol : HandlerProtocol) (path : String) (callback : ℕ)
  | request (handler : HttpHandler) (request : WebRequest)
  | getData (number : ℕ)
  | sendReply (number : ℕ) (reply : TextReply)
  | stop

/-- The request has been passed to a callback of libweave. -/
def isWeaves (number : ℕ) : Bool :=
  s.runs.any fun run => run.2 == number && run.1 != .ping

/-- One event. Handlers are bound to the `WebServClient`; libweave may keep its requests. -/
def next : Event → Option HttpServer
  | .addRequestHandler protocol path callback =>
    if s.available then some (s.addRequestHandler protocol path (.weave callback)) else none
  | .request handler request =>
    if s.available ∧ handler ∈ s.handlers then some (s.onRequest handler.callback request) else none
  | .getData number => if s.isWeaves number then s.requests[number]?.map (s.getData number) else none
  | .sendReply number reply => if s.isWeaves number then some (s.sendReply number reply) else none
  | .stop => if s.available then some { s with available := false } else none

/-- All runs of a local server. -/
def machine : Machine HttpServer Event where
  start s := ∃ enablePing, s = restartWeave enablePing
  next s e := s.next e

end HttpServer

end SystemWeaved
