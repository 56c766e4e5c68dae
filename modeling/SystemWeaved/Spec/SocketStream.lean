import SystemWeaved.Lib.CString

/-!
# Outgoing connections (`buffet/socket_stream.cc`)

`ConnectBlocking` tries the addresses of a host in turn and makes a stream of the first socket
that connects. What the system calls return comes with the call (`ConnectAnswers`), at each
address what `socket()` and `connect()` return when its turn comes; the calls that are made are
returned in their order.
-/

namespace SystemWeaved

/-- `addrinfo`: the arguments of `socket()` and the address for `connect()`. -/
structure AddrInfo where
  family : ℤ
  socktype : ℤ
  protocol : ℤ
  addr : List UInt8
  deriving DecidableEq, Repr

/-- A resolved address, with the results of `socket()` and `connect()` for it. -/
structure Address where
  info : AddrInfo
  socketResult : ℤ
  connectResult : ℤ
  deriving DecidableEq, Repr

/-- The calls of one `ConnectBlocking`, `socket()` with its result. -/
inductive SocketCall
  | getaddrinfo (host service : String)
  | socket (info : AddrInfo) (result : ℤ)
  | connect (fd : ℤ) (addr : List UInt8)
  | close (fd : ℤ)
  | freeaddrinfo
  | fromFileDescriptor (fd : ℤ) (ownDescriptor : Bool)
  deriving DecidableEq, Repr

/-- What the calls return: `getaddrinfo()`, `none` if it fails, and whether
`FileStream::FromFileDescriptor` makes a stream. -/
structure ConnectAnswers where
  getaddrinfo : Option (List Address)
  fromFileDescriptor : ℤ → Bool

/-- `SocketStream`, by the descriptor its file stream owns. -/
structure SocketStream where
  fd : ℤ
  deriving DecidableEq, Repr

namespace SocketStream

/-- The loop of `ConnectSocket`: what it leaves in `socket_fd`, and its calls. -/
def connectLoop : List Address → ℤ → ℤ × List SocketCall
  | [], socketFd => (socketFd, [])
  | a :: rest, _ =>
    let socketFd := a.socketResult
    if socketFd < 0 then
      let (result, calls) := connectLoop rest socketFd
      (result, .socket a.info socketFd :: calls)
    else if a.connectResult = 0 then
      (socketFd, [.socket a.info socketFd, .connect socketFd a.info.addr])
    else
      let (result, calls) := connectLoop rest (-1)
      (result, .socket a.info socketFd :: .connect socketFd a.info.addr :: .close socketFd :: calls)

variable (answers : ConnectAnswers)

/-- `ConnectSocket`. -/
def connectSocket (host : String) (port : UInt16) : ℤ × List SocketCall :=
  let resolve := SocketCall.getaddrinfo (cStr host) (toString port.toNat)
  match answers.getaddrinfo with
  | none => (-1, [resolve])
  | some result =>
    let (socketFd, calls) := connectLoop result (-1)
    (socketFd, resolve :: calls ++ [.freeaddrinfo])

/-- `ConnectBlocking`: the stream it returns, and all calls. -/
def connectBlocking (host : String) (port : UInt16) : Option SocketStream × List SocketCall :=
  let (socketFd, calls) := connectSocket answers host port
  if socketFd ≤ 0 then (none, calls)
  else if answers.fromFileDescriptor socketFd then
    (some ⟨socketFd⟩, calls ++ [.fromFileDescriptor socketFd true])
  else (none, calls ++ [.fromFileDescriptor socketFd true, .close socketFd])

end SocketStream

end SystemWeaved
