import SystemWeaved.Spec.Properties

/-!
# Pairing information in a client (`libweaved/service.cc`)

A `ServiceImpl` keeps a copy of the three pairing properties of weaved. It is notified of
changes, oneway and in order, and calls a getter for each pairing identifier of a
notification (`OnNotification`). weaved can do something else between two getter calls,
and between the notification and the first of them; a getter call can fail.
-/

namespace SystemWeaved

/-- `PairingInfo`. -/
structure PairingInfo where
  sessionId : StdString := ""
  pairingMode : StdString := ""
  pairingCode : StdString := ""
  deriving DecidableEq

/-- One of the three is empty. -/
def PairingInfo.incomplete (info : PairingInfo) : Bool :=
  info.sessionId = "" || info.pairingMode = "" || info.pairingCode = ""

/-- What a `ServiceImpl` has of pairing. `onNotification` is there while the method runs: the
identifiers that are left, and `pairing_info_changed`. -/
structure PairingImpl where
  /-- `OnServiceConnected` has been called. -/
  connected : Bool := false
  pairingInfo : PairingInfo := {}
  pairingInfoCallback : Option ℕ := none
  onNotification : Option (List ℤ × Bool) := none
  /-- What callbacks have been given, newest first. -/
  given : List (ℕ × Option PairingInfo) := []

namespace PairingImpl

open NotificationListener

variable (S : ByteStrings) (c : PairingImpl)

def runCallback (callback : ℕ) (info : Option PairingInfo) : PairingImpl :=
  { c with given := (callback, info) :: c.given }

/-- `SetPairingInfoListener`. -/
def setPairingInfoListener (callback : Option ℕ) : PairingImpl :=
  let c := { c with pairingInfoCallback := callback }
  match callback with
  | some callback => if c.pairingInfo.incomplete then c else c.runCallback callback (some c.pairingInfo)
  | none => c

/-- One round of the loop of `OnNotification`, with `pairing_info_changed` after it. The
getter is called on weaved as it is now, and may fail. -/
def readProperty (weaved : StateProperties) (isOk : Bool) (id : ℤ) (changed : Bool) : PairingImpl × Bool :=
  if id = PAIRING_SESSION_ID then
    if isOk then
      ({ c with pairingInfo := { c.pairingInfo with sessionId := S.ToString (weaved.getPairingSessionId S) } }, true)
    else (c, changed)
  else if id = PAIRING_MODE then
    if isOk then
      ({ c with pairingInfo := { c.pairingInfo with pairingMode := S.ToString (weaved.getPairingMode S) } }, true)
    else (c, changed)
  else if id = PAIRING_CODE then
    if isOk then
      ({ c with pairingInfo := { c.pairingInfo with pairingCode := S.ToString (weaved.getPairingCode S) } }, true)
    else (c, changed)
  else (c, changed)

/-- `OnNotification` after its loop. -/
def notifyCallback (changed : Bool) : PairingImpl :=
  match c.pairingInfoCallback with
  | some callback =>
    if changed then c.runCallback callback (if c.pairingInfo.incomplete then none else some c.pairingInfo) else c
  | none => c

/-- `OnNotification` goes on: with the next identifier, or after the loop. -/
def resumeNotification (weaved : StateProperties) (isOk : Bool) : List ℤ → Bool → PairingImpl
  | [], changed => { c.notifyCallback changed with onNotification := none }
  | id :: ids, changed =>
    let (c, changed) := c.readProperty S weaved isOk id changed
    { c with onNotification := some (ids, changed) }

/-! The same method as one call, with the answers of its getters, `none` for a failed one. -/

/-- One round of the loop of `OnNotification`, with the answer of the getter. -/
def readReply (id : ℤ) (reply : Option S.String16) (changed : Bool) : PairingImpl × Bool :=
  match reply with
  | none => (c, changed)
  | some stringValue =>
    let value := S.ToString stringValue
    if id = PAIRING_SESSION_ID then ({ c with pairingInfo := { c.pairingInfo with sessionId := value } }, true)
    else if id = PAIRING_MODE then ({ c with pairingInfo := { c.pairingInfo with pairingMode := value } }, true)
    else if id = PAIRING_CODE then ({ c with pairingInfo := { c.pairingInfo with pairingCode := value } }, true)
    else (c, changed)

/-- The loop of `OnNotification`, over identifiers with the answers of their getters. -/
def readReplies : PairingImpl → List (ℤ × Option S.String16) → Bool → PairingImpl × Bool
  | c, [], changed => (c, changed)
  | c, (id, reply) :: ids, changed =>
    let (c, changed) := c.readReply S id reply changed
    readReplies c ids changed

/-- `OnNotification`, from its first to its last line. -/
def handleNotification (ids : List (ℤ × Option S.String16)) : PairingImpl :=
  let (c, changed) := c.readReplies S ids false
  c.notifyCallback changed

/-- The calls on a `ServiceImpl` that are about pairing. -/
inductive Call (S : ByteStrings)
  | setPairingInfoListener (callback : Option ℕ)
  | onNotification (ids : List (ℤ × Option S.String16))

/-- One call. -/
def call {S : ByteStrings} : Call S → PairingImpl
  | .setPairingInfoListener callback => c.setPairingInfoListener callback
  | .onNotification ids => c.handleNotification S ids

end PairingImpl

/-- weaved, one `ServiceImpl`, and the notifications on their way to its listener. -/
structure PairingSystem where
  properties : StateProperties := fun _ => ""
  manager : Manager := {}
  inFlight : List (List ℤ) := []
  client : PairingImpl := {}
  /-- The properties that have changed since the listener was registered. -/
  changed : Property → Bool := fun _ => false
  /-- What `OnPairingStart` has been called with. -/
  starts : List PairingInfo := []

namespace PairingSystem

variable (S : ByteStrings) (E : WeaveEnums) (listener : NotificationListener) (s : PairingSystem)

inductive Event (E : WeaveEnums)
  | handler (handler : Handler E)
  | registerNotificationListener (other : NotificationListener)
  | onNotificationListenerDestroyed (other : NotificationListener)
  | onServiceConnected
  | setPairingInfoListener (callback : Option ℕ)
  | deliver
  /-- `OnNotification` goes on, and the getter it calls succeeds or fails. -/
  | resume (isOk : Bool)

/-- The pairing information that weaved has. -/
def triple : PairingInfo :=
  ⟨s.properties .pairingSessionId, s.properties .pairingMode, s.properties .pairingCode⟩

/-- The pairing information of a new session. -/
def startedBy {E : WeaveEnums} : Handler E → List PairingInfo
  | .onPairingStart sessionId pairingType code =>
    [⟨sessionId, E.ofPairingType pairingType, StateProperties.codeString code⟩]
  | _ => []

/-- A handler runs in weaved. -/
def runHandler {E : WeaveEnums} (handler : Handler E) : PairingSystem :=
  let (properties, ids) := handler.run s.properties
  let listeners := s.manager.notificationListeners
  let sent := (notifyServiceManagerChange listeners ids).filter fun n => n.1 = listener
  { s with
    properties
    inFlight := s.inFlight ++ sent.map Prod.snd
    changed := fun p => s.changed p || (listener ∈ listeners && properties p ≠ s.properties p)
    starts := s.starts ++ startedBy handler }

/-- The client does something in its message loop. -/
def inMessageLoop (f : PairingImpl → PairingImpl) : Option PairingSystem :=
  match s.client.onNotification with
  | none => some { s with client := f s.client }
  | some _ => none

/-- One event. The listener of the client lives on. -/
def next : Event E → Option PairingSystem
  | .handler handler => some (s.runHandler listener handler)
  | .registerNotificationListener other =>
    some { s with manager := s.manager.registerNotificationListener other }
  | .onNotificationListenerDestroyed other =>
    if other = listener then none
    else some { s with manager := s.manager.onNotificationListenerDestroyed other }
  | .onServiceConnected => s.inMessageLoop fun c => { c with connected := true }
  | .setPairingInfoListener callback =>
    -- the client has its service from the connection callback
    if s.client.connected then s.inMessageLoop fun c => c.setPairingInfoListener callback else none
  | .deliver =>
    match s.inFlight with
    | [] => none
    | ids :: rest =>
      ({ s with inFlight := rest }).inMessageLoop fun c => { c with onNotification := some (ids, false) }
  | .resume isOk => s.client.onNotification.map fun (ids, changed) =>
    { s with client := s.client.resumeNotification S s.properties isOk ids changed }

/-- All runs, with the listener of the client. -/
def machine : Machine PairingSystem (Event E) where
  start s := s = {}
  next s e := s.next S E listener e

end PairingSystem

end SystemWeaved
