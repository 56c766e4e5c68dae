import SystemWeaved.Lib.Machine
import SystemWeaved.Spec.Manager

/-!
# The state properties of weaved (`buffet/manager.cc`)

`Manager` keeps twelve strings about the device, of any bytes. Handlers of the device change them and
notify the listeners of clients, with the identifiers of what has changed; the clients then
call the getters.
-/

namespace SystemWeaved

/-- The members of `Manager` that are state properties. -/
inductive Property
  | cloudId | deviceId | deviceName | deviceDescription | deviceLocation | oemName | modelName | modelId
  | pairingSessionId | pairingMode | pairingCode | state
  deriving DecidableEq

/-- The values of the members. They are empty at first. -/
abbrev StateProperties := Property → StdString

namespace NotificationListener

/-! The identifiers of `IWeaveServiceManagerNotificationListener.aidl`. -/

def CLOUD_ID : ℤ := 1
def DEVICE_ID : ℤ := 2
def DEVICE_NAME : ℤ := 3
def DEVICE_DESCRIPTION : ℤ := 4
def DEVICE_LOCATION : ℤ := 5
def OEM_NAME : ℤ := 6
def MODEL_NAME : ℤ := 7
def MODEL_ID : ℤ := 8
def PAIRING_SESSION_ID : ℤ := 9
def PAIRING_MODE : ℤ := 10
def PAIRING_CODE : ℤ := 11
def TRAITS : ℤ := 12
def COMPONENTS : ℤ := 13
def STATE : ℤ := 14

end NotificationListener

/-- `weave::Settings` (libweave), as far as `OnConfigChanged` reads it. -/
structure Settings where
  cloudId : StdString
  deviceId : StdString
  name : StdString
  description : StdString
  location : StdString
  oemName : StdString
  modelId : StdString
  modelName : StdString

/-- `weave::EnumToString` (libweave) on the enumerations of the handlers. -/
structure WeaveEnums where
  PairingType : Type
  GcdState : Type
  ofPairingType : PairingType → StdString
  ofGcdState : GcdState → StdString

/-- The enumerators by their names. -/
def WeaveEnums.named : WeaveEnums where
  PairingType := String
  GcdState := String
  ofPairingType := StdString.utf8
  ofGcdState := StdString.utf8

/-- A call of `UpdateValue`: the member, its new value and the identifier. -/
structure Update where
  prop : Property
  newValue : StdString
  notification : ℤ

/-- `UpdateValue`. -/
def updateValue (manager : StateProperties) (u : Update) (notificationIds : List ℤ) :
    StateProperties × List ℤ :=
  if manager u.prop ≠ u.newValue then
    (Function.update manager u.prop u.newValue, notificationIds ++ [u.notification])
  else (manager, notificationIds)

/-- Calls of `UpdateValue` one after the other. -/
def updateValues : StateProperties → List Update → List ℤ → StateProperties × List ℤ
  | manager, [], ids => (manager, ids)
  | manager, u :: us, ids =>
    let (manager, ids) := updateValue manager u ids
    updateValues manager us ids

namespace StateProperties

open NotificationListener

variable (manager : StateProperties)

/-- The calls of `UpdateValue` in `OnConfigChanged`. -/
def configUpdates (settings : Settings) : List Update :=
  [⟨.cloudId, settings.cloudId, CLOUD_ID⟩,
    ⟨.deviceId, settings.deviceId, DEVICE_ID⟩,
    ⟨.deviceName, settings.name, DEVICE_NAME⟩,
    ⟨.deviceDescription, settings.description, DEVICE_DESCRIPTION⟩,
    ⟨.deviceLocation, settings.location, DEVICE_LOCATION⟩,
    ⟨.oemName, settings.oemName, OEM_NAME⟩,
    ⟨.modelId, settings.modelId, MODEL_ID⟩,
    ⟨.modelName, settings.modelName, MODEL_NAME⟩]

/-- The calls of `UpdateValue` in `OnPairingStart` and `OnPairingEnd`. -/
def pairingUpdates (sessionId mode code : StdString) : List Update :=
  [⟨.pairingSessionId, sessionId, PAIRING_SESSION_ID⟩,
    ⟨.pairingMode, mode, PAIRING_MODE⟩,
    ⟨.pairingCode, code, PAIRING_CODE⟩]

/-- `OnConfigChanged`, with the identifiers it notifies of. -/
def onConfigChanged (settings : Settings) : StateProperties × List ℤ :=
  updateValues manager (configUpdates settings) []

/-- `std::string{code.begin(), code.end()}`. -/
def codeString (code : List UInt8) : StdString := ⟨code⟩

/-- `OnPairingStart`. -/
def onPairingStart (E : WeaveEnums) (sessionId : StdString) (pairingType : E.PairingType) (code : List UInt8) :
    StateProperties × List ℤ :=
  updateValues manager (pairingUpdates sessionId (E.ofPairingType pairingType) (codeString code)) []

/-- `OnPairingEnd`. The end of a session that is not the current one is ignored. -/
def onPairingEnd (sessionId : StdString) : StateProperties × List ℤ :=
  if manager .pairingSessionId ≠ sessionId then (manager, [])
  else updateValues manager (pairingUpdates "" "" "") []

/-- `OnGcdStateChanged`, which notifies whether the state has changed or not. -/
def onGcdStateChanged (E : WeaveEnums) (state : E.GcdState) : StateProperties × List ℤ :=
  (Function.update manager .state (E.ofGcdState state), [STATE])

end StateProperties

/-- What the device tells the `Manager`. -/
inductive Handler (E : WeaveEnums)
  | onTraitDefsChanged
  | onComponentTreeChanged
  | onGcdStateChanged (state : E.GcdState)
  | onConfigChanged (settings : Settings)
  | onPairingStart (sessionId : StdString) (pairingType : E.PairingType) (code : List UInt8)
  | onPairingEnd (sessionId : StdString)

open NotificationListener in
/-- The properties after a handler, and the identifiers it notifies of. -/
def Handler.run {E : WeaveEnums} (manager : StateProperties) : Handler E → StateProperties × List ℤ
  | .onTraitDefsChanged => (manager, [TRAITS])
  | .onComponentTreeChanged => (manager, [COMPONENTS])
  | .onGcdStateChanged state => manager.onGcdStateChanged E state
  | .onConfigChanged settings => manager.onConfigChanged settings
  | .onPairingStart sessionId pairingType code => manager.onPairingStart E sessionId pairingType code
  | .onPairingEnd sessionId => manager.onPairingEnd sessionId

namespace StateProperties

open NotificationListener

variable (S : ByteStrings) (manager : StateProperties)

def getCloudId : S.String16 := S.ToString16 (manager .cloudId)
def getDeviceId : S.String16 := S.ToString16 (manager .deviceId)
def getDeviceName : S.String16 := S.ToString16 (manager .deviceName)
def getDeviceDescription : S.String16 := S.ToString16 (manager .deviceDescription)
def getDeviceLocation : S.String16 := S.ToString16 (manager .deviceLocation)
def getOemName : S.String16 := S.ToString16 (manager .oemName)
def getModelName : S.String16 := S.ToString16 (manager .modelName)
def getModelId : S.String16 := S.ToString16 (manager .modelId)
def getPairingSessionId : S.String16 := S.ToString16 (manager .pairingSessionId)
def getPairingMode : S.String16 := S.ToString16 (manager .pairingMode)
def getPairingCode : S.String16 := S.ToString16 (manager .pairingCode)
def getState : S.String16 := S.ToString16 (manager .state)

/-- The getter that is called like an identifier. -/
def getter (id : ℤ) : Option (StateProperties → S.String16) :=
  if id = CLOUD_ID then some (getCloudId S)
  else if id = DEVICE_ID then some (getDeviceId S)
  else if id = DEVICE_NAME then some (getDeviceName S)
  else if id = DEVICE_DESCRIPTION then some (getDeviceDescription S)
  else if id = DEVICE_LOCATION then some (getDeviceLocation S)
  else if id = OEM_NAME then some (getOemName S)
  else if id = MODEL_NAME then some (getModelName S)
  else if id = MODEL_ID then some (getModelId S)
  else if id = PAIRING_SESSION_ID then some (getPairingSessionId S)
  else if id = PAIRING_MODE then some (getPairingMode S)
  else if id = PAIRING_CODE then some (getPairingCode S)
  else if id = STATE then some (getState S)
  else none

end StateProperties

/-- `NotifyServiceManagerChange`: the calls of the listeners. -/
def notifyServiceManagerChange (listeners : List NotificationListener) (notificationIds : List ℤ) :
    List (NotificationListener × List ℤ) :=
  if notificationIds = [] then [] else listeners.map fun listener => (listener, notificationIds)

/-- `OnNotificationListenerDestroyed`. -/
def Manager.onNotificationListenerDestroyed (m : Manager) (listener : NotificationListener) : Manager :=
  { m with notificationListeners := m.notificationListeners.erase listener }

end SystemWeaved
