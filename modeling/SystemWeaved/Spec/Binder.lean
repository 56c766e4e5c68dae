import SystemWeaved.Lib.CString

/-!
# Binder objects and strings (`common/binder_utils.h`, `aidl/`)

What weaved and its clients know of each other: the identities of the objects they pass
over binder, and the conversion of strings. Names, JSON and messages are text (`Strings`); the
state properties can hold any bytes, such as those of a pairing code (`ByteStrings`).
-/

namespace SystemWeaved

/-- `android::String16` and its conversions from and to UTF-8 (libutils), on text. Text without
NUL survives the way to UTF-16 and back. -/
structure Strings where
  String16 : Type
  ofUtf8 : String → String16
  toUtf8 : String16 → String
  toUtf8_ofUtf8 : ∀ s, NulFree s → toUtf8 (ofUtf8 s) = s
  decEq : DecidableEq String16

instance (S : Strings) : DecidableEq S.String16 := S.decEq

namespace Strings

variable (S : Strings)

/-- `ToString`: the UTF-8 text is handed on as a C string. -/
def ToString (value : S.String16) : String := cStr (S.toUtf8 value)

/-- `ToString16`, and `android::String16{value.c_str()}`. -/
def ToString16 (value : String) : S.String16 := S.ofUtf8 (cStr value)

@[simp] theorem toString_toString16 {value : String} (h : NulFree value) :
    S.ToString (S.ToString16 value) = value := by
  unfold ToString ToString16
  rw [cStr_eq h, S.toUtf8_ofUtf8 value h, cStr_eq h]

/-- Strings of characters that are the same in UTF-8 and UTF-16. -/
def plain : Strings where
  String16 := String
  ofUtf8 := id
  toUtf8 := id
  toUtf8_ofUtf8 _ _ := rfl
  decEq := inferInstance

end Strings

/-- The same conversions on the bytes of a `std::string`. Those of a text without NUL survive;
other ones can come back as others. -/
structure ByteStrings where
  String16 : Type
  ofUtf8 : StdString → String16
  toUtf8 : String16 → StdString
  toUtf8_ofUtf8 : ∀ s : StdString, s.IsUtf8 → s.NulFree → toUtf8 (ofUtf8 s) = s
  decEq : DecidableEq String16

instance (S : ByteStrings) : DecidableEq S.String16 := S.decEq

namespace ByteStrings

variable (S : ByteStrings)

/-- `ToString`. -/
def ToString (value : S.String16) : StdString := (S.toUtf8 value).cStr

/-- `ToString16`. -/
def ToString16 (value : StdString) : S.String16 := S.ofUtf8 value.cStr

@[simp] theorem toString_toString16 {value : StdString} (htext : value.IsUtf8) (h : value.NulFree) :
    S.ToString (S.ToString16 value) = value := by
  unfold ToString ToString16
  rw [StdString.cStr_eq h, S.toUtf8_ofUtf8 value htext h, StdString.cStr_eq h]

/-- Bytes that are the same in both. -/
def plain : ByteStrings where
  String16 := StdString
  ofUtf8 := id
  toUtf8 := id
  toUtf8_ofUtf8 _ _ _ := rfl
  decEq := inferInstance

end ByteStrings

/-- A `WeaveClient` object, as both sides know it: the client process, the number of the
`ServiceImpl` its weak pointer is to, and its own number in the process. -/
structure WeaveClient where
  client : ℕ
  serviceImpl : ℕ
  id : ℕ
  deriving DecidableEq

/-- A `NotificationListener` object, made by a `ServiceImpl` after its `WeaveClient`. -/
structure NotificationListener where
  client : ℕ
  serviceImpl : ℕ
  deriving DecidableEq

/-- A `BinderWeaveService` object of one weaved process: its number there, the device its
pointer is to, and the client it was made for. -/
structure BinderWeaveService where
  id : ℕ
  device : ℕ
  client : WeaveClient
  deriving DecidableEq

/-- The calls weaved makes on its clients (`IWeaveClient.aidl`). A command is a number. -/
inductive ClientCall (S : Strings)
  | onServiceConnected (client : WeaveClient) (service : BinderWeaveService)
  | onCommand (client : WeaveClient) (componentName commandName : S.String16) (command : ℕ)
  deriving DecidableEq

end SystemWeaved
