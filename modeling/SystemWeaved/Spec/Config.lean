import SystemWeaved.Lib.CString
import SystemWeaved.Spec.Error

/-!
# The settings store (`buffet/buffet_config.cc`)

`BuffetConfig` keeps one encrypted file per settings name. Path parsing, the encryptor
and the file system are not part of this repository:

* `PathParts` is what `InsertBeforeExtension` uses of `base::FilePath`; the documented
  law is that a path is its `RemoveExtension` followed by its `Extension`.
* `Encryptor` seals a text, with a nonce, so that it can be opened again.
* `Outcome` is how the calls to these succeed or fail during one operation.
-/

namespace SystemWeaved

/-- `base::FilePath`: its constructor cuts the text at the first NUL. -/
structure FilePath where
  value : String
  nulFree : NulFree value
  deriving DecidableEq

namespace FilePath

def ofString (s : String) : FilePath := ⟨cStr s, nulFree_cStr s⟩

theorem ofString_value {s : String} (h : NulFree s) : (ofString s).value = s := cStr_eq h

end FilePath

/-- The path parsing of `base::FilePath`. -/
structure PathParts where
  baseName : FilePath → String
  extension : FilePath → String
  removeExtension : FilePath → FilePath
  remove_append_extension : ∀ p, (removeExtension p).value ++ extension p = p.value

/-- `IsEmptyOrSpecialCase`: base names that name no file. -/
def isEmptyOrSpecialCase (name : String) : Bool := name == "" || name == "." || name == ".."

/-- `FilePath::InsertBeforeExtension`. -/
def PathParts.insertBeforeExtension (parts : PathParts) (path : FilePath) (suffix : String) :
    FilePath :=
  if suffix = "" then path
  else if isEmptyOrSpecialCase (parts.baseName path) then .ofString ""
  else .ofString ((parts.removeExtension path).value ++ suffix ++ parts.extension path)

/-- `Encryptor`: `cipher i s` is the blob made of `s` with nonce `i`, `plain` opens it. -/
structure Encryptor where
  cipher : ℕ → String → String
  plain : String → Option String
  plain_cipher : ∀ i s, plain (cipher i s) = some s

/-- How the encryptor and the file layer answer during one call. -/
structure Outcome where
  readOk : Bool := true
  decryptOk : Bool := true
  encryptOk : Bool := true
  writeOk : Bool := true
  nonce : ℕ := 0
  deriving DecidableEq, Repr

/-- `BuffetConfig`: what it holds from its construction on. -/
structure BuffetConfig where
  parts : PathParts
  settings : FilePath
  encryptor : Encryptor

/-- The files and the done callbacks posted to the message loop. -/
structure ConfigState where
  files : FilePath → Option String
  posted : List (ℕ × ErrorPtr WeaveError)

namespace BuffetConfig

variable (c : BuffetConfig) (o : Outcome)

/-- `EncryptWithAuthentication`, `none` when it returns false. -/
def encryptWithAuthentication (plaintext : String) : Option String :=
  if o.encryptOk then some (c.encryptor.cipher o.nonce plaintext) else none

/-- `DecryptWithAuthentication`, `none` when it returns false. -/
def decryptWithAuthentication (ciphertext : String) : Option String :=
  if o.decryptOk then c.encryptor.plain ciphertext else none

/-- `FileIO::ReadFile`, `none` when it returns false. -/
def readFile (files : FilePath → Option String) (path : FilePath) : Option String :=
  if o.readOk then files path else none

/-- `FileIO::WriteFile`: a failed write leaves the file as it was. -/
def writeFile (files : FilePath → Option String) (path : FilePath) (content : String) :
    Bool × (FilePath → Option String) :=
  if o.writeOk then (true, Function.update files path (some content)) else (false, files)

/-- `CreatePath`. -/
def createPath (name : String) : FilePath :=
  if name = "" then c.settings else c.parts.insertBeforeExtension c.settings ("." ++ name)

/-- The blob and the error `SaveSettings` goes on with after the encryption. -/
def encryptSettings (settings : String) : String × ErrorPtr WeaveError :=
  match c.encryptWithAuthentication o settings with
  | some blob => (blob, none)
  | none => ("", addTo none ⟨"file_write_error", "Failed to encrypt settings."⟩)

/-- `SaveSettings`. -/
def saveSettings (st : ConfigState) (name settings : String) (callback : Option ℕ) : ConfigState :=
  let path := c.createPath name
  let (encryptedSettings, error) := c.encryptSettings o settings
  let (written, files) := writeFile o st.files path encryptedSettings
  let error := if written then error else
    addTo error ⟨"file_write_error",
      "Failed to write '" ++ path.value ++ "', proceeding with empty settings."⟩
  { files
    posted := match callback with
      | none => st.posted
      | some cb => st.posted ++ [(cb, error)] }

/-- `LoadSettings`: the text it returns and the state it leaves. -/
def loadSettings (st : ConfigState) (name : String) : String × ConfigState :=
  match readFile o st.files (c.createPath name) with
  | none => ("", st)
  | some settingsBlob =>
    match c.decryptWithAuthentication o settingsBlob with
    | some jsonString => (jsonString, st)
    -- the arguments as the source has them: the empty text is the name, `name` the settings
    | none => ("", c.saveSettings o st "" name none)

end BuffetConfig

end SystemWeaved
