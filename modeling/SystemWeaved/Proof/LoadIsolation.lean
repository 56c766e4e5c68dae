import SystemWeaved.Spec.Config

/-!
# What `LoadSettings` writes

`LoadSettings` writes only when it cannot decrypt: it then means to reset the file it
has read, but passes the name to `SaveSettings` in the place of the settings and the
empty text in the place of the name. The file that is written is the default one
(`loadSettings_files`).

`loadIsolated_iff`: loading a name leaves the files of the other names alone, and resets
its own file when that cannot be decrypted, **exactly when** the decryption does not
fail or the write in the wrong place does no harm (`Harmless`): for the default name,
when the write fails, or by a coincidence of contents.
-/

namespace SystemWeaved.BuffetConfig

variable {c : BuffetConfig} {o : Outcome} {st : ConfigState} {n : String}

/-- The blob `SaveSettings` writes for a text. -/
def blobOf (c : BuffetConfig) (o : Outcome) (settings : String) : String :=
  if o.encryptOk then c.encryptor.cipher o.nonce settings else ""

theorem encryptSettings_fst (c : BuffetConfig) (o : Outcome) (settings : String) :
    (c.encryptSettings o settings).1 = c.blobOf o settings := by
  unfold encryptSettings encryptWithAuthentication blobOf
  by_cases h : o.encryptOk <;> simp [h]

/-- **`SaveSettings` writes one file**, the one at the path of its name. -/
theorem saveSettings_files (c : BuffetConfig) (o : Outcome) (st : ConfigState)
    (n s : String) (cb : Option ℕ) :
    (c.saveSettings o st n s cb).files =
      if o.writeOk then Function.update st.files (c.createPath n) (some (c.blobOf o s)) else st.files := by
  unfold saveSettings writeFile
  rw [← encryptSettings_fst]
  by_cases h : o.writeOk <;> simp [h]

/-- The file of `n` can be read but not decrypted. -/
def DecryptFails (c : BuffetConfig) (o : Outcome) (st : ConfigState) (n : String) : Prop :=
  ∃ blob, readFile o st.files (c.createPath n) = some blob ∧ c.decryptWithAuthentication o blob = none

theorem not_decryptFails {blob s : String} (hr : readFile o st.files (c.createPath n) = some blob)
    (hd : c.decryptWithAuthentication o blob = some s) : ¬ c.DecryptFails o st n := by
  rintro ⟨b, hb, hn⟩
  have : blob = b := Option.some.inj (hr.symm.trans hb)
  subst this
  simp [hd] at hn

/-- Without a failed decryption `LoadSettings` changes nothing. -/
theorem loadSettings_state (h : ¬ c.DecryptFails o st n) : (c.loadSettings o st n).2 = st := by
  unfold loadSettings
  cases hr : readFile o st.files (c.createPath n) with
  | none => rfl
  | some blob =>
    dsimp only
    cases hd : c.decryptWithAuthentication o blob with
    | none => exact absurd ⟨blob, hr, hd⟩ h
    | some s => rfl

/-- **The recovery write of `LoadSettings`** goes to the default file. -/
theorem loadSettings_files (h : c.DecryptFails o st n) :
    (c.loadSettings o st n).2.files =
      if o.writeOk then Function.update st.files (c.createPath "") (some (c.blobOf o n)) else st.files := by
  obtain ⟨blob, hr, hd⟩ := h
  simp only [loadSettings, hr, hd, saveSettings_files]

/-- **Loading `n` concerns the file of `n` only**: every other file is unchanged, and if
the file of `n` cannot be decrypted while the encryptor and the write work, it then holds
an encryption of the empty settings. -/
structure LoadIsolated (c : BuffetConfig) (o : Outcome) (st : ConfigState) (n : String) : Prop where
  frame : ∀ p, p ≠ c.createPath n → (c.loadSettings o st n).2.files p = st.files p
  reset : c.DecryptFails o st n → o.encryptOk → o.writeOk →
    ∃ blob, (c.loadSettings o st n).2.files (c.createPath n) = some blob ∧
      c.encryptor.plain blob = some ""

/-- The write of the name's blob into the default file cannot be noticed. -/
def Harmless (c : BuffetConfig) (o : Outcome) (st : ConfigState) (n : String) : Prop :=
  n = "" ∨ o.writeOk = false ∨ (c.createPath "" = c.createPath n ∧ o.encryptOk = false) ∨
    (st.files (c.createPath "") = some (c.blobOf o n) ∧
      (o.encryptOk → ∃ blob, st.files (c.createPath n) = some blob ∧ c.encryptor.plain blob = some ""))

theorem LoadIsolated.of_harmless (h : c.DecryptFails o st n) (hh : c.Harmless o st n) :
    c.LoadIsolated o st n := by
  have hfiles := loadSettings_files h
  rcases hh with rfl | hw | ⟨hp, he⟩ | ⟨hsame, hblank⟩
  · refine ⟨fun p hp => ?_, fun _ he hw => ⟨c.encryptor.cipher o.nonce "", ?_, c.encryptor.plain_cipher _ _⟩⟩
    · rw [hfiles]
      split
      · exact Function.update_of_ne hp _ _
      · rfl
    · rw [hfiles, if_pos hw, Function.update_self, blobOf, if_pos he]
  · have hw' : ¬ o.writeOk = true := by simp [hw]
    exact ⟨fun p _ => by rw [hfiles, if_neg hw'], fun _ _ hw => absurd hw hw'⟩
  · refine ⟨fun p hpn => ?_, fun _ he' _ => absurd he' (by simp [he])⟩
    rw [hfiles, hp]
    split
    · exact Function.update_of_ne hpn _ _
    · rfl
  · -- the default file already holds what is written: nothing changes
    have hnop : (c.loadSettings o st n).2.files = st.files := by
      rw [hfiles, ← hsame, Function.update_eq_self, ite_self]
    exact ⟨fun p _ => by rw [hnop], fun _ he _ => hnop ▸ hblank he⟩

theorem LoadIsolated.harmless (h : c.DecryptFails o st n) (hi : c.LoadIsolated o st n) :
    c.Harmless o st n := by
  have hfiles := loadSettings_files h
  by_contra hne
  unfold Harmless at hne
  push Not at hne
  obtain ⟨hn, hw, hpath, hco⟩ := hne
  have hw' : o.writeOk = true := by simpa using hw
  rw [if_pos hw'] at hfiles
  by_cases hp : c.createPath "" = c.createPath n
  · -- the same file: it now holds the name, not the empty settings
    have he : o.encryptOk = true := by simpa using hpath hp
    obtain ⟨blob, hb, hplain⟩ := hi.reset h he hw'
    rw [hfiles, hp, Function.update_self, Option.some.injEq] at hb
    rw [← hb, blobOf, if_pos he, c.encryptor.plain_cipher] at hplain
    exact hn (Option.some.inj hplain)
  · -- the default file has changed, or the file of `n` still holds what it held
    have hsame := hi.frame _ hp
    rw [hfiles, Function.update_self] at hsame
    obtain ⟨he, hblank⟩ := hco hsame.symm
    obtain ⟨blob, hb, hplain⟩ := hi.reset h he hw'
    rw [hfiles, Function.update_of_ne (Ne.symm hp)] at hb
    exact hblank blob hb hplain

/-- **When loading a name is isolated**: exactly when its file is not there or can be
read and decrypted, or the write to the default file does no harm. -/
theorem loadIsolated_iff (c : BuffetConfig) (o : Outcome) (st : ConfigState) (n : String) :
    c.LoadIsolated o st n ↔ (c.DecryptFails o st n → c.Harmless o st n) := by
  constructor
  · exact fun hi h => hi.harmless h
  · intro hh
    by_cases h : c.DecryptFails o st n
    · exact LoadIsolated.of_harmless h (hh h)
    · have hst := loadSettings_state h
      exact ⟨fun p _ => by rw [hst], fun h' => absurd h' h⟩

/-- An encryptor that marks its blobs by a first letter. -/
def markEncryptor : Encryptor where
  cipher _ s := "E" ++ s
  plain blob := match blob.toList with
    | 'E' :: s => some (String.ofList s)
    | _ => none
  plain_cipher i s := by simp [String.toList_append]

/-- The store of the unit tests, at the path `settings_file`. -/
def testConfig : BuffetConfig where
  parts := ⟨FilePath.value, fun _ => "", id, fun _ => String.append_empty⟩
  settings := .ofString "settings_file"
  encryptor := markEncryptor

/-- The default settings are sealed, those of `config` are damaged. -/
def damagedState : ConfigState where
  files p :=
    if p = .ofString "settings_file" then some "Edevice"
    else if p = .ofString "settings_file.config" then some "damaged"
    else none
  posted := []

/-- Loading `config` replaces the default settings by the text `config`. -/
theorem loadSettings_overwrites :
    ¬ testConfig.LoadIsolated {} damagedState "config" ∧
      (testConfig.loadSettings {} damagedState "config").2.files (.ofString "settings_file") =
        some "Econfig" := by
  refine ⟨fun h => ?_, by decide⟩
  have := h.frame (.ofString "settings_file") (by decide)
  revert this
  decide

end SystemWeaved.BuffetConfig
