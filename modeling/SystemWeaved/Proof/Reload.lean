import SystemWeaved.Proof.Defaults

/-!
# Loading the defaults again, and loading a bad file

`LoadDefaults` reads a file key by key, and stops at the pairing modes or at the role if these
are unknown.

* `ReadPart.load`: a file has the effect of the part that is read, before the key that is wrong.
* `defaults_settle`: to load the defaults again changes nothing, whether they are accepted or not.
-/

namespace SystemWeaved

open config_keys

/-- The store with some of its keys only. -/
def KeyValueStore.only (store : KeyValueStore) (keys : List String) : KeyValueStore where
  getString key := if key ∈ keys then store.getString key else none
  getBoolean key := if key ∈ keys then store.getBoolean key else none

namespace BuffetConfig

variable {P : Platform}

/-- The keys that are read before the pairing modes. -/
def keysBeforeModes : List String :=
  [kClientId, kClientSecret, kApiKey, kOAuthURL, kServiceURL, kOemName, kModelName, kModelId,
    kWifiAutoSetupEnabled, kEmbeddedCode]

/-- The keys that are read before the role. -/
def keysBeforeRole : List String := keysBeforeModes ++ [kPairingModes, kName, kDescription, kLocation]

/-- What a file gives before its pairing modes. -/
def readBeforeModes (store : KeyValueStore) (settings : WeaveSettings P) : WeaveSettings P :=
  { settings with
    clientId := (store.getString kClientId).getD settings.clientId
    clientSecret := (store.getString kClientSecret).getD settings.clientSecret
    apiKey := (store.getString kApiKey).getD settings.apiKey
    oauthUrl := (store.getString kOAuthURL).getD settings.oauthUrl
    serviceUrl := (store.getString kServiceURL).getD settings.serviceUrl
    oemName := (store.getString kOemName).getD settings.oemName
    modelName := (store.getString kModelName).getD settings.modelName
    modelId := (store.getString kModelId).getD settings.modelId
    firmwareVersion := (P.osRelease kProductVersionKey).getD settings.firmwareVersion
    wifiAutoSetupEnabled := (store.getBoolean kWifiAutoSetupEnabled).getD settings.wifiAutoSetupEnabled
    embeddedCode := (store.getString kEmbeddedCode).getD settings.embeddedCode }

/-- What it gives with its pairing modes, before its role. -/
def readBeforeRole (store : KeyValueStore) (settings : WeaveSettings P) (pairingModes : Finset P.PairingType) :
    WeaveSettings P :=
  { readBeforeModes store settings with
    pairingModes
    name := (store.getString kName).getD settings.name
    description := (store.getString kDescription).getD settings.description
    location := (store.getString kLocation).getD settings.location }

/-- What it gives with its role. -/
def readAll (store : KeyValueStore) (settings : WeaveSettings P) (pairingModes : Finset P.PairingType)
    (localAnonymousAccessRole : P.AuthScope) : WeaveSettings P :=
  { readBeforeRole store settings pairingModes with
    localAnonymousAccessRole
    localDiscoveryEnabled := (store.getBoolean kLocalDiscoveryEnabled).getD settings.localDiscoveryEnabled
    localPairingEnabled := (store.getBoolean kLocalPairingEnabled).getD settings.localPairingEnabled }

/-- `LoadDefaults` by how far it reads the file. -/
theorem loadDefaultsFrom_eq (store : KeyValueStore) (settings : WeaveSettings P) : loadDefaultsFrom store settings =
    (fileModes store settings).elim (false, readBeforeModes store settings) fun pairingModes =>
      (fileRole store settings).elim (false, readBeforeRole store settings pairingModes) fun role =>
        (true, readAll store settings pairingModes role) := by
  unfold loadDefaultsFrom fileModes fileRole
  rcases store.getString kPairingModes with _ | modesStr
  · rcases store.getString kLocalAnonymousAccessRole with _ | roleStr
    · rfl
    · dsimp only
      rcases P.stringToAuthScope roleStr with _ | role <;> rfl
  · dsimp only
    rcases readPairingModes (P := P) (P.split modesStr) with _ | pairingModes
    · rfl
    · rcases store.getString kLocalAnonymousAccessRole with _ | roleStr
      · rfl
      · dsimp only
        rcases P.stringToAuthScope roleStr with _ | role <;> rfl

theorem loadDefaultsFrom_badModes {store : KeyValueStore} {settings : WeaveSettings P}
    (hmodes : fileModes store settings = none) :
    loadDefaultsFrom store settings = (false, readBeforeModes store settings) := by
  rw [loadDefaultsFrom_eq, hmodes]
  rfl

theorem loadDefaultsFrom_badRole {store : KeyValueStore} {settings : WeaveSettings P}
    {pairingModes : Finset P.PairingType} (hmodes : fileModes store settings = some pairingModes)
    (hrole : fileRole store settings = none) :
    loadDefaultsFrom store settings = (false, readBeforeRole store settings pairingModes) := by
  rw [loadDefaultsFrom_eq, hmodes, Option.elim_some, hrole]
  rfl

theorem loadDefaultsFrom_accepted {store : KeyValueStore} {settings : WeaveSettings P}
    {pairingModes : Finset P.PairingType} {role : P.AuthScope} (hmodes : fileModes store settings = some pairingModes)
    (hrole : fileRole store settings = some role) :
    loadDefaultsFrom store settings = (true, readAll store settings pairingModes role) := by
  rw [loadDefaultsFrom_eq, hmodes, Option.elim_some, hrole]
  rfl

/-! ## A part of a file -/

section Only

variable {store : KeyValueStore} {keys : List String} {key : String}

theorem only_getString (h : key ∈ keys) : (store.only keys).getString key = store.getString key := if_pos h

theorem only_getBoolean (h : key ∈ keys) : (store.only keys).getBoolean key = store.getBoolean key := if_pos h

theorem only_getString_none (h : key ∉ keys) : (store.only keys).getString key = none := if_neg h

theorem only_getBoolean_none (h : key ∉ keys) : (store.only keys).getBoolean key = none := if_neg h

end Only

variable {store : KeyValueStore} {keys : List String} {settings : WeaveSettings P}

theorem readBeforeModes_only (h : keysBeforeModes ⊆ keys) :
    readBeforeModes (store.only keys) settings = readBeforeModes store settings := by
  unfold readBeforeModes
  rw [only_getString (h (by decide : kClientId ∈ keysBeforeModes)),
    only_getString (h (by decide : kClientSecret ∈ keysBeforeModes)),
    only_getString (h (by decide : kApiKey ∈ keysBeforeModes)),
    only_getString (h (by decide : kOAuthURL ∈ keysBeforeModes)),
    only_getString (h (by decide : kServiceURL ∈ keysBeforeModes)),
    only_getString (h (by decide : kOemName ∈ keysBeforeModes)),
    only_getString (h (by decide : kModelName ∈ keysBeforeModes)),
    only_getString (h (by decide : kModelId ∈ keysBeforeModes)),
    only_getBoolean (h (by decide : kWifiAutoSetupEnabled ∈ keysBeforeModes)),
    only_getString (h (by decide : kEmbeddedCode ∈ keysBeforeModes))]

theorem fileRole_only (h : kLocalAnonymousAccessRole ∉ keys) :
    fileRole (store.only keys) settings = some settings.localAnonymousAccessRole := by
  unfold fileRole
  rw [only_getString_none h]

/-- The part before the pairing modes is accepted. -/
theorem loadDefaultsFrom_beforeModes : loadDefaultsFrom (store.only keysBeforeModes) settings =
    (true, readBeforeModes store settings) := by
  have hmodes : fileModes (store.only keysBeforeModes) settings = some settings.pairingModes := by
    unfold fileModes
    rw [only_getString_none (by decide : kPairingModes ∉ keysBeforeModes)]
  rw [loadDefaultsFrom_accepted hmodes (fileRole_only (by decide))]
  unfold readAll readBeforeRole
  rw [readBeforeModes_only (List.Subset.refl _), only_getString_none (by decide : kName ∉ keysBeforeModes),
    only_getString_none (by decide : kDescription ∉ keysBeforeModes),
    only_getString_none (by decide : kLocation ∉ keysBeforeModes),
    only_getBoolean_none (by decide : kLocalDiscoveryEnabled ∉ keysBeforeModes),
    only_getBoolean_none (by decide : kLocalPairingEnabled ∉ keysBeforeModes)]
  rfl

/-- The part before the role is accepted with good pairing modes. -/
theorem loadDefaultsFrom_beforeRole {pairingModes : Finset P.PairingType}
    (hmodes : fileModes store settings = some pairingModes) :
    loadDefaultsFrom (store.only keysBeforeRole) settings = (true, readBeforeRole store settings pairingModes) := by
  have hsame : fileModes (store.only keysBeforeRole) settings = some pairingModes := by
    rw [← hmodes]
    unfold fileModes
    rw [only_getString (by decide : kPairingModes ∈ keysBeforeRole)]
  rw [loadDefaultsFrom_accepted hsame (fileRole_only (by decide))]
  unfold readAll readBeforeRole
  have hkeys : keysBeforeModes ⊆ keysBeforeRole := List.subset_append_left _ _
  rw [readBeforeModes_only hkeys, only_getString (by decide : kName ∈ keysBeforeRole),
    only_getString (by decide : kDescription ∈ keysBeforeRole),
    only_getString (by decide : kLocation ∈ keysBeforeRole),
    only_getBoolean_none (by decide : kLocalDiscoveryEnabled ∉ keysBeforeRole),
    only_getBoolean_none (by decide : kLocalPairingEnabled ∉ keysBeforeRole)]
  rfl

/-- The pairing modes of a file are unknown, whatever the settings are. -/
def BadModes (P : Platform) (store : KeyValueStore) : Prop :=
  ∃ modesStr, store.getString kPairingModes = some modesStr ∧ readPairingModes (P := P) (P.split modesStr) = none

/-- Its role is. -/
def BadRole (P : Platform) (store : KeyValueStore) : Prop :=
  ∃ roleStr, store.getString kLocalAnonymousAccessRole = some roleStr ∧ P.stringToAuthScope roleStr = none

theorem fileModes_eq_none_iff : fileModes store settings = none ↔ BadModes P store := by
  unfold fileModes BadModes
  rcases store.getString kPairingModes with _ | modesStr <;> simp

theorem fileRole_eq_none_iff : fileRole store settings = none ↔ BadRole P store := by
  unfold fileRole BadRole
  rcases store.getString kLocalAnonymousAccessRole with _ | roleStr <;> simp

/-- The part of a file that is read: all of it, or what comes before the key that is wrong. -/
inductive ReadPart (P : Platform) (store : KeyValueStore) : Bool → KeyValueStore → Prop
  | all (hmodes : ¬BadModes P store) (hrole : ¬BadRole P store) : ReadPart P store true store
  | beforeModes (hmodes : BadModes P store) : ReadPart P store false (store.only keysBeforeModes)
  | beforeRole (hmodes : ¬BadModes P store) (hrole : BadRole P store) :
      ReadPart P store false (store.only keysBeforeRole)

theorem fileModes_good (hmodes : ¬BadModes P store) (settings : WeaveSettings P) :
    ∃ pairingModes, fileModes store settings = some pairingModes :=
  Option.ne_none_iff_exists'.1 (mt fileModes_eq_none_iff.1 hmodes)

theorem fileRole_good (hrole : ¬BadRole P store) (settings : WeaveSettings P) :
    ∃ role, fileRole store settings = some role :=
  Option.ne_none_iff_exists'.1 (mt fileRole_eq_none_iff.1 hrole)

theorem readPart_exists (P : Platform) (store : KeyValueStore) : ∃ accepted part, ReadPart P store accepted part := by
  by_cases hmodes : BadModes P store
  · exact ⟨_, _, .beforeModes hmodes⟩
  · by_cases hrole : BadRole P store
    · exact ⟨_, _, .beforeRole hmodes hrole⟩
    · exact ⟨_, _, .all hmodes hrole⟩

/-- **A file has the effect of the part that is read**, which would be accepted. -/
theorem ReadPart.load {accepted : Bool} {part : KeyValueStore} (h : ReadPart P store accepted part)
    (settings : WeaveSettings P) : ∃ after, loadDefaultsFrom part settings = (true, after) ∧
      loadDefaultsFrom store settings = (accepted, after) := by
  cases h with
  | all hmodes hrole =>
    obtain ⟨pairingModes, hread⟩ := fileModes_good hmodes settings
    obtain ⟨role, hreadRole⟩ := fileRole_good hrole settings
    exact ⟨_, loadDefaultsFrom_accepted hread hreadRole, loadDefaultsFrom_accepted hread hreadRole⟩
  | beforeModes hmodes =>
    exact ⟨_, loadDefaultsFrom_beforeModes, loadDefaultsFrom_badModes (fileModes_eq_none_iff.2 hmodes)⟩
  | beforeRole hmodes hrole =>
    obtain ⟨pairingModes, hread⟩ := fileModes_good hmodes settings
    exact ⟨_, loadDefaultsFrom_beforeRole hread, loadDefaultsFrom_badRole hread (fileRole_eq_none_iff.2 hrole)⟩

/-! ## Loading again -/

/-- A value that has been overwritten once is overwritten with the same. -/
theorem getD_again {α : Type} (value : Option α) (before : α) : value.getD (value.getD before) = value.getD before := by
  cases value <;> rfl

/-- The settings of the options, over what the file gives over itself. -/
theorem option_again (option : String) (value : Option String) (before : String) :
    (if option ≠ "" then option else value.getD (if option ≠ "" then option else value.getD before)) =
      if option ≠ "" then option else value.getD before := by
  split
  · rfl
  · exact getD_again value before

theorem apply_readAll_again (options : Options) (pairingModes : Finset P.PairingType) (role : P.AuthScope) :
    options.apply (readAll store (hardcoded (options.apply (readAll store (hardcoded settings) pairingModes role)))
      pairingModes role) = options.apply (readAll store (hardcoded settings) pairingModes role) := by
  unfold Options.apply readAll readBeforeRole readBeforeModes hardcoded
  simp only [option_again, getD_again]

/-- The modes and the role that a file gives are given again. -/
theorem fileModes_again {pairingModes : Finset P.PairingType} (h : fileModes store settings = some pairingModes)
    {after : WeaveSettings P} (hafter : after.pairingModes = pairingModes) :
    fileModes store after = some pairingModes := by
  unfold fileModes at h ⊢
  cases hkey : store.getString kPairingModes with
  | none =>
    rw [← hafter]
  | some modesStr =>
    rw [hkey] at h
    exact h

theorem fileRole_again {role : P.AuthScope} (h : fileRole store settings = some role)
    {after : WeaveSettings P} (hafter : after.localAnonymousAccessRole = role) : fileRole store after = some role := by
  unfold fileRole at h ⊢
  cases hkey : store.getString kLocalAnonymousAccessRole with
  | none =>
    rw [← hafter]
  | some roleStr =>
    rw [hkey] at h
    exact h

/-- An accepted file gives the same again, over its own settings under the options. -/
theorem loadDefaultsFrom_again (options : Options) {after : WeaveSettings P}
    (h : loadDefaultsFrom store (hardcoded settings) = (true, after)) : ∃ again,
      loadDefaultsFrom store (hardcoded (options.apply after)) = (true, again) ∧
        options.apply again = options.apply after := by
  have hfst := loadDefaultsFrom_fst store (hardcoded settings)
  rw [h] at hfst
  obtain ⟨hmodes, hrole⟩ := Bool.and_eq_true_iff.1 hfst.symm
  obtain ⟨pairingModes, hread⟩ := Option.isSome_iff_exists.1 hmodes
  obtain ⟨role, hreadRole⟩ := Option.isSome_iff_exists.1 hrole
  have hafter : after = readAll store (hardcoded settings) pairingModes role :=
    congrArg Prod.snd (h.symm.trans (loadDefaultsFrom_accepted hread hreadRole))
  subst hafter
  exact ⟨_, loadDefaultsFrom_accepted (fileModes_again hread rfl) (fileRole_again hreadRole rfl),
    apply_readAll_again options pairingModes role⟩

/-- **The defaults settle at once.** To load them again changes nothing, whether they are
accepted or not. A file of defaults has the effect of the part of it that is read; that part
does not depend on the settings, it would be accepted, and it is the whole file exactly if the
file is. -/
theorem defaults_settle (options : Options) (settings : WeaveSettings P) :
    loadDefaults options (loadDefaults options settings).2 = loadDefaults options settings ∧
    ∀ store, P.defaultsFile options.defaults = .loaded store → ∃ accepted part, ReadPart P store accepted part ∧
      ∀ settings : WeaveSettings P, ∃ after, loadDefaultsFrom part (hardcoded settings) = (true, after) ∧
        loadDefaults options settings = (accepted, options.apply after) := by
  have hload : ∀ store, P.defaultsFile options.defaults = .loaded store → ∀ (settings : WeaveSettings P) accepted after,
      loadDefaultsFrom store (hardcoded settings) = (accepted, after) →
      loadDefaults options settings = (accepted, options.apply after) := by
    intro store hfile settings accepted after h
    unfold loadDefaults
    rw [hfile]
    show ((loadDefaultsFrom store (hardcoded settings)).1,
      options.apply (loadDefaultsFrom store (hardcoded settings)).2) = _
    rw [h]
  constructor
  · cases hfile : P.defaultsFile options.defaults with
    | absent =>
      unfold loadDefaults
      rw [hfile]
      rfl
    | unloadable =>
      unfold loadDefaults
      rw [hfile]
      rfl
    | loaded store =>
      obtain ⟨accepted, part, hpart⟩ := readPart_exists P store
      obtain ⟨after, hpartLoad, hstoreLoad⟩ := hpart.load (hardcoded settings)
      obtain ⟨again, hpartAgain, hsame⟩ := loadDefaultsFrom_again options hpartLoad
      obtain ⟨again', hpartLoad', hstoreLoad'⟩ := hpart.load (hardcoded (options.apply after))
      have heq : again' = again := congrArg Prod.snd (hpartLoad'.symm.trans hpartAgain)
      rw [hload store hfile settings _ _ hstoreLoad, hload store hfile _ _ _ hstoreLoad', heq, hsame]
  · intro store hfile
    obtain ⟨accepted, part, hpart⟩ := readPart_exists P store
    refine ⟨accepted, part, hpart, fun settings => ?_⟩
    obtain ⟨after, hpartLoad, hstoreLoad⟩ := hpart.load (hardcoded settings)
    exact ⟨after, hpartLoad, hload store hfile settings _ _ hstoreLoad⟩

/-- A file that gives a name, and then a role that is unknown. -/
def strangeFile : KeyValueStore where
  getString key :=
    if key = kName then some "Lamp"
    else if key = kLocalAnonymousAccessRole then some "stranger"
    else none
  getBoolean key := if key = kLocalDiscoveryEnabled then some false else none

def strangeDevice : Platform := { bareDevice with defaultsFile := fun _ => .loaded strangeFile }

def strangeSettings : WeaveSettings strangeDevice where
  clientId := ""
  clientSecret := ""
  apiKey := ""
  oauthUrl := ""
  serviceUrl := ""
  name := ""
  description := ""
  location := ""
  localAnonymousAccessRole := "viewer"
  localDiscoveryEnabled := true
  localPairingEnabled := true
  oemName := ""
  modelName := ""
  modelId := ""
  wifiAutoSetupEnabled := true
  embeddedCode := ""
  pairingModes := ∅
  firmwareVersion := ""
  testPrivetSsid := ""

theorem defaults_settle_test :
    loadDefaults testOptions (loadDefaults testOptions strangeSettings).2 = loadDefaults testOptions strangeSettings ∧
    ∃ accepted part, ReadPart strangeDevice strangeFile accepted part ∧
      ∀ settings : WeaveSettings strangeDevice, ∃ after,
        loadDefaultsFrom part (hardcoded settings) = (true, after) ∧
        loadDefaults testOptions settings = (accepted, testOptions.apply after) :=
  ⟨(defaults_settle testOptions strangeSettings).1, (defaults_settle testOptions strangeSettings).2 strangeFile rfl⟩

/-- The name is taken, and what comes after the role is not read. -/
example : (loadDefaults testOptions strangeSettings).1 = false ∧
    (loadDefaults testOptions strangeSettings).2.name = "Lamp" ∧
    (loadDefaults testOptions strangeSettings).2.localDiscoveryEnabled = true := by decide

end BuffetConfig

end SystemWeaved
