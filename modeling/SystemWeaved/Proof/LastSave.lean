import SystemWeaved.Lib.LastWrite
import SystemWeaved.Proof.LoadIsolation

/-!
# The settings store is a last-write map

Without a failed decryption only `SaveSettings` writes, and it writes the file of its
own name. So the files represent a map from names to what the last save that could be
written has left there (`run_represents`): the settings, if they could be encrypted, and
the empty blob if not.

The map is kept at the paths `CreatePath` makes of the names, which are different for
different names (`createPath_injOn`), **for names without NUL**: `base::FilePath` ends a
path at its first NUL (`nul_names_collide`).
-/

namespace SystemWeaved.BuffetConfig

/-- A call to the settings store, with the answers of the encryptor and the file layer. -/
inductive SettingsOp
  | save (name settings : String) (callback : Option ℕ) (o : Outcome)
  | load (name : String) (o : Outcome)
  deriving DecidableEq

namespace SettingsOp

def name : SettingsOp → String
  | .save n _ _ _ => n
  | .load n _ => n

/-- A save of `n` whose write succeeded. -/
def Saves (n : String) : SettingsOp → Prop
  | .save m _ _ o => m = n ∧ o.writeOk
  | .load _ _ => False

/-- The callback of a save, and whether it reports success. -/
def report : SettingsOp → Option (ℕ × Bool)
  | .save _ _ (some cb) o => some (cb, o.encryptOk && o.writeOk)
  | _ => none

end SettingsOp

variable {c : BuffetConfig} {st : ConfigState} {n : String}

/-- The state after one call. -/
def apply (c : BuffetConfig) (st : ConfigState) : SettingsOp → ConfigState
  | .save n s cb o => c.saveSettings o st n s cb
  | .load n o => (c.loadSettings o st n).2

/-- A load can read its file, if it exists, and decrypt it. -/
def OpOk (c : BuffetConfig) (st : ConfigState) : SettingsOp → Prop
  | .save _ _ _ _ => True
  | .load n o => o.readOk ∧ ¬ c.DecryptFails o st n

/-- A run of calls in which no load fails to read or decrypt. -/
def RunOk (c : BuffetConfig) : ConfigState → List SettingsOp → Prop
  | _, [] => True
  | st, op :: ops => c.OpOk st op ∧ RunOk c (c.apply st op) ops

/-- The settings path has an ordinary base name. -/
def Ordinary (c : BuffetConfig) : Prop := isEmptyOrSpecialCase (c.parts.baseName c.settings) = false

instance (c : BuffetConfig) : Decidable c.Ordinary := inferInstanceAs (Decidable (_ = false))

/-! ## The paths of the names -/

/-- What `CreatePath` puts before the extension. -/
def suffixOf (n : String) : String := if n = "" then "" else "." ++ n

theorem createPath_value (hc : c.Ordinary) (hn : NulFree n) :
    (c.createPath n).value =
      (c.parts.removeExtension c.settings).value ++ suffixOf n ++ c.parts.extension c.settings := by
  have hlaw := c.parts.remove_append_extension c.settings
  unfold createPath suffixOf
  by_cases h : n = ""
  · rw [if_pos h, if_pos h, String.append_empty, hlaw]
  · have hdot : ("." ++ n) ≠ "" := by simp
    have hpath := append_nulFree.1 (hlaw ▸ c.settings.nulFree)
    have hfree := (hpath.1.append (NulFree.append (s := ".") (by decide) hn)).append hpath.2
    rw [if_neg h, if_neg h, PathParts.insertBeforeExtension, if_neg hdot, if_neg (by simp [hc.symm]),
      FilePath.ofString_value hfree]

/-- **Different names have different files**, if they have no NUL. -/
theorem createPath_injOn (hc : c.Ordinary) : Set.InjOn c.createPath {n | NulFree n} := by
  intro n hn m hm h
  have hv := congrArg FilePath.value h
  rw [createPath_value hc hn, createPath_value hc hm, String.append_left_inj,
    String.append_right_inj] at hv
  unfold suffixOf at hv
  by_cases h1 : n = "" <;> by_cases h2 : m = "" <;> simp_all

/-! ## The files represent a map of names -/

/-- What the file of a name holds: what it held at the start, or what a save has left. -/
inductive Saved
  | initial (file : Option String)
  | settings (s : String)
  | blank

/-- A file holds what the map says. -/
def Holds (c : BuffetConfig) : Saved → Option String → Prop
  | .initial file, u => u = file
  | .settings s, u => ∃ blob, u = some blob ∧ c.encryptor.plain blob = some s
  | .blank, u => u = some ""

/-- What a call writes to the map. -/
def SettingsOp.written : SettingsOp → Option (String × Saved)
  | .save n s _ o => if o.writeOk then some (n, if o.encryptOk then .settings s else .blank) else none
  | .load _ _ => none

theorem writes_iff (n : String) (op : SettingsOp) : Writes SettingsOp.written n op ↔ op.Saves n := by
  cases op with
  | load m o => simp [Writes, SettingsOp.written, SettingsOp.Saves]
  | save m s cb o =>
    unfold Writes SettingsOp.written SettingsOp.Saves
    by_cases hw : o.writeOk <;> simp [hw]

theorem apply_load_state {o : Outcome} (h : c.OpOk st (.load n o)) : c.apply st (.load n o) = st :=
  loadSettings_state h.2

/-- **One call keeps the representation.** -/
theorem apply_represents (hc : c.Ordinary) {op : SettingsOp} (hn : NulFree op.name)
    (hop : c.OpOk st op) {m : String → Saved}
    (h : Represents c.createPath c.Holds {n | NulFree n} m st.files) :
    Represents c.createPath c.Holds {n | NulFree n} (put SettingsOp.written m op)
      (c.apply st op).files := by
  cases op with
  | load k o => rwa [apply_load_state hop]
  | save k s cb o =>
    rw [apply, saveSettings_files]
    by_cases hw : o.writeOk
    · rw [if_pos hw, put_of_write (by rw [SettingsOp.written, if_pos hw])]
      refine represents_put (createPath_injOn hc) h hn ?_
      unfold blobOf
      by_cases he : o.encryptOk
      · rw [if_pos he, if_pos he]
        exact ⟨_, rfl, c.encryptor.plain_cipher _ _⟩
      · rw [if_neg he, if_neg he]
        rfl
    · rw [if_neg hw]
      simpa only [put, SettingsOp.written, if_neg hw] using h

/-- **A run keeps the representation.** -/
theorem run_represents (hc : c.Ordinary) {ops : List SettingsOp} :
    ∀ {st : ConfigState} {m : String → Saved}, (∀ op ∈ ops, NulFree op.name) → c.RunOk st ops →
      Represents c.createPath c.Holds {n | NulFree n} m st.files →
      Represents c.createPath c.Holds {n | NulFree n} (ops.foldl (put SettingsOp.written) m)
        (ops.foldl c.apply st).files := by
  induction ops with
  | nil => exact fun _ _ h => h
  | cons op ops ih =>
    intro st m hn hr h
    exact ih (fun x hx => hn x (List.mem_cons_of_mem _ hx)) hr.2
      (apply_represents hc (hn op List.mem_cons_self) hr.1 h)

/-- The map the files represent before any call. -/
def initially (c : BuffetConfig) (st : ConfigState) (n : String) : Saved :=
  .initial (st.files (c.createPath n))

theorem run_holds (hc : c.Ordinary) {ops : List SettingsOp} (hn : ∀ op ∈ ops, NulFree op.name)
    (hr : c.RunOk st ops) (hnf : NulFree n) :
    c.Holds (ops.foldl (put SettingsOp.written) (c.initially st) n)
      ((ops.foldl c.apply st).files (c.createPath n)) := by
  have h0 : Represents c.createPath c.Holds {n | NulFree n} (c.initially st) st.files :=
    fun _ _ => rfl
  exact run_represents hc hn hr h0 n hnf

/-- A load that meets no failure returns the settings the file holds. -/
theorem loadSettings_of_holds {o : Outcome} {s : String} (hop : c.OpOk st (.load n o))
    (h : c.Holds (.settings s) (st.files (c.createPath n))) : (c.loadSettings o st n).1 = s := by
  obtain ⟨blob, hfile, hplain⟩ := h
  have hread : readFile o st.files (c.createPath n) = some blob := by
    rw [readFile, if_pos hop.1, hfile]
  have hdec : c.decryptWithAuthentication o blob = some s := by
    cases hd : c.decryptWithAuthentication o blob with
    | none => exact absurd ⟨blob, hread, hd⟩ hop.2
    -- whatever is decrypted is what the blob was made of
    | some t =>
      unfold decryptWithAuthentication at hd
      split at hd
      · exact hd.symm.trans hplain
      · simp at hd
  simp only [loadSettings, hread, hdec]

/-! ## The reports -/

/-- The posted callbacks, and whether each carries a null error. -/
def reports (st : ConfigState) : List (ℕ × Bool) := st.posted.map fun p => (p.1, p.2.isNone)

/-- The error of a save is null exactly when it was encrypted and written. -/
theorem saveSettings_posted (c : BuffetConfig) (o : Outcome) (st : ConfigState) (n s : String) (cb : ℕ) :
    ∃ error, (c.saveSettings o st n s (some cb)).posted = st.posted ++ [(cb, error)] ∧
      error.isNone = (o.encryptOk && o.writeOk) := by
  unfold saveSettings encryptSettings encryptWithAuthentication writeFile
  cases o.encryptOk <;> cases o.writeOk <;> simp [addTo]

theorem apply_reports {op : SettingsOp} (hop : c.OpOk st op) :
    reports (c.apply st op) = reports st ++ op.report.toList := by
  cases op with
  | load m o =>
    have hrep : (SettingsOp.load m o).report = none := rfl
    rw [apply_load_state hop, hrep, Option.toList_none, List.append_nil]
  | save m s cb o =>
    cases cb with
    | none => exact (List.append_nil _).symm
    | some cb =>
      obtain ⟨error, hp, he⟩ := saveSettings_posted c o st m s cb
      simp only [apply, reports, hp, List.map_append, List.map_cons, List.map_nil, he,
        SettingsOp.report, Option.toList_some]

theorem run_reports {ops : List SettingsOp} : ∀ {st : ConfigState}, c.RunOk st ops →
    reports (ops.foldl c.apply st) = reports st ++ ops.filterMap SettingsOp.report := by
  induction ops with
  | nil => intro st _; simp
  | cons op ops ih =>
    intro st hr
    rw [List.foldl_cons, ih hr.2, apply_reports hr.1, List.append_assoc]
    cases h : op.report <;> simp [h]

/-! ## The last save wins -/

/-- **The store after `ops` is the last-write map of the saves in `ops`**, for a load of
any name that meets no failure. -/
structure LastSaveWins (c : BuffetConfig) (st : ConfigState) (ops : List SettingsOp) : Prop where
  latest : ∀ pre n s cb o post, ops = pre ++ .save n s cb o :: post → o.writeOk →
    (∀ op ∈ post, ¬ op.Saves n) → o.encryptOk → ∀ o', c.OpOk (ops.foldl c.apply st) (.load n o') →
      (c.loadSettings o' (ops.foldl c.apply st) n).1 = s
  cleared : ∀ pre n s cb o post, ops = pre ++ .save n s cb o :: post → o.writeOk →
    (∀ op ∈ post, ¬ op.Saves n) → ¬ o.encryptOk →
      (ops.foldl c.apply st).files (c.createPath n) = some ""
  untouched : ∀ n, NulFree n → (∀ op ∈ ops, ¬ op.Saves n) →
    (ops.foldl c.apply st).files (c.createPath n) = st.files (c.createPath n)
  callbacks : reports (ops.foldl c.apply st) = reports st ++ ops.filterMap SettingsOp.report

/-- **The last successful save wins**, over any run of calls in which no load fails, for
settings names without NUL. -/
theorem lastSaveWins (c : BuffetConfig) (hc : c.Ordinary) (st : ConfigState) (ops : List SettingsOp)
    (hn : ∀ op ∈ ops, NulFree op.name) (hr : c.RunOk st ops) : c.LastSaveWins st ops := by
  -- what the map says of the name of a save that is not followed by another one
  have hlast : ∀ pre n s cb o post, ops = pre ++ .save n s cb o :: post → o.writeOk →
      (∀ op ∈ post, ¬ op.Saves n) →
      c.Holds (if o.encryptOk then .settings s else .blank)
        ((ops.foldl c.apply st).files (c.createPath n)) := by
    intro pre n s cb o post he hw hpost
    have hnf : NulFree n := hn (.save n s cb o) (by rw [he]; simp)
    have hh := run_holds hc hn hr hnf
    have hwr : (SettingsOp.save n s cb o).written =
        some (n, if o.encryptOk then .settings s else .blank) := by
      rw [SettingsOp.written, if_pos hw]
    have hfold := fold_last hwr pre (fun x hx => mt (writes_iff n x).1 (hpost x hx)) (c.initially st)
    rw [← he] at hfold
    rwa [hfold] at hh
  refine ⟨?_, ?_, ?_, run_reports hr⟩
  · intro pre n s cb o post he hw hpost henc o' hop
    have := hlast pre n s cb o post he hw hpost
    rw [if_pos henc] at this
    exact loadSettings_of_holds hop this
  · intro pre n s cb o post he hw hpost henc
    have := hlast pre n s cb o post he hw hpost
    rw [if_neg henc] at this
    exact this
  · intro n hnf hno
    have hh := run_holds hc hn hr hnf
    rw [fold_untouched (fun x hx => mt (writes_iff n x).1 (hno x hx))] at hh
    exact hh

/-- Two saves, under the names `config` and the empty one, read back. -/
theorem lastSaveWins_test :
    testConfig.LastSaveWins ⟨fun _ => none, []⟩
      [.save "config" "a" (some 0) {}, .save "" "b" (some 1) {}, .load "config" {}] :=
  lastSaveWins testConfig (by decide) _ _ (by decide) ⟨trivial, trivial,
    ⟨rfl, not_decryptFails (show _ = some "Ea" by decide +kernel) (show _ = some "a" by decide)⟩, trivial⟩

/-- Two names that agree up to a NUL share a file: a load of the first returns what was
saved under the second. -/
theorem nul_names_collide : testConfig.Ordinary ∧
    testConfig.RunOk ⟨fun _ => none, []⟩ [.save "x\x001" "a" none {}, .save "x\x002" "b" none {}] ∧
    ¬ testConfig.LastSaveWins ⟨fun _ => none, []⟩
      [.save "x\x001" "a" none {}, .save "x\x002" "b" none {}] := by
  refine ⟨by decide, ⟨trivial, trivial, trivial⟩, fun h => ?_⟩
  have hread := h.latest [] "x\x001" "a" none {} [.save "x\x002" "b" none {}] rfl rfl
    (by simp [SettingsOp.Saves]) rfl {}
    ⟨rfl, not_decryptFails (show _ = some "Eb" by decide +kernel) (show _ = some "b" by decide)⟩
  revert hread
  decide +kernel

end SystemWeaved.BuffetConfig
