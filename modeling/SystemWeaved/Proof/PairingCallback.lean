import SystemWeaved.Proof.Pairing

/-!
# What the pairing callback has been told

`SetPairingInfoListener` and `OnNotification` decide each for itself whether to call the pairing
callback, and with what.

* `handleNotification_eq`: `OnNotification` in one call is what it is step by step, on a weaved
  that does not change meanwhile.
* `last_argument`: from its installation on, the last argument of a callback is the pairing
  information, or null while that is incomplete.
* `reinstalled_callback_stale`: a callback that is installed again is not told what it has missed.
-/

namespace SystemWeaved

open NotificationListener

/-- What a callback should know: the pairing information, if it is complete. -/
def PairingInfo.view (info : PairingInfo) : Option PairingInfo := if info.incomplete then none else some info

namespace PairingImpl

variable {S : ByteStrings} {c : PairingImpl}

/-! ## `OnNotification` in one call -/

/-- The answer of weaved to the getter for an identifier. -/
def getterReply (S : ByteStrings) (weaved : StateProperties) (isOk : Bool) (id : ℤ) : Option S.String16 :=
  if isOk then
    if id = PAIRING_SESSION_ID then some (weaved.getPairingSessionId S)
    else if id = PAIRING_MODE then some (weaved.getPairingMode S)
    else some (weaved.getPairingCode S)
  else none

theorem readProperty_eq (c : PairingImpl) (weaved : StateProperties) (isOk : Bool) (id : ℤ) (changed : Bool) :
    c.readProperty S weaved isOk id changed = c.readReply S id (getterReply S weaved isOk id) changed := by
  unfold readProperty readReply getterReply
  cases isOk with
  | false => simp
  | true =>
    by_cases hs : id = PAIRING_SESSION_ID
    · simp [hs]
    · by_cases hm : id = PAIRING_MODE
      · simp [hm, PAIRING_MODE, PAIRING_SESSION_ID]
      · simp [hs, hm]

/-- `OnNotification` goes on for `n` steps, without a change of weaved. -/
def resumeSteps (S : ByteStrings) (weaved : StateProperties) (isOk : Bool) : ℕ → PairingImpl → PairingImpl
  | 0, c => c
  | n + 1, c =>
    match c.onNotification with
    | none => c
    | some (ids, changed) => resumeSteps S weaved isOk n (c.resumeNotification S weaved isOk ids changed)

/-- A reply touches the pairing information only. -/
theorem readReply_info (c : PairingImpl) (id : ℤ) (reply : Option S.String16) (changed : Bool) :
    ∃ (info : PairingInfo) (changed' : Bool), ∀ d : PairingImpl, d.pairingInfo = c.pairingInfo →
      d.readReply S id reply changed = ({ d with pairingInfo := info }, changed') ∧
        (changed' = false → changed = false ∧ info = c.pairingInfo) := by
  cases reply with
  | none =>
    refine ⟨c.pairingInfo, changed, fun d hd => ⟨?_, fun h => ⟨h, rfl⟩⟩⟩
    rw [← hd]
    rfl
  | some value =>
    by_cases hs : id = PAIRING_SESSION_ID
    · refine ⟨{ c.pairingInfo with sessionId := S.ToString value }, true, fun d hd => ⟨?_, by simp⟩⟩
      simp [readReply, hs, hd]
    · by_cases hm : id = PAIRING_MODE
      · refine ⟨{ c.pairingInfo with pairingMode := S.ToString value }, true, fun d hd => ⟨?_, by simp⟩⟩
        simp [readReply, hm, hd, PAIRING_MODE, PAIRING_SESSION_ID]
      · by_cases hc : id = PAIRING_CODE
        · refine ⟨{ c.pairingInfo with pairingCode := S.ToString value }, true, fun d hd => ⟨?_, by simp⟩⟩
          simp [readReply, hc, hd, PAIRING_MODE, PAIRING_SESSION_ID, PAIRING_CODE]
        · refine ⟨c.pairingInfo, changed, fun d hd => ⟨?_, fun h => ⟨h, rfl⟩⟩⟩
          rw [← hd]
          simp [readReply, hs, hm, hc]

/-- So does the loop, and if it has not set its flag it has changed nothing. -/
theorem readReplies_info (ids : List (ℤ × Option S.String16)) :
    ∀ (c : PairingImpl) (changed : Bool), ∃ (info : PairingInfo) (changed' : Bool),
      ∀ d : PairingImpl, d.pairingInfo = c.pairingInfo →
        d.readReplies S ids changed = ({ d with pairingInfo := info }, changed') ∧
          (changed' = false → changed = false ∧ info = c.pairingInfo) := by
  induction ids with
  | nil =>
    intro c changed
    refine ⟨c.pairingInfo, changed, fun d hd => ⟨?_, fun h => ⟨h, rfl⟩⟩⟩
    rw [← hd]
    rfl
  | cons x ids ih =>
    intro c changed
    obtain ⟨info, changed₁, hround⟩ := readReply_info c x.1 x.2 changed
    obtain ⟨info', changed₂, hrest⟩ := ih { c with pairingInfo := info } changed₁
    refine ⟨info', changed₂, fun d hd => ?_⟩
    obtain ⟨hd₁, hkeep₁⟩ := hround d hd
    obtain ⟨hd₂, hkeep₂⟩ := hrest { d with pairingInfo := info } rfl
    refine ⟨?_, fun h => ?_⟩
    · rw [readReplies, hd₁]
      exact hd₂
    · obtain ⟨h₁, hinfo⟩ := hkeep₂ h
      obtain ⟨h₀, hinfo₀⟩ := hkeep₁ h₁
      exact ⟨h₀, hinfo.trans hinfo₀⟩

/-- The callback does not depend on where `OnNotification` is. -/
theorem notifyCallback_frame (c : PairingImpl) (at' : Option (List ℤ × Bool)) (changed : Bool) :
    ({ c with onNotification := at' } : PairingImpl).notifyCallback changed =
      { c.notifyCallback changed with onNotification := at' } := by
  obtain ⟨connected, info, callback, running, given⟩ := c
  cases callback with
  | none => rfl
  | some callback => cases changed <;> rfl

theorem resumeSteps_eq (weaved : StateProperties) (isOk : Bool) (ids : List ℤ) :
    ∀ (c : PairingImpl) (changed : Bool),
      resumeSteps S weaved isOk (ids.length + 1) { c with onNotification := some (ids, changed) } =
        { (let r := c.readReplies S (ids.map fun id => (id, getterReply S weaved isOk id)) changed
           r.1.notifyCallback r.2) with onNotification := none } := by
  induction ids with
  | nil =>
    intro c changed
    rw [List.map_nil, readReplies, List.length_nil]
    simp only [resumeSteps, resumeNotification]
    rw [notifyCallback_frame]
  | cons id ids ih =>
    intro c changed
    obtain ⟨info, changed', hround⟩ := readReply_info c id (getterReply S weaved isOk id) changed
    have hc := (hround c rfl).1
    have hrun := (hround { c with onNotification := some (id :: ids, changed) } rfl).1
    rw [List.map_cons, readReplies, hc, List.length_cons, resumeSteps]
    simp only [resumeNotification, readProperty_eq, hrun]
    exact ih { c with pairingInfo := info } changed'

/-- **`OnNotification` in one call** is the method step by step. -/
theorem handleNotification_eq (c : PairingImpl) (weaved : StateProperties) (isOk : Bool) (ids : List ℤ) :
    resumeSteps S weaved isOk (ids.length + 1) { c with onNotification := some (ids, false) } =
      { c.handleNotification S (ids.map fun id => (id, getterReply S weaved isOk id)) with onNotification := none } :=
  resumeSteps_eq weaved isOk ids c false

/-! ## The arguments of a callback -/

/-- The calls on a `ServiceImpl` one after the other. -/
def calls (c : PairingImpl) (cs : List (Call S)) : PairingImpl := cs.foldl (fun c x => c.call x) c

/-- The last argument, null if there has been none. -/
def lastArgument : List (ℕ × Option PairingInfo) → Option PairingInfo
  | [] => none
  | (_, info) :: _ => info

/-- From `old` on, the callback has been called with what it should know last. -/
structure Told (callback : ℕ) (old : List (ℕ × Option PairingInfo)) (c : PairingImpl) : Prop where
  installed : c.pairingInfoCallback = some callback
  given : ∃ new, c.given = new ++ old ∧ (∀ x ∈ new, x.1 = callback) ∧ lastArgument new = c.pairingInfo.view

theorem setPairingInfoListener_told (c : PairingImpl) (callback : ℕ) :
    Told callback c.given (c.setPairingInfoListener (some callback)) := by
  unfold setPairingInfoListener PairingImpl.runCallback
  dsimp only
  split
  · rename_i h
    exact ⟨rfl, [], rfl, by simp, by simp [lastArgument, PairingInfo.view, h]⟩
  · rename_i h
    exact ⟨rfl, [(callback, some c.pairingInfo)], rfl, by simp, by simp [lastArgument, PairingInfo.view, h]⟩

theorem notifyCallback_eq {callback : ℕ} (h : c.pairingInfoCallback = some callback) (changed : Bool) :
    c.notifyCallback changed = if changed then c.runCallback callback c.pairingInfo.view else c := by
  unfold notifyCallback
  rw [h]
  rfl

/-- A notification calls the callback if it has read anything. -/
theorem Told.notified {callback : ℕ} {old : List (ℕ × Option PairingInfo)} (h : Told callback old c)
    (ids : List (ℤ × Option S.String16)) : Told callback old (c.handleNotification S ids) := by
  obtain ⟨info, changed, hloop⟩ := readReplies_info ids c false
  obtain ⟨heq, hkeep⟩ := hloop c rfl
  obtain ⟨new, hgiven, hnew, hlast⟩ := h.given
  unfold handleNotification
  rw [heq]
  dsimp only
  rw [notifyCallback_eq (c := { c with pairingInfo := info }) h.installed]
  cases changed with
  | false =>
    -- nothing has been read
    obtain ⟨-, hinfo⟩ := hkeep rfl
    rw [hinfo, if_neg Bool.false_ne_true]
    exact h
  | true =>
    -- the callback is told what there is, complete or not
    rw [if_pos rfl]
    refine ⟨h.installed, (callback, info.view) :: new, ?_, ?_, rfl⟩
    · rw [List.cons_append, ← hgiven]
      rfl
    · exact List.forall_mem_cons.2 ⟨rfl, hnew⟩

/-- The call is a notification. -/
def Call.isNotification : Call S → Bool
  | .onNotification _ => true
  | .setPairingInfoListener _ => false

theorem Told.calls {callback : ℕ} {old : List (ℕ × Option PairingInfo)} (h : Told callback old c)
    {cs : List (Call S)} (hcs : ∀ x ∈ cs, x.isNotification) : Told callback old (c.calls cs) := by
  induction cs generalizing c with
  | nil => exact h
  | cons x cs ih =>
    obtain ⟨hx, hrest⟩ := List.forall_mem_cons.1 hcs
    cases x with
    | setPairingInfoListener callback => cases hx
    | onNotification ids => exact ih (h.notified ids) hrest

/-- **A callback knows the pairing information from its installation on**, whatever has been
before. -/
theorem last_argument (before : List (Call S)) (callback : ℕ) {after : List (Call S)}
    (hafter : ∀ x ∈ after, x.isNotification) :
    Told callback (calls {} before).given
      (calls {} (before ++ .setPairingInfoListener (some callback) :: after)) := by
  have hcalls : calls ({} : PairingImpl) (before ++ .setPairingInfoListener (some callback) :: after) =
      ((calls {} before).setPairingInfoListener (some callback)).calls after := by
    simp only [calls, List.foldl_append, List.foldl_cons]
    rfl
  rw [hcalls]
  exact (setPairingInfoListener_told _ callback).calls hafter

/-- The answer of a getter that succeeds. -/
def answer (text : String) : Option ByteStrings.plain.String16 := some (StdString.utf8 text)

theorem last_argument_test :
    Told 0 (calls (S := ByteStrings.plain) {} []).given (calls (S := ByteStrings.plain) {}
      ([] ++ .setPairingInfoListener (some 0) :: [.onNotification [(9, answer "s"), (10, none), (9, answer "t")]])) :=
  last_argument [] 0 (List.forall_mem_cons.2 ⟨rfl, by simp⟩)

/-- The argument that a callback has been given last, since the beginning. -/
def lastGiven (c : PairingImpl) (callback : ℕ) : Option PairingInfo :=
  lastArgument (c.given.filter fun x => x.1 = callback)

/-- A callback that is taken away during a session and installed again after it. -/
def reinstalled : List (Call ByteStrings.plain) :=
  [.setPairingInfoListener (some 0), .onNotification [(9, answer "s"), (10, answer "m"), (11, answer "c")],
    .setPairingInfoListener none, .onNotification [(9, answer "")], .setPairingInfoListener (some 0)]

/-- **A callback that is installed again** is not told that the session has ended. -/
theorem reinstalled_callback_stale :
    let c := calls {} reinstalled
    c.pairingInfoCallback = some 0 ∧ c.pairingInfo.view = none ∧ c.lastGiven 0 = some ⟨"s", "m", "c"⟩ := by
  decide

end PairingImpl

end SystemWeaved
