import SystemWeaved.Proof.Pairing

/-!
# Pairing sessions in a client

* `pairing_whole`: the callback is given what one `OnPairingStart` has set, if the sessions
  that start while the client reads, the notifications it begins with and the getters that fail
  fit what it has (`Fitting`). After any other step it can be given something else
  (`unfitting_torn`), as in `torn`: the code of one session with the identifier of another.
* `not_learned`: a client that registers its listener while a session is under way does not
  learn of it, since nothing is sent and nothing is read until the next change.
-/

namespace SystemWeaved

open NotificationListener

variable {S : ByteStrings} {E : WeaveEnums} {listener : NotificationListener}

/-! ## What the handlers do to the pairing properties -/

/-- `OnPairingStart` sets the three fields. -/
theorem run_onPairingStart (manager : StateProperties) (sessionId : StdString) (pairingType : E.PairingType)
    (code : List UInt8) (f : PairingField) :
    ((Handler.onPairingStart sessionId pairingType code).run manager).1 f.property =
      PairingInfo.get ⟨sessionId, E.ofPairingType pairingType, StateProperties.codeString code⟩ f := by
  have hw := pairingUpdates_wired sessionId (E.ofPairingType pairingType) (StateProperties.codeString code)
  cases f with
  | sessionId =>
    exact updateValues_of_mem (u := ⟨.pairingSessionId, sessionId, PAIRING_SESSION_ID⟩) hw
      (by simp [StateProperties.pairingUpdates]) manager []
  | mode =>
    exact updateValues_of_mem (u := ⟨.pairingMode, E.ofPairingType pairingType, PAIRING_MODE⟩) hw
      (by simp [StateProperties.pairingUpdates]) manager []
  | code =>
    exact updateValues_of_mem (u := ⟨.pairingCode, StateProperties.codeString code, PAIRING_CODE⟩) hw
      (by simp [StateProperties.pairingUpdates]) manager []

/-- `OnPairingEnd` empties the three fields, or does nothing. -/
theorem run_onPairingEnd (manager : StateProperties) (sessionId : StdString) :
    ((Handler.onPairingEnd (E := E) sessionId).run manager).1 = manager ∨
      ∀ f : PairingField, ((Handler.onPairingEnd (E := E) sessionId).run manager).1 f.property = "" := by
  show (manager.onPairingEnd sessionId).1 = manager ∨ ∀ f : PairingField, (manager.onPairingEnd sessionId).1 f.property = ""
  unfold StateProperties.onPairingEnd
  by_cases h : manager .pairingSessionId = sessionId
  · rw [if_neg (not_not.2 h)]
    refine .inr fun f => ?_
    have hw := pairingUpdates_wired "" "" ""
    cases f with
    | sessionId =>
      exact updateValues_of_mem (u := ⟨.pairingSessionId, "", PAIRING_SESSION_ID⟩) hw
        (by simp [StateProperties.pairingUpdates]) manager []
    | mode =>
      exact updateValues_of_mem (u := ⟨.pairingMode, "", PAIRING_MODE⟩) hw
        (by simp [StateProperties.pairingUpdates]) manager []
    | code =>
      exact updateValues_of_mem (u := ⟨.pairingCode, "", PAIRING_CODE⟩) hw
        (by simp [StateProperties.pairingUpdates]) manager []
  · rw [if_pos h]
    exact .inl rfl

/-- `OnPairingStart` and `OnPairingEnd`. -/
def Handler.pairing : Handler E → Prop
  | .onPairingStart _ _ _ | .onPairingEnd _ => True
  | .onTraitDefsChanged | .onComponentTreeChanged | .onGcdStateChanged _ | .onConfigChanged _ => False

/-- Other handlers name no pairing field. -/
theorem run_other_ids {handler : Handler E} (h : ¬handler.pairing) (manager : StateProperties) (f : PairingField) :
    f.id ∉ (handler.run manager).2 := by
  intro hmem
  cases handler with
  | onTraitDefsChanged =>
    have heq : f.id = TRAITS := List.mem_singleton.1 hmem
    cases f <;> exact absurd heq (by decide)
  | onComponentTreeChanged =>
    have heq : f.id = COMPONENTS := List.mem_singleton.1 hmem
    cases f <;> exact absurd heq (by decide)
  | onGcdStateChanged state =>
    have heq : f.id = STATE := List.mem_singleton.1 hmem
    cases f <;> exact absurd heq (by decide)
  | onConfigChanged settings =>
    rcases updateValues_mem (configUpdates_wired settings) manager [] f.id hmem with hnil | ⟨p, hp, heq⟩
    · cases hnil
    · -- the members of the configuration are none of the pairing fields
      have hprop : f.property = p := Property.notificationId_injective heq
      have hprops : (StateProperties.configUpdates settings).map Update.prop =
        [.cloudId, .deviceId, .deviceName, .deviceDescription, .deviceLocation, .oemName, .modelId, .modelName] := rfl
      rw [hprops, ← hprop] at hp
      cases f <;> exact absurd hp (by decide)
  | onPairingStart sessionId pairingType code => exact h trivial
  | onPairingEnd sessionId => exact h trivial

theorem run_other {handler : Handler E} (h : ¬handler.pairing) (manager : StateProperties) (f : PairingField) :
    (handler.run manager).1 f.property = manager f.property := by
  by_contra hne
  exact run_other_ids h manager f (handler.changed_mem hne)

@[simp] theorem received_empty : received S "" = "" :=
  received_eq ⟨"", rfl⟩ (by decide)

namespace PairingSystem

variable {s t : PairingSystem}

theorem triple_get (f : PairingField) : s.triple.get f = s.properties f.property := by
  cases f <;> rfl

/-! ## When the information is whole -/

/-- One of the sessions has both the values of the fields that the client will not read for
these identifiers and those that it will get for the others; or one of them is empty. -/
def Fits (S : ByteStrings) (s : PairingSystem) (sessions : List PairingInfo) (values : PairingInfo) (ids : List ℤ) :
    Prop :=
  (∃ started ∈ sessions,
      (∀ f : PairingField, f.id ∉ ids → s.client.pairingInfo.get f = started.get f) ∧
        ∀ f : PairingField, f.id ∈ ids → received S (values.get f) = started.get f) ∨
    (∃ f : PairingField, f.id ∉ ids ∧ s.client.pairingInfo.get f = "") ∨
    ∃ f : PairingField, f.id ∈ ids ∧ received S (values.get f) = ""

/-- A session that starts while the client still has to read a pairing field fits what the
client has read. A notification of pairing fields that the client begins with fits what
weaved has then; and so does what the client keeps if it cannot read a pairing field. -/
def Fitting (S : ByteStrings) (s : PairingSystem) : Event E → Prop
  | .handler (.onPairingStart sessionId pairingType code) =>
    let started : PairingInfo := ⟨sessionId, E.ofPairingType pairingType, StateProperties.codeString code⟩
    (∃ f : PairingField, f.id ∈ s.toRead) → Fits S s (s.starts ++ [started]) started s.toRead
  | .deliver => ∀ ids ∈ s.inFlight.head?, (∃ f : PairingField, f.id ∈ ids) → Fits S s s.starts s.triple ids
  | .resume false => (∃ f : PairingField, s.toRead.head? = some f.id) → Fits S s s.starts s.triple s.toRead.tail
  | _ => True

instance (sessions : List PairingInfo) (values : PairingInfo) (ids : List ℤ) : Decidable (Fits S s sessions values ids) :=
  inferInstanceAs (Decidable (_ ∨ _ ∨ _))

instance (e : Event E) : Decidable (Fitting S s e) :=
  match e with
  | .handler (.onPairingStart _ _ _) => inferInstanceAs (Decidable (_ → _))
  | .deliver => inferInstanceAs (Decidable (∀ ids ∈ s.inFlight.head?, _))
  | .resume false => inferInstanceAs (Decidable (_ → _))
  | .handler .onTraitDefsChanged | .handler .onComponentTreeChanged | .handler (.onGcdStateChanged _)
  | .handler (.onConfigChanged _) | .handler (.onPairingEnd _) | .registerNotificationListener _
  | .onNotificationListenerDestroyed _ | .onServiceConnected | .setPairingInfoListener _ | .resume true =>
    inferInstanceAs (Decidable True)

/-- What the sessions have set. -/
def heldBy (sessions : List PairingInfo) : Set (PairingField → StdString) :=
  PairingInfo.get '' {started | started ∈ sessions}

/-- What the client has, or will have when it has read what it has to, is that of one session,
or is incomplete. -/
def Whole (S : ByteStrings) (s : PairingSystem) : Prop := s.replica.Whole (received S) "" (heldBy s.starts)

/-- Whatever the client has been given is that of one session, too. -/
structure Sessions (S : ByteStrings) (s : PairingSystem) : Prop where
  whole : Whole S s
  given : ∀ callback info, (callback, some info) ∈ s.client.given → info ∈ s.starts

theorem replica_fits {sessions : List PairingInfo} {values : PairingInfo} {ids : List ℤ} :
    Replica.Fits (received S) "" (heldBy sessions) s.client.pairingInfo.get values.get (PairingField.ofIds ids) ↔
      Fits S s sessions values ids := by
  have hread : ∀ f : PairingField, f.id ∈ ids → Replica.outcome (received S) s.client.pairingInfo.get values.get
      (PairingField.ofIds ids) f = received S (values.get f) :=
    fun f hf => if_pos (PairingField.mem_ofIds.2 hf)
  have hkept : ∀ f : PairingField, f.id ∉ ids → Replica.outcome (received S) s.client.pairingInfo.get values.get
      (PairingField.ofIds ids) f = s.client.pairingInfo.get f :=
    fun f hf => if_neg fun hmem => hf (PairingField.mem_ofIds.1 hmem)
  have hblank : (∃ f, Replica.outcome (received S) s.client.pairingInfo.get values.get (PairingField.ofIds ids) f = "") ↔
      (∃ f : PairingField, f.id ∉ ids ∧ s.client.pairingInfo.get f = "") ∨
        ∃ f : PairingField, f.id ∈ ids ∧ received S (values.get f) = "" := by
    constructor
    · rintro ⟨f, hf⟩
      by_cases hmem : f.id ∈ ids
      · exact .inr ⟨f, hmem, (hread f hmem).symm.trans hf⟩
      · exact .inl ⟨f, hmem, (hkept f hmem).symm.trans hf⟩
    · rintro (⟨f, hmem, hf⟩ | ⟨f, hmem, hf⟩)
      · exact ⟨f, (hkept f hmem).trans hf⟩
      · exact ⟨f, (hread f hmem).trans hf⟩
  constructor
  · rintro (⟨started, hstarted, hget⟩ | hempty)
    · exact .inl ⟨started, hstarted, fun f hf => (hkept f hf).symm.trans (congrFun hget f).symm,
        fun f hf => (hread f hf).symm.trans (congrFun hget f).symm⟩
    · exact .inr (hblank.1 hempty)
  · rintro (⟨started, hstarted, hold, hnew⟩ | hempty)
    · refine .inl ⟨started, hstarted, funext fun f => ?_⟩
      by_cases hmem : f.id ∈ ids
      · exact ((hread f hmem).trans (hnew f hmem)).symm
      · exact ((hkept f hmem).trans (hold f hmem)).symm
    · exact .inr (hblank.2 hempty)

theorem whole_idle (hidle : s.client.onNotification = none) :
    Whole S s ↔ s.client.pairingInfo ∈ s.starts ∨ ∃ f, s.client.pairingInfo.get f = "" := by
  have hheld : s.replica.replica ∈ heldBy s.starts ↔ s.client.pairingInfo ∈ s.starts :=
    PairingInfo.get_injective.mem_set_image
  rw [← hheld]
  exact Replica.whole_idle (replica_reading_idle hidle)

/-- Complete information that the client has between two notifications is that of a session. -/
theorem Sessions.complete (h : Sessions S s) (hidle : s.replica.reading = [])
    (hcomplete : s.client.pairingInfo.incomplete = false) : s.client.pairingInfo ∈ s.starts := by
  rcases (Replica.whole_idle hidle).1 h.whole with hheld | hblank
  · exact PairingInfo.get_injective.mem_set_image.1 hheld
  · rw [PairingInfo.incomplete_iff.2 hblank] at hcomplete
    cases hcomplete

theorem held_subset (s : PairingSystem) (handler : Handler E) :
    heldBy s.starts ⊆ heldBy (s.runHandler listener handler).starts :=
  Set.image_mono fun _ hmem => List.mem_append_left _ hmem

/-- **A handler keeps what the client will have whole exactly if it fits.** -/
theorem handler_whole_iff (h : Whole S s) {handler : Handler E} :
    Whole S (s.runHandler listener handler) ↔ Fitting S s (.handler handler) := by
  have hleft : (∀ f ∈ s.replica.reading, (handler.run s.properties).1 f.property = s.replica.store f) →
      Whole S (s.runHandler listener handler) :=
    fun hsame => (h.mono (held_subset s handler)).store_congr hsame
  by_cases hp : handler.pairing
  · cases handler with
    | onPairingStart sessionId pairingType code =>
      have hstarted := funext (run_onPairingStart s.properties sessionId pairingType code)
      by_cases hreads : ∃ f : PairingField, f.id ∈ s.toRead
      · -- what it reads now is the new session's
        refine Iff.trans ?_ (forall_prop_of_true hreads).symm
        rw [← replica_fits, ← hstarted]
        exact Iff.rfl
      · refine iff_of_true (hleft fun f hf => ?_) fun hf => absurd hf hreads
        exact absurd ⟨f, PairingField.mem_ofIds.1 hf⟩ hreads
    | onPairingEnd sessionId =>
      refine iff_of_true ?_ trivial
      rcases run_onPairingEnd (E := E) s.properties sessionId with heq | hempty
      · exact hleft fun f _ => congrFun heq f.property
      · -- what is read now is empty
        by_cases hnone : s.replica.reading = []
        · refine hleft fun f hf => ?_
          rw [hnone] at hf
          cases hf
        · obtain ⟨f, hf⟩ := List.exists_mem_of_ne_nil _ hnone
          have hblank := (congrArg (received S) (hempty f)).trans received_empty
          exact .inr ⟨f, (if_pos hf).trans hblank⟩
    | _ => cases hp
  · refine iff_of_true (hleft fun f _ => run_other hp s.properties f) ?_
    cases handler with
    | onPairingStart sessionId pairingType code => exact absurd trivial hp
    | _ => trivial

/-- **A notification keeps what the client will have whole exactly if it fits.** -/
theorem deliver_whole_iff (h : Whole S s) {ids : List ℤ} {rest : List (List ℤ)}
    (hnext : s.inFlight = ids :: rest) (hidle : s.client.onNotification = none) :
    Whole S { s with inFlight := rest, client := { s.client with onNotification := some (ids, false) } } ↔
      Fitting S s (.deliver (E := E)) := by
  have hfitting : Fitting S s (.deliver (E := E)) ↔
      ((∃ f : PairingField, f.id ∈ ids) → Fits S s s.starts s.triple ids) := by
    unfold Fitting
    rw [hnext]
    simp only [List.head?_cons, Option.mem_def, Option.some.injEq, forall_eq']
  have hstore : s.triple.get = s.replica.store := funext triple_get
  rw [hfitting]
  by_cases hreads : ∃ f : PairingField, f.id ∈ ids
  · refine Iff.trans ?_ (forall_prop_of_true hreads).symm
    rw [← replica_fits, hstore]
    exact Iff.rfl
  · refine iff_of_true ?_ fun hf => absurd hf hreads
    have hkeys : PairingField.ofIds ids = [] :=
      List.eq_nil_iff_forall_not_mem.2 fun f hf => hreads ⟨f, PairingField.mem_ofIds.1 hf⟩
    unfold Whole
    rw [replica_deliver, hkeys]
    exact (Replica.whole_idle rfl).2 ((Replica.whole_idle (replica_reading_idle hidle)).1 h)

/-- Reading changes nothing about what the client will have. -/
theorem resume_whole_iff {ids : List ℤ} {changed : Bool} (hframe : s.client.onNotification = some (ids, changed)) :
    Whole S (s.resume S true ids changed) ↔ Whole S s := by
  unfold Whole
  cases ids with
  | nil =>
    rw [replica_resume_nil hframe]
    exact Iff.rfl
  | cons i ids =>
    rcases replica_resume (S := S) hframe with ⟨f, hreading, hread⟩ | hskip
    · rw [hread]
      exact Replica.whole_read hreading
    · rw [hskip]
      exact Iff.rfl

/-- **A getter that fails keeps what the client will have whole exactly if it fits.** -/
theorem failed_whole_iff (h : Whole S s) {ids : List ℤ} {changed : Bool}
    (hframe : s.client.onNotification = some (ids, changed)) :
    Whole S (s.resume S false ids changed) ↔ Fitting S s (.resume false : Event E) := by
  have htoRead : s.toRead = ids := by
    unfold toRead
    rw [hframe]
  have hfitting : Fitting S s (.resume false : Event E) ↔
      ((∃ f : PairingField, ids.head? = some f.id) → Fits S s s.starts s.triple ids.tail) := by
    rw [← htoRead]
    exact Iff.rfl
  rw [hfitting]
  cases ids with
  | nil =>
    refine iff_of_true ?_ (by simp)
    unfold Whole
    rw [replica_resume_nil hframe]
    exact h
  | cons i ids =>
    by_cases hfield : ∃ f : PairingField, (i :: ids).head? = some f.id
    · -- the field keeps its value
      refine Iff.trans ?_ (forall_prop_of_true hfield).symm
      have hstore : s.triple.get = s.replica.store := funext triple_get
      unfold Whole
      rw [replica_resume_failed, List.tail_cons, ← replica_fits, hstore]
      exact Iff.rfl
    · -- no getter is called
      refine iff_of_true ?_ fun hf => absurd hf hfield
      have hnone : PairingField.ofId i = none := by
        cases hf : PairingField.ofId i with
        | none => rfl
        | some f => exact absurd ⟨f, congrArg some (PairingField.ofId_eq_some.1 hf)⟩ hfield
      have hreading : s.replica.reading = PairingField.ofIds ids := by
        show PairingField.ofIds s.toRead = _
        rw [htoRead]
        exact List.filterMap_cons_none hnone
      unfold Whole
      rw [replica_resume_failed, ← hreading]
      exact h

/-- **A step keeps what the client will have whole exactly if it fits.** -/
theorem next_whole_iff {e : Event E} (h : Whole S s) (hn : s.next S E listener e = some t) :
    Whole S t ↔ Fitting S s e := by
  cases e with
  | handler handler =>
    cases hn
    exact handler_whole_iff h
  | registerNotificationListener other =>
    cases hn
    exact iff_of_true h trivial
  | onNotificationListenerDestroyed other =>
    obtain ⟨-, rfl⟩ := next_onNotificationListenerDestroyed hn
    exact iff_of_true h trivial
  | onServiceConnected =>
    obtain ⟨-, rfl⟩ := next_onServiceConnected hn
    exact iff_of_true h trivial
  | setPairingInfoListener callback =>
    obtain ⟨-, rfl⟩ := next_setPairingInfoListener hn
    rcases s.client.setPairingInfoListener_cases callback with heq | ⟨n, -, -, heq⟩
    · rw [heq]
      exact iff_of_true h trivial
    · rw [heq]
      exact iff_of_true h trivial
  | deliver =>
    obtain ⟨ids, rest, hnext, hidle, rfl⟩ := next_deliver hn
    exact deliver_whole_iff h hnext hidle
  | resume isOk =>
    obtain ⟨ids, changed, hframe, rfl⟩ := next_resume hn
    cases isOk with
    | true => exact iff_of_true ((resume_whole_iff hframe).2 h) trivial
    | false => exact failed_whole_iff h hframe

/-! ## What the client has been given -/

/-- After its loop, `OnNotification` gives complete information to the callback. -/
theorem resume_given {ids : List ℤ} {isOk changed : Bool} (hframe : s.client.onNotification = some (ids, changed))
    {callback : ℕ} {info : PairingInfo}
    (hgiven : (callback, some info) ∈ (s.resume S isOk ids changed).client.given) :
    (callback, some info) ∈ s.client.given ∨
      (s.replica.reading = [] ∧ info = s.client.pairingInfo ∧ info.incomplete = false) := by
  cases ids with
  | nil =>
    have hidle : s.replica.reading = [] := by
      unfold replica toRead
      rw [hframe]
      rfl
    have hgiven : (callback, some info) ∈ (s.client.notifyCallback changed).given := hgiven
    rcases s.client.notifyCallback_cases changed with heq | ⟨n, heq⟩
    · rw [heq] at hgiven
      exact .inl hgiven
    · -- incomplete information is given as null
      rw [heq] at hgiven
      rcases List.mem_cons.1 hgiven with hnew | hold
      · cases hinfo : s.client.pairingInfo.incomplete with
        | true =>
          rw [hinfo] at hnew
          cases hnew
        | false =>
          rw [hinfo] at hnew
          cases hnew
          exact .inr ⟨hidle, rfl, hinfo⟩
      · exact .inl hold
  | cons i ids =>
    have hsame : (s.resume S isOk (i :: ids) changed).client.given = s.client.given := by
      show (s.client.resumeNotification S s.properties isOk (i :: ids) changed).given = _
      rw [PairingImpl.resumeNotification_cons]
      cases hf : PairingField.ofId i with
      | none => rw [PairingImpl.readProperty_other hf]
      | some f =>
        obtain rfl := PairingField.ofId_eq_some.1 hf
        cases isOk with
        | false => rw [PairingImpl.readProperty_failed]
        | true =>
          obtain ⟨info, hinfo, -⟩ := PairingImpl.readProperty_field (S := S) s.client s.properties changed f
          rw [hinfo]
    rw [hsame] at hgiven
    exact .inl hgiven

/-- Only complete information is given, and only when there is nothing to read. -/
theorem next_given {e : Event E} (hn : s.next S E listener e = some t) {callback : ℕ} {info : PairingInfo}
    (hgiven : (callback, some info) ∈ t.client.given) :
    (callback, some info) ∈ s.client.given ∨
      (s.replica.reading = [] ∧ info = s.client.pairingInfo ∧ info.incomplete = false) := by
  cases e with
  | handler handler =>
    cases hn
    exact .inl hgiven
  | registerNotificationListener other =>
    cases hn
    exact .inl hgiven
  | onNotificationListenerDestroyed other =>
    obtain ⟨-, rfl⟩ := next_onNotificationListenerDestroyed hn
    exact .inl hgiven
  | onServiceConnected =>
    obtain ⟨-, rfl⟩ := next_onServiceConnected hn
    exact .inl hgiven
  | setPairingInfoListener callback' =>
    obtain ⟨hidle, rfl⟩ := next_setPairingInfoListener hn
    rcases s.client.setPairingInfoListener_cases callback' with heq | ⟨n, -, hcomplete, heq⟩
    · rw [heq] at hgiven
      exact .inl hgiven
    · -- the new callback is given what the client has
      rw [heq] at hgiven
      rcases List.mem_cons.1 hgiven with hnew | hold
      · cases hnew
        exact .inr ⟨replica_reading_idle hidle, rfl, hcomplete⟩
      · exact .inl hold
  | deliver =>
    obtain ⟨ids, rest, -, -, rfl⟩ := next_deliver hn
    exact .inl hgiven
  | resume isOk =>
    obtain ⟨ids, changed, hframe, rfl⟩ := next_resume hn
    exact resume_given hframe hgiven

theorem next_starts {e : Event E} (hn : s.next S E listener e = some t) : s.starts ⊆ t.starts := by
  cases e with
  | handler handler =>
    cases hn
    exact List.subset_append_left _ _
  | registerNotificationListener other =>
    cases hn
    exact List.Subset.refl _
  | onNotificationListenerDestroyed other =>
    obtain ⟨-, rfl⟩ := next_onNotificationListenerDestroyed hn
    exact List.Subset.refl _
  | onServiceConnected =>
    obtain ⟨-, rfl⟩ := next_onServiceConnected hn
    exact List.Subset.refl _
  | setPairingInfoListener callback =>
    obtain ⟨-, rfl⟩ := next_setPairingInfoListener hn
    exact List.Subset.refl _
  | deliver =>
    obtain ⟨ids, rest, -, -, rfl⟩ := next_deliver hn
    exact List.Subset.refl _
  | resume isOk =>
    obtain ⟨ids, changed, -, rfl⟩ := next_resume hn
    exact List.Subset.refl _

theorem next_sessions {e : Event E} (h : Sessions S s) (hfit : Fitting S s e)
    (hn : s.next S E listener e = some t) : Sessions S t := by
  refine ⟨(next_whole_iff h.whole hn).2 hfit, fun callback info hgiven => next_starts hn ?_⟩
  rcases next_given hn hgiven with hold | ⟨hidle, rfl, hcomplete⟩
  · exact h.given callback info hold
  · exact h.complete hidle hcomplete

theorem reach_sessions (h : (machine S E listener).ReachIf (Fitting S) s) : Sessions S s := by
  refine Machine.ReachIf.invariant (P := Sessions S) ?_ ?_ h
  · rintro s rfl
    exact ⟨(whole_idle rfl).2 (.inr ⟨.sessionId, rfl⟩), fun _ _ hmem => by cases hmem⟩
  · intro s e t _ hsessions hfit hn
    exact next_sessions hsessions hfit hn

/-- **The information a callback is given is that of one session**, in every run in which
sessions, notifications and failed getters fit. -/
theorem pairing_whole (h : (machine S E listener).ReachIf (Fitting S) s) (callback : ℕ) (info : PairingInfo)
    (hgiven : (callback, some info) ∈ s.client.given) : info ∈ s.starts :=
  (reach_sessions h).given callback info hgiven

/-! ## The condition is exact -/

/-- The client has been given information that is not that of one session. -/
def Torn (s : PairingSystem) : Prop := ∃ callback info, (callback, some info) ∈ s.client.given ∧ info ∉ s.starts

/-- A client in its message loop gives what it has to a new callback. -/
theorem idle_torn (hidle : s.client.onNotification = none) (hnot : ¬Whole S s) :
    ∃ es u, (machine S E listener).run s es = some u ∧ Torn u := by
  obtain ⟨hheld, hblank⟩ := not_or.1 (mt (whole_idle hidle).2 hnot)
  have hcomplete : s.client.pairingInfo.incomplete = false := by
    rw [Bool.eq_false_iff]
    exact fun hincomplete => hblank (PairingInfo.incomplete_iff.1 hincomplete)
  refine ⟨[.onServiceConnected, .setPairingInfoListener (some 0)], { s with client := { s.client with
    connected := true
    pairingInfoCallback := some 0
    given := (0, some s.client.pairingInfo) :: s.client.given } }, ?_, ?_⟩
  · have hconnected : s.next S E listener .onServiceConnected =
        some { s with client := { s.client with connected := true } } := by
      simp only [next, inMessageLoop, hidle]
    have hset : ({ s with client := { s.client with connected := true } }).next S E listener
        (.setPairingInfoListener (some 0)) = some { s with client := { s.client with
          connected := true
          pairingInfoCallback := some 0
          given := (0, some s.client.pairingInfo) :: s.client.given } } := by
      simp [next, inMessageLoop, hidle, PairingImpl.setPairingInfoListener, PairingImpl.runCallback, hcomplete]
    exact (Machine.run_cons hconnected _).trans (Machine.run_cons hset [])
  · exact ⟨0, s.client.pairingInfo, List.mem_cons_self, hheld⟩

/-- A client that works on a notification goes on, and is then in its message loop. -/
theorem reading_torn (ids : List ℤ) :
    ∀ (s : PairingSystem) (changed : Bool), s.client.onNotification = some (ids, changed) → ¬Whole S s →
      ∃ es u, (machine S E listener).run s es = some u ∧ Torn u := by
  have hresume : ∀ {s : PairingSystem} {ids : List ℤ} {changed : Bool},
      s.client.onNotification = some (ids, changed) →
      s.next S E listener (.resume true) = some (s.resume S true ids changed) := by
    intro s ids changed hframe
    simp only [next, hframe]
    rfl
  induction ids with
  | nil =>
    intro s changed hframe hnot
    have hidle : ∃ es u, (machine S E listener).run (s.resume S true [] changed) es = some u ∧ Torn u :=
      idle_torn rfl (mt (resume_whole_iff hframe).1 hnot)
    obtain ⟨es, u, hrun, htorn⟩ := hidle
    exact ⟨.resume true :: es, u, (Machine.run_cons (hresume hframe) es).trans hrun, htorn⟩
  | cons i ids ih =>
    intro s changed hframe hnot
    obtain ⟨es, u, hrun, htorn⟩ := ih (s.resume S true (i :: ids) changed) _ rfl (mt (resume_whole_iff hframe).1 hnot)
    exact ⟨.resume true :: es, u, (Machine.run_cons (hresume hframe) es).trans hrun, htorn⟩

/-- **A step that does not fit can be followed by torn information.** -/
theorem unfitting_torn {e : Event E} (h : (machine S E listener).ReachIf (Fitting S) s)
    (hn : s.next S E listener e = some t) (hunfit : ¬Fitting S s e) :
    ∃ es u, (machine S E listener).run t es = some u ∧ Torn u := by
  have hnot : ¬Whole S t := mt (next_whole_iff (reach_sessions h).whole hn).1 hunfit
  cases hframe : t.client.onNotification with
  | none => exact idle_torn hframe hnot
  | some frame => exact reading_torn frame.1 t frame.2 hframe hnot

/-- A session whose code has a NUL in it does not fit: the code arrives cut. -/
example :
    let s := runHandler Mirrored.firstListener
      { manager := ({} : Manager).registerNotificationListener Mirrored.firstListener }
      (Handler.onPairingStart (E := WeaveEnums.named) "session" "pinCode" [49, 0, 50])
    ¬Fitting ByteStrings.plain s (.deliver : Event WeaveEnums.named) := by
  decide +kernel

/-! ## Runs -/

/-- A client gets ready, and is handed the information of a session. -/
def handedRun : List (Event WeaveEnums.named) :=
  [.registerNotificationListener Mirrored.firstListener, .onServiceConnected, .setPairingInfoListener (some 0),
    .handler (.onPairingStart "first" "pinCode" [49]), .deliver, .resume true, .resume true, .resume true,
    .resume true]

def handedOut : PairingSystem :=
  ((machine ByteStrings.plain WeaveEnums.named Mirrored.firstListener).runIf (Fitting ByteStrings.plain) {} handedRun).get
    (by decide +kernel)

theorem handedOut_reach :
    (machine ByteStrings.plain WeaveEnums.named Mirrored.firstListener).ReachIf (Fitting ByteStrings.plain) handedOut :=
  Machine.runIf_reachIf (.start rfl) (Option.some_get _).symm

theorem pairing_whole_test : ⟨"first", "pinCode", "1"⟩ ∈ handedOut.starts :=
  pairing_whole handedOut_reach 0 ⟨"first", "pinCode", "1"⟩ (by decide +kernel)

/-- A second session starts after the client has read the identifier of the first. -/
def tornRun : List (Event WeaveEnums.named) :=
  [.registerNotificationListener Mirrored.firstListener, .onServiceConnected, .setPairingInfoListener (some 0),
    .handler (.onPairingStart "first" "pinCode" [49]), .deliver, .resume true,
    .handler (.onPairingStart "second" "pinCode" [50]), .resume true, .resume true, .resume true]

def tornState : PairingSystem :=
  ((machine ByteStrings.plain WeaveEnums.named Mirrored.firstListener).run {} tornRun).get (by decide +kernel)

theorem tornState_reach : (machine ByteStrings.plain WeaveEnums.named Mirrored.firstListener).Reach tornState :=
  Machine.run_reach (.start rfl) (Option.some_get _).symm

/-- The client is given the first identifier with the second code. -/
theorem torn :
    ¬∀ (S : ByteStrings) (E : WeaveEnums) (listener : NotificationListener) (s : PairingSystem),
      (machine S E listener).Reach s → ∀ callback info, (callback, some info) ∈ s.client.given → info ∈ s.starts := by
  intro hall
  have hmem := hall _ _ _ _ tornState_reach 0 ⟨"first", "pinCode", "2"⟩ (by decide +kernel)
  have hstarts : tornState.starts = [⟨"first", "pinCode", "1"⟩, ⟨"second", "pinCode", "2"⟩] := by
    decide +kernel
  rw [hstarts] at hmem
  exact absurd hmem (by decide +kernel)

/-! ## A session that is under way -/

/-- Nothing about pairing is on its way to the client, and it has nothing. -/
structure Uninformed (s : PairingSystem) : Prop where
  inFlight : ∀ ids ∈ s.inFlight, PairingField.ofIds ids = []
  toRead : PairingField.ofIds s.toRead = []
  changed : ∀ ids changed, s.client.onNotification = some (ids, changed) → changed = false
  pairingInfo : s.client.pairingInfo = {}
  given : s.client.given = []

theorem Untold.uninformed (h : Untold s) : Uninformed s where
  inFlight := by
    rw [h.inFlight]
    intro ids hids
    cases hids
  toRead := replica_reading_idle h.onNotification
  changed := by
    rw [h.onNotification]
    intro ids changed hframe
    cases hframe
  pairingInfo := h.pairingInfo
  given := h.given

/-- The event is not about pairing. -/
def NoPairing (_ : PairingSystem) : Event E → Prop
  | .handler handler => ¬handler.pairing
  | _ => True

/-- `OnNotification` goes on without having read anything of pairing. -/
theorem Uninformed.of_frame (h : Uninformed s) {frame : Option (List ℤ × Bool)} (hflight : t.inFlight = s.inFlight)
    (hclient : t.client = { s.client with onNotification := frame })
    (hframe : ∀ ids changed, frame = some (ids, changed) → PairingField.ofIds ids = [] ∧ changed = false) :
    Uninformed t := by
  have honNotification : t.client.onNotification = frame := by rw [hclient]
  refine ⟨hflight ▸ h.inFlight, ?_, ?_, ?_, ?_⟩
  · unfold PairingSystem.toRead
    rw [honNotification]
    cases frame with
    | none => rfl
    | some frame => exact (hframe frame.1 frame.2 rfl).1
  · intro ids changed hids
    rw [honNotification] at hids
    exact (hframe ids changed hids).2
  · rw [hclient]
    exact h.pairingInfo
  · rw [hclient]
    exact h.given

/-- The getters that are called read nothing of pairing. -/
theorem resume_uninformed {isOk : Bool} (h : Uninformed s) (hn : s.next S E listener (.resume isOk) = some t) :
    Uninformed t := by
  obtain ⟨ids, changed, hframe, rfl⟩ := next_resume hn
  obtain rfl := h.changed ids changed hframe
  have hread : PairingField.ofIds ids = [] := by
    have htoRead := h.toRead
    unfold toRead at htoRead
    rw [hframe] at htoRead
    exact htoRead
  cases ids with
  | nil =>
    have hclient : (s.resume S isOk [] false).client = { s.client with onNotification := none } := by
      show s.client.resumeNotification S s.properties isOk [] false = _
      unfold PairingImpl.resumeNotification PairingImpl.notifyCallback
      cases s.client.pairingInfoCallback <;> rfl
    refine h.of_frame rfl hclient fun ids changed hids => ?_
    cases hids
  | cons i ids =>
    have hnone : PairingField.ofId i = none ∧ PairingField.ofIds ids = [] := by
      unfold PairingField.ofIds at hread ⊢
      cases hf : PairingField.ofId i with
      | none =>
        rw [List.filterMap_cons_none hf] at hread
        exact ⟨rfl, hread⟩
      | some f =>
        rw [List.filterMap_cons_some hf] at hread
        cases hread
    have hclient : (s.resume S isOk (i :: ids) false).client =
        { s.client with onNotification := some (ids, false) } := by
      show s.client.resumeNotification S s.properties isOk (i :: ids) false = _
      rw [PairingImpl.resumeNotification_cons, PairingImpl.readProperty_other hnone.1]
    refine h.of_frame rfl hclient fun ids' changed hids => ?_
    cases hids
    exact ⟨hnone.2, rfl⟩

theorem next_uninformed {e : Event E} (h : Uninformed s) (hreg : Registration listener s)
    (hno : NoPairing s e) (hn : s.next S E listener e = some t) : Uninformed t := by
  cases e with
  | handler handler =>
    cases hn
    refine ⟨fun ids hids => ?_, h.toRead, h.changed, h.pairingInfo, h.given⟩
    rw [runHandler_inFlight _ hreg.nodup] at hids
    rcases List.mem_append.1 hids with hold | hnew
    · exact h.inFlight ids hold
    · split at hnew
      · obtain rfl := List.mem_singleton.1 hnew
        exact PairingField.ofIds_eq_nil.2 (run_other_ids hno s.properties)
      · cases hnew
  | registerNotificationListener other =>
    cases hn
    exact ⟨h.inFlight, h.toRead, h.changed, h.pairingInfo, h.given⟩
  | onNotificationListenerDestroyed other =>
    obtain ⟨-, rfl⟩ := next_onNotificationListenerDestroyed hn
    exact ⟨h.inFlight, h.toRead, h.changed, h.pairingInfo, h.given⟩
  | onServiceConnected =>
    obtain ⟨-, rfl⟩ := next_onServiceConnected hn
    exact ⟨h.inFlight, h.toRead, h.changed, h.pairingInfo, h.given⟩
  | setPairingInfoListener callback =>
    obtain ⟨-, rfl⟩ := next_setPairingInfoListener hn
    rcases s.client.setPairingInfoListener_cases callback with heq | ⟨n, -, hcomplete, -⟩
    · rw [heq]
      exact ⟨h.inFlight, h.toRead, h.changed, h.pairingInfo, h.given⟩
    · rw [h.pairingInfo] at hcomplete
      cases hcomplete
  | deliver =>
    obtain ⟨ids, rest, hnext, -, rfl⟩ := next_deliver hn
    have hmem : ∀ ids' ∈ ids :: rest, PairingField.ofIds ids' = [] := by
      intro ids' hids'
      rw [← hnext] at hids'
      exact h.inFlight ids' hids'
    refine ⟨fun ids' hids' => hmem ids' (List.mem_cons_of_mem _ hids'), hmem ids List.mem_cons_self, ?_,
      h.pairingInfo, h.given⟩
    intro ids' changed hframe
    cases hframe
    rfl
  | resume isOk => exact resume_uninformed h hn

/-- The last value that a callback has been given. -/
def lastGiven (s : PairingSystem) (callback : ℕ) : Option (Option PairingInfo) :=
  (s.client.given.find? fun g => g.1 = callback).map Prod.snd

/-- The runs in which the client registers its listener in `s`, and no pairing event follows. -/
def afterRegistration (S : ByteStrings) (E : WeaveEnums) (listener : NotificationListener) (s : PairingSystem) :
    Machine PairingSystem (Event E) where
  start t := s.next S E listener (.registerNotificationListener listener) = some t
  next t e := t.next S E listener e

/-- The client has registered its listener while weaved has had complete information, no
pairing event has followed, the client is connected and has a callback, and nothing is in
flight. -/
structure LateClient (S : ByteStrings) (E : WeaveEnums) (listener : NotificationListener) (s t : PairingSystem)
    (callback : ℕ) : Prop where
  reach : (machine S E listener).Reach s
  unregistered : listener ∉ s.manager.notificationListeners
  complete : s.triple.incomplete = false
  follows : (afterRegistration S E listener s).ReachIf NoPairing t
  connected : t.client.connected = true
  callback : t.client.pairingInfoCallback = some callback
  quiet : Quiet t

/-- The last value that the callback has been given is the pairing information of weaved. -/
def Learned (S : ByteStrings) (t : PairingSystem) (callback : ℕ) : Prop :=
  ∃ info, t.lastGiven callback = some (some info) ∧ ∀ f, info.get f = received S (t.triple.get f)

/-- **A client that registers during a session does not learn of it**, in any run. -/
theorem not_learned {callback : ℕ} (h : LateClient S E listener s t callback) : ¬Learned S t callback := by
  have hbefore := (reach_registration h.reach).untold h.unregistered
  have hfollows : Registration listener t ∧ Uninformed t := by
    refine Machine.ReachIf.invariant (P := fun t => Registration listener t ∧ Uninformed t) ?_ ?_ h.follows
    · intro t ht
      have hreg := reach_registration h.reach
      exact ⟨next_registration hreg ht, next_uninformed (e := .registerNotificationListener listener)
        hbefore.uninformed hreg trivial ht⟩
    · rintro t e u - ⟨hreg, huninformed⟩ hno hn
      exact ⟨next_registration hreg hn, next_uninformed huninformed hreg hno hn⟩
  rintro ⟨info, hlast, -⟩
  unfold lastGiven at hlast
  rw [hfollows.2.given] at hlast
  cases hlast

/-- A session starts, and then a client registers and connects. -/
def lateState : PairingSystem :=
  runHandler Mirrored.firstListener {}
    (Handler.onPairingStart (E := WeaveEnums.named) "session" "pinCode" [49])

def lateClient : PairingSystem :=
  { lateState with
    manager := lateState.manager.registerNotificationListener Mirrored.firstListener
    client := { connected := true, pairingInfoCallback := some 0 } }

theorem lateClient_late :
    LateClient ByteStrings.plain WeaveEnums.named Mirrored.firstListener lateState lateClient 0 where
  reach := .step (e := .handler _) (.start rfl) trivial rfl
  unregistered := by
    intro h
    cases h
  complete := by decide +kernel
  follows := .step (e := .setPairingInfoListener (some 0)) (.step (e := .onServiceConnected) (.start rfl) trivial rfl)
    trivial rfl
  connected := rfl
  callback := rfl
  quiet := by
    refine ⟨?_, rfl⟩
    decide +kernel

theorem not_learned_test : ¬Learned ByteStrings.plain lateClient 0 := not_learned lateClient_late

theorem late_client :
    ¬∀ (S : ByteStrings) (E : WeaveEnums) (listener : NotificationListener) (s t : PairingSystem) (callback : ℕ),
      LateClient S E listener s t callback → Learned S t callback := by
  intro hall
  obtain ⟨info, hlast, -⟩ := hall _ _ _ _ _ _ lateClient_late
  cases hlast

end PairingSystem

end SystemWeaved
