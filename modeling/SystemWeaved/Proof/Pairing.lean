import SystemWeaved.Lib.Replica
import SystemWeaved.Proof.Mirror
import SystemWeaved.Spec.Pairing

/-!
# Pairing updates reach the client

A `ServiceImpl` is a replica of the pairing properties that is told what to read (`replica`).
So what has changed since its listener was registered is up to date in the client, or a
notification of it is under way (`pairing_covered`), as long as the getters succeed.
-/

namespace SystemWeaved

open NotificationListener

variable {S : ByteStrings} {E : WeaveEnums} {listener : NotificationListener}

/-- The three parts of the pairing information. -/
inductive PairingField
  | sessionId | mode | code
  deriving DecidableEq

namespace PairingField

instance : Fintype PairingField := ⟨{sessionId, mode, code}, fun f => by cases f <;> decide⟩

def property : PairingField → Property
  | sessionId => .pairingSessionId
  | mode => .pairingMode
  | code => .pairingCode

def id (f : PairingField) : ℤ := f.property.notificationId

/-- The field that an identifier names. -/
def ofId (i : ℤ) : Option PairingField :=
  if i = PAIRING_SESSION_ID then some sessionId
  else if i = PAIRING_MODE then some mode
  else if i = PAIRING_CODE then some code
  else none

theorem ofId_id (f : PairingField) : ofId f.id = some f := by
  cases f <;> rfl

theorem ofId_eq_some {i : ℤ} {f : PairingField} : ofId i = some f ↔ i = f.id := by
  constructor
  · intro h
    unfold ofId at h
    split_ifs at h with hs hm hc
    · cases h; exact hs
    · cases h; exact hm
    · cases h; exact hc
  · rintro rfl
    exact ofId_id f

/-- The fields that a notification names. -/
def ofIds (ids : List ℤ) : List PairingField := ids.filterMap ofId

theorem mem_ofIds {ids : List ℤ} {f : PairingField} : f ∈ ofIds ids ↔ f.id ∈ ids := by
  unfold ofIds
  rw [List.mem_filterMap]
  constructor
  · rintro ⟨i, hi, hf⟩
    rw [← ofId_eq_some.1 hf]
    exact hi
  · intro h
    exact ⟨f.id, h, ofId_id f⟩

theorem ofIds_eq_nil {ids : List ℤ} : ofIds ids = [] ↔ ∀ f : PairingField, f.id ∉ ids := by
  rw [List.eq_nil_iff_forall_not_mem]
  exact forall_congr' fun f => not_congr mem_ofIds

end PairingField

def PairingInfo.get (info : PairingInfo) : PairingField → StdString
  | .sessionId => info.sessionId
  | .mode => info.pairingMode
  | .code => info.pairingCode

theorem PairingInfo.get_injective : Function.Injective PairingInfo.get := by
  rintro ⟨s, m, c⟩ ⟨s', m', c'⟩ h
  have hs : s = s' := congrFun h .sessionId
  have hm : m = m' := congrFun h .mode
  have hc : c = c' := congrFun h .code
  rw [hs, hm, hc]

theorem PairingInfo.incomplete_iff {info : PairingInfo} :
    info.incomplete = true ↔ ∃ f, info.get f = "" := by
  unfold incomplete
  simp only [Bool.or_eq_true, decide_eq_true_eq]
  constructor
  · rintro ((hs | hm) | hc)
    · exact ⟨.sessionId, hs⟩
    · exact ⟨.mode, hm⟩
    · exact ⟨.code, hc⟩
  · rintro ⟨f, hf⟩
    cases f with
    | sessionId => exact .inl (.inl hf)
    | mode => exact .inl (.inr hf)
    | code => exact .inr hf

/-- What a client gets from a getter. -/
def received (S : ByteStrings) (value : StdString) : StdString := S.ToString (S.ToString16 value)

theorem received_eq {value : StdString} (htext : value.IsUtf8) (h : value.NulFree) : received S value = value :=
  S.toString_toString16 htext h

namespace PairingImpl

variable {c : PairingImpl} {weaved : StateProperties} {isOk changed : Bool}

/-- A pairing identifier makes the client read its field. -/
theorem readProperty_field (c : PairingImpl) (weaved : StateProperties) (changed : Bool) (f : PairingField) :
    ∃ info : PairingInfo, c.readProperty S weaved true f.id changed = ({ c with pairingInfo := info }, true) ∧
      info.get = Function.update c.pairingInfo.get f (received S (weaved f.property)) := by
  cases f with
  | sessionId =>
    refine ⟨_, rfl, ?_⟩
    funext g
    cases g <;> rfl
  | mode =>
    refine ⟨_, rfl, ?_⟩
    funext g
    cases g <;> rfl
  | code =>
    refine ⟨_, rfl, ?_⟩
    funext g
    cases g <;> rfl

/-- Other identifiers are skipped. -/
theorem readProperty_other {i : ℤ} (h : PairingField.ofId i = none) :
    c.readProperty S weaved isOk i changed = (c, changed) := by
  have hne : ∀ f : PairingField, i ≠ f.id := by
    rintro f rfl
    rw [PairingField.ofId_id] at h
    cases h
  have hs : i ≠ PAIRING_SESSION_ID := hne .sessionId
  have hm : i ≠ PAIRING_MODE := hne .mode
  have hc : i ≠ PAIRING_CODE := hne .code
  unfold readProperty
  rw [if_neg hs, if_neg hm, if_neg hc]

/-- A getter that fails leaves the field as it is. -/
theorem readProperty_failed (i : ℤ) : c.readProperty S weaved false i changed = (c, changed) := by
  unfold readProperty
  simp only [Bool.false_eq_true, if_false, ite_self]

theorem resumeNotification_cons (i : ℤ) (ids : List ℤ) (changed : Bool) :
    c.resumeNotification S weaved isOk (i :: ids) changed =
      { (c.readProperty S weaved isOk i changed).1 with
        onNotification := some (ids, (c.readProperty S weaved isOk i changed).2) } := rfl

/-- After its loop, `OnNotification` at most calls the callback. -/
theorem notifyCallback_cases (c : PairingImpl) (changed : Bool) :
    c.notifyCallback changed = c ∨ ∃ callback,
      c.notifyCallback changed =
        c.runCallback callback (if c.pairingInfo.incomplete then none else some c.pairingInfo) := by
  unfold notifyCallback
  cases c.pairingInfoCallback with
  | none => exact .inl rfl
  | some callback =>
    cases changed with
    | true => exact .inr ⟨callback, rfl⟩
    | false => exact .inl rfl

theorem setPairingInfoListener_cases (callback : Option ℕ) :
    c.setPairingInfoListener callback = { c with pairingInfoCallback := callback } ∨
      ∃ n, callback = some n ∧ c.pairingInfo.incomplete = false ∧ c.setPairingInfoListener callback =
        { c with pairingInfoCallback := callback, given := (n, some c.pairingInfo) :: c.given } := by
  unfold setPairingInfoListener
  cases callback with
  | none => exact .inl rfl
  | some n =>
    cases hinfo : c.pairingInfo.incomplete with
    | true => exact .inl (if_pos hinfo)
    | false => exact .inr ⟨n, rfl, rfl, if_neg (by simp [hinfo])⟩

end PairingImpl

namespace PairingSystem

variable {s t : PairingSystem}

/-- The identifiers that `OnNotification` still has to process. -/
def toRead (s : PairingSystem) : List ℤ :=
  match s.client.onNotification with
  | some (ids, _) => ids
  | none => []

/-- The client as a replica of the pairing properties. -/
def replica (s : PairingSystem) : Replica PairingField StdString StdString where
  store f := s.properties f.property
  replica := s.client.pairingInfo.get
  inFlight := s.inFlight.map PairingField.ofIds
  reading := PairingField.ofIds s.toRead

theorem inMessageLoop_eq_some {f : PairingImpl → PairingImpl} :
    s.inMessageLoop f = some t ↔ s.client.onNotification = none ∧ { s with client := f s.client } = t := by
  unfold inMessageLoop
  cases h : s.client.onNotification with
  | none => simp
  | some r => simp

/-- A registered listener is sent the identifiers of a handler, if there are any. -/
theorem runHandler_inFlight (listener : NotificationListener) (hnodup : s.manager.notificationListeners.Nodup)
    (handler : Handler E) :
    (s.runHandler listener handler).inFlight = s.inFlight ++
      if listener ∈ s.manager.notificationListeners ∧ (handler.run s.properties).2 ≠ [] then
        [(handler.run s.properties).2] else [] := by
  show s.inFlight ++ ((notifyServiceManagerChange s.manager.notificationListeners
    (handler.run s.properties).2).filter fun n => n.1 = listener).map Prod.snd = _
  by_cases hl : listener ∈ s.manager.notificationListeners
  · rw [notify_filter hnodup hl]
    by_cases hids : (handler.run s.properties).2 = []
    · simp [hids]
    · simp [hids, hl]
  · rw [notify_filter_other hl, if_neg fun h => hl h.1]
    rfl

/-- A handler is a write, with the fields it names as the keys. -/
theorem replica_runHandler (hnodup : s.manager.notificationListeners.Nodup)
    (hl : listener ∈ s.manager.notificationListeners) (handler : Handler E) :
    (s.runHandler listener handler).replica = s.replica ∨
      (s.runHandler listener handler).replica =
        s.replica.write (fun f => (handler.run s.properties).1 f.property)
          (PairingField.ofIds (handler.run s.properties).2) := by
  have hsent := runHandler_inFlight listener hnodup handler
  by_cases hids : (handler.run s.properties).2 = []
  · -- nothing has changed
    have hsame : (s.runHandler listener handler).properties = s.properties := by
      funext p
      by_contra hne
      have hmem := handler.changed_mem hne
      rw [hids] at hmem
      cases hmem
    rw [if_neg fun h => h.2 hids, List.append_nil] at hsent
    left
    unfold replica
    rw [hsent, hsame]
    rfl
  · rw [if_pos ⟨hl, hids⟩] at hsent
    right
    unfold replica
    rw [hsent, List.map_append]
    rfl

/-- A notification is received. -/
theorem replica_deliver {ids : List ℤ} {rest : List (List ℤ)} :
    ({ s with inFlight := rest, client := { s.client with onNotification := some (ids, false) } } : PairingSystem).replica =
      s.replica.receive (PairingField.ofIds ids) (rest.map PairingField.ofIds) := rfl

/-- `OnNotification` goes on in the client. -/
def resume (S : ByteStrings) (s : PairingSystem) (isOk : Bool) (ids : List ℤ) (changed : Bool) : PairingSystem :=
  { s with client := s.client.resumeNotification S s.properties isOk ids changed }

/-- `OnNotification` reads a field, or skips an identifier. -/
theorem replica_resume {i : ℤ} {ids : List ℤ} {changed : Bool}
    (h : s.client.onNotification = some (i :: ids, changed)) :
    (∃ f : PairingField, s.replica.reading = f :: PairingField.ofIds ids ∧
        (s.resume S true (i :: ids) changed).replica = s.replica.read (received S) f (PairingField.ofIds ids)) ∨
      (s.resume S true (i :: ids) changed).replica = s.replica := by
  have hread : s.toRead = i :: ids := by
    unfold toRead
    rw [h]
  cases hf : PairingField.ofId i with
  | none =>
    right
    have hother : (s.resume S true (i :: ids) changed).client =
        { s.client with onNotification := some (ids, changed) } := by
      show s.client.resumeNotification S s.properties true (i :: ids) changed = _
      rw [PairingImpl.resumeNotification_cons, PairingImpl.readProperty_other hf]
    have hkeys : PairingField.ofIds s.toRead = PairingField.ofIds ids := by
      rw [hread]
      exact List.filterMap_cons_none hf
    unfold replica
    rw [hkeys]
    unfold toRead
    rw [hother]
    rfl
  | some f =>
    left
    obtain rfl := PairingField.ofId_eq_some.1 hf
    obtain ⟨info, hinfo, hget⟩ :=
      PairingImpl.readProperty_field (S := S) s.client s.properties changed f
    have hfield : (s.resume S true (f.id :: ids) changed).client =
        { s.client with pairingInfo := info, onNotification := some (ids, true) } := by
      show s.client.resumeNotification S s.properties true (f.id :: ids) changed = _
      rw [PairingImpl.resumeNotification_cons, hinfo]
    refine ⟨f, ?_, ?_⟩
    · show PairingField.ofIds s.toRead = _
      rw [hread]
      exact List.filterMap_cons_some hf
    · unfold replica toRead
      rw [hfield]
      show Replica.mk _ info.get _ _ = Replica.mk _ _ _ _
      rw [hget]
      rfl

/-- A getter that fails skips its identifier. -/
theorem replica_resume_failed (s : PairingSystem) (i : ℤ) (ids : List ℤ) (changed : Bool) :
    (s.resume S false (i :: ids) changed).replica = s.replica.skip (PairingField.ofIds ids) := by
  have hclient : (s.resume S false (i :: ids) changed).client =
      { s.client with onNotification := some (ids, changed) } := by
    show s.client.resumeNotification S s.properties false (i :: ids) changed = _
    rw [PairingImpl.resumeNotification_cons, PairingImpl.readProperty_failed]
  unfold replica toRead
  rw [hclient]
  rfl

/-- After the last identifier, nothing is left to be read. -/
theorem replica_resume_nil {isOk changed : Bool} (h : s.client.onNotification = some ([], changed)) :
    (s.resume S isOk [] changed).replica = s.replica := by
  have hread : s.toRead = [] := by
    unfold toRead
    rw [h]
  have hinfo : (s.client.notifyCallback changed).pairingInfo = s.client.pairingInfo := by
    rcases s.client.notifyCallback_cases changed with heq | ⟨callback, heq⟩
    · rw [heq]
    · rw [heq]
      rfl
  unfold replica
  rw [hread]
  show Replica.mk _ (s.client.notifyCallback changed).pairingInfo.get _ _ = _
  rw [hinfo]
  rfl

/-- The client has been told nothing. -/
structure Untold (s : PairingSystem) : Prop where
  inFlight : s.inFlight = []
  onNotification : s.client.onNotification = none
  pairingInfo : s.client.pairingInfo = {}
  given : s.client.given = []
  changed : s.changed = fun _ => false

/-- Before its listener is registered, the client is told nothing. -/
structure Registration (listener : NotificationListener) (s : PairingSystem) : Prop where
  nodup : s.manager.notificationListeners.Nodup
  untold : listener ∉ s.manager.notificationListeners → Untold s

theorem next_deliver (h : s.next S E listener .deliver = some t) :
    ∃ ids rest, s.inFlight = ids :: rest ∧ s.client.onNotification = none ∧
      t = { s with inFlight := rest, client := { s.client with onNotification := some (ids, false) } } := by
  simp only [next] at h
  split at h
  · cases h
  · rename_i ids rest hnext
    obtain ⟨hidle, rfl⟩ := inMessageLoop_eq_some.1 h
    exact ⟨ids, rest, hnext, hidle, rfl⟩

theorem next_resume {isOk : Bool} (h : s.next S E listener (.resume isOk) = some t) :
    ∃ ids changed, s.client.onNotification = some (ids, changed) ∧ t = s.resume S isOk ids changed := by
  obtain ⟨⟨ids, changed⟩, hframe, rfl⟩ := Option.map_eq_some_iff.1 h
  exact ⟨ids, changed, hframe, rfl⟩

theorem next_setPairingInfoListener {callback : Option ℕ}
    (h : s.next S E listener (.setPairingInfoListener callback) = some t) :
    s.client.onNotification = none ∧ t = { s with client := s.client.setPairingInfoListener callback } := by
  simp only [next] at h
  split at h
  · obtain ⟨hidle, rfl⟩ := inMessageLoop_eq_some.1 h
    exact ⟨hidle, rfl⟩
  · cases h

theorem next_onServiceConnected (h : s.next S E listener .onServiceConnected = some t) :
    s.client.onNotification = none ∧ t = { s with client := { s.client with connected := true } } := by
  simp only [next] at h
  obtain ⟨hidle, rfl⟩ := inMessageLoop_eq_some.1 h
  exact ⟨hidle, rfl⟩

theorem next_onNotificationListenerDestroyed {other : NotificationListener}
    (h : s.next S E listener (.onNotificationListenerDestroyed other) = some t) :
    other ≠ listener ∧ t = { s with manager := s.manager.onNotificationListenerDestroyed other } := by
  simp only [next] at h
  split at h
  · cases h
  · rename_i hne
    exact ⟨hne, (Option.some.inj h).symm⟩

theorem untold_runHandler (h : Untold s) (hnodup : s.manager.notificationListeners.Nodup)
    (hl : listener ∉ s.manager.notificationListeners) (handler : Handler E) :
    Untold (s.runHandler listener handler) where
  inFlight := by
    rw [runHandler_inFlight _ hnodup, if_neg fun hsent => hl hsent.1, h.inFlight]
    rfl
  onNotification := h.onNotification
  pairingInfo := h.pairingInfo
  given := h.given
  changed := by
    show (fun p => s.changed p || (decide (listener ∈ s.manager.notificationListeners) && _)) = _
    rw [h.changed]
    simp [hl]

theorem untold_setPairingInfoListener (h : Untold s) (callback : Option ℕ) :
    Untold { s with client := s.client.setPairingInfoListener callback } := by
  rcases s.client.setPairingInfoListener_cases callback with heq | ⟨n, -, hcomplete, -⟩
  · rw [heq]
    exact ⟨h.inFlight, h.onNotification, h.pairingInfo, h.given, h.changed⟩
  · rw [h.pairingInfo] at hcomplete
    cases hcomplete

theorem next_registration {e : Event E} (h : Registration listener s)
    (hn : s.next S E listener e = some t) : Registration listener t := by
  cases e with
  | handler handler =>
    cases hn
    exact ⟨h.nodup, fun hl => untold_runHandler (h.untold hl) h.nodup hl handler⟩
  | registerNotificationListener other =>
    cases hn
    refine ⟨h.nodup.insert, fun hl => ?_⟩
    have hbefore : listener ∉ s.manager.notificationListeners :=
      fun hmem => hl (List.mem_insert_of_mem hmem)
    obtain ⟨h1, h2, h3, h4, h5⟩ := h.untold hbefore
    exact ⟨h1, h2, h3, h4, h5⟩
  | onNotificationListenerDestroyed other =>
    obtain ⟨hne, rfl⟩ := next_onNotificationListenerDestroyed hn
    refine ⟨h.nodup.erase other, fun hl => ?_⟩
    have hbefore : listener ∉ s.manager.notificationListeners :=
      fun hmem => hl ((List.mem_erase_of_ne hne.symm).2 hmem)
    obtain ⟨h1, h2, h3, h4, h5⟩ := h.untold hbefore
    exact ⟨h1, h2, h3, h4, h5⟩
  | onServiceConnected =>
    obtain ⟨-, rfl⟩ := next_onServiceConnected hn
    refine ⟨h.nodup, fun hl => ?_⟩
    obtain ⟨h1, h2, h3, h4, h5⟩ := h.untold hl
    exact ⟨h1, h2, h3, h4, h5⟩
  | setPairingInfoListener callback =>
    obtain ⟨hidle, rfl⟩ := next_setPairingInfoListener hn
    exact ⟨h.nodup, fun hl => untold_setPairingInfoListener (h.untold hl) callback⟩
  | deliver =>
    obtain ⟨ids, rest, hnext, -, rfl⟩ := next_deliver hn
    refine ⟨h.nodup, fun hl => ?_⟩
    have hnone := (h.untold hl).inFlight
    rw [hnext] at hnone
    cases hnone
  | resume isOk =>
    obtain ⟨ids, changed, hframe, rfl⟩ := next_resume hn
    refine ⟨h.nodup, fun hl => ?_⟩
    have hnone := (h.untold hl).onNotification
    rw [hframe] at hnone
    cases hnone

theorem start_registration : Registration listener {} :=
  ⟨List.nodup_nil, fun _ => ⟨rfl, rfl, rfl, rfl, rfl⟩⟩

/-- The fields that have changed since the listener was registered. -/
def changedFields (s : PairingSystem) : Set PairingField := {f | s.changed f.property = true}

/-- What has changed is up to date, or will be read. -/
def Covered (S : ByteStrings) (s : PairingSystem) : Prop :=
  s.replica.Covered (received S) s.changedFields

/-- An event that neither changes the properties nor what the client has been told. -/
theorem covered_of_eq (h : Covered S s) (hreplica : t.replica = s.replica) (hchanged : t.changed = s.changed) :
    Covered S t := by
  unfold Covered changedFields at *
  rw [hreplica, hchanged]
  exact h

theorem runHandler_covered (h : Covered S s) (hreg : Registration listener s) (handler : Handler E) :
    Covered S (s.runHandler listener handler) := by
  by_cases hl : listener ∈ s.manager.notificationListeners
  · have hchanged : ∀ f ∈ (s.runHandler listener handler).changedFields,
        f ∈ s.changedFields ∨ (handler.run s.properties).1 f.property ≠ s.properties f.property := by
      intro f hf
      have hf : (s.changed f.property || (decide (listener ∈ s.manager.notificationListeners) &&
        decide ((handler.run s.properties).1 f.property ≠ s.properties f.property))) = true := hf
      rw [decide_eq_true hl, Bool.true_and] at hf
      rcases Bool.or_eq_true_iff.1 hf with hold | hnew
      · exact .inl hold
      · exact .inr (of_decide_eq_true hnew)
    have hkeys : ∀ f : PairingField, (handler.run s.properties).1 f.property ≠ s.properties f.property →
        f ∈ PairingField.ofIds (handler.run s.properties).2 :=
      fun f hne => PairingField.mem_ofIds.2 (handler.changed_mem hne)
    rcases replica_runHandler hreg.nodup hl handler with hsame | hwrite
    · intro f hf
      have hstore : ∀ g, (handler.run s.properties).1 (PairingField.property g) = s.properties g.property :=
        fun g => congrFun (congrArg Replica.store hsame) g
      rw [hsame]
      exact h f ((hchanged f hf).resolve_right (not_not.2 (hstore f)))
    · unfold Covered
      rw [hwrite]
      exact Replica.Covered.write h hkeys hchanged
  · intro f hf
    have hnone := (untold_runHandler (hreg.untold hl) hreg.nodup hl handler).changed
    have hf : (s.runHandler listener handler).changed f.property = true := hf
    rw [hnone] at hf
    cases hf

theorem replica_reading_idle (h : s.client.onNotification = none) : s.replica.reading = [] := by
  unfold replica toRead
  rw [h]
  rfl

theorem resume_covered (h : Covered S s) {ids : List ℤ} {changed : Bool}
    (hframe : s.client.onNotification = some (ids, changed)) : Covered S (s.resume S true ids changed) := by
  cases ids with
  | nil => exact covered_of_eq h (replica_resume_nil hframe) rfl
  | cons i ids =>
    rcases replica_resume (S := S) hframe with ⟨f, hreading, hread⟩ | hskip
    · unfold Covered
      rw [hread]
      exact Replica.Covered.read h hreading
    · exact covered_of_eq h hskip rfl

/-- The getter that is called succeeds. -/
def GettersSucceed (_ : PairingSystem) : Event E → Prop
  | .resume isOk => isOk = true
  | _ => True

theorem next_covered {e : Event E} (h : Covered S s) (hreg : Registration listener s) (hgetters : GettersSucceed s e)
    (hn : s.next S E listener e = some t) : Covered S t := by
  cases e with
  | handler handler =>
    cases hn
    exact runHandler_covered h hreg handler
  | registerNotificationListener other =>
    cases hn
    exact covered_of_eq h rfl rfl
  | onNotificationListenerDestroyed other =>
    obtain ⟨-, rfl⟩ := next_onNotificationListenerDestroyed hn
    exact covered_of_eq h rfl rfl
  | onServiceConnected =>
    obtain ⟨-, rfl⟩ := next_onServiceConnected hn
    exact covered_of_eq h rfl rfl
  | setPairingInfoListener callback =>
    obtain ⟨hidle, rfl⟩ := next_setPairingInfoListener hn
    rcases s.client.setPairingInfoListener_cases callback with heq | ⟨n, -, -, heq⟩
    · rw [heq]
      exact covered_of_eq h rfl rfl
    · rw [heq]
      exact covered_of_eq h rfl rfl
  | deliver =>
    obtain ⟨ids, rest, hnext, hidle, rfl⟩ := next_deliver hn
    have hinFlight : s.replica.inFlight = PairingField.ofIds ids :: rest.map PairingField.ofIds := by
      show s.inFlight.map PairingField.ofIds = _
      rw [hnext]
      rfl
    unfold Covered
    rw [replica_deliver]
    exact Replica.Covered.receive h (replica_reading_idle hidle) hinFlight
  | resume isOk =>
    obtain ⟨ids, changed, hframe, rfl⟩ := next_resume hn
    obtain rfl : isOk = true := hgetters
    exact resume_covered h hframe

theorem reach_registration (h : (machine S E listener).Reach s) : Registration listener s := by
  refine Machine.ReachIf.invariant (P := Registration listener) ?_ (fun s e t _ hs _ hn => next_registration hs hn) h
  rintro s rfl
  exact start_registration

theorem reach_covered (h : (machine S E listener).ReachIf GettersSucceed s) : Covered S s := by
  refine Machine.ReachIf.invariant (P := Covered S) ?_ ?_ h
  · rintro s rfl f hf
    cases hf
  · intro s e t hr hs hgetters hn
    exact next_covered hs (reach_registration hr.reach) hgetters hn

/-- Nothing is in flight to the client, or being processed by it. -/
def Quiet (s : PairingSystem) : Prop := s.inFlight = [] ∧ s.client.onNotification = none

/-- The client has the field as weaved has it: text without NUL arrives as it is. -/
def UpToDate (S : ByteStrings) (s : PairingSystem) (f : PairingField) : Prop :=
  s.client.pairingInfo.get f = received S (s.properties f.property) ∧
    ((s.properties f.property).IsUtf8 → (s.properties f.property).NulFree →
      s.client.pairingInfo.get f = s.properties f.property)

theorem upToDate_iff {f : PairingField} :
    UpToDate S s f ↔ s.client.pairingInfo.get f = received S (s.properties f.property) := by
  constructor
  · exact fun h => h.1
  · intro h
    exact ⟨h, fun htext hfree => h.trans (received_eq htext hfree)⟩

/-- **No update is lost after registration**, if all getters succeed. -/
theorem pairing_covered (h : (machine S E listener).ReachIf GettersSucceed s) :
    (∀ f : PairingField, s.changed f.property = true →
      UpToDate S s f ∨ f.id ∈ s.toRead ∨ ∃ ids ∈ s.inFlight, f.id ∈ ids) ∧
    (Quiet s → ∀ f : PairingField, s.changed f.property = true → UpToDate S s f) := by
  have hcovered : ∀ f : PairingField, s.changed f.property = true →
      UpToDate S s f ∨ f.id ∈ s.toRead ∨ ∃ ids ∈ s.inFlight, f.id ∈ ids := by
    intro f hf
    rcases reach_covered h f hf with hr | hr | ⟨keys, hmem, hr⟩
    · exact .inl (upToDate_iff.2 hr)
    · exact .inr (.inl (PairingField.mem_ofIds.1 hr))
    · obtain ⟨ids, hids, rfl⟩ := List.mem_map.1 hmem
      exact .inr (.inr ⟨ids, hids, PairingField.mem_ofIds.1 hr⟩)
  refine ⟨hcovered, fun hquiet f hf => ?_⟩
  obtain ⟨hnone, hidle⟩ := hquiet
  rcases hcovered f hf with hup | hread | ⟨ids, hids, -⟩
  · exact hup
  · unfold toRead at hread
    rw [hidle] at hread
    cases hread
  · rw [hnone] at hids
    cases hids

/-- A client registers its listener, and a session starts. -/
def sessionStarted : PairingSystem :=
  runHandler Mirrored.firstListener { manager := ({} : Manager).registerNotificationListener Mirrored.firstListener }
    (Handler.onPairingStart (E := WeaveEnums.named) "session" "pinCode" [49])

theorem sessionStarted_reach :
    (machine ByteStrings.plain WeaveEnums.named Mirrored.firstListener).ReachIf GettersSucceed sessionStarted :=
  .step (e := .handler _) (.step (e := .registerNotificationListener Mirrored.firstListener) (.start rfl) trivial rfl)
    trivial rfl

theorem pairing_covered_test :
    (∀ f : PairingField, sessionStarted.changed f.property = true →
      UpToDate ByteStrings.plain sessionStarted f ∨ f.id ∈ sessionStarted.toRead ∨
        ∃ ids ∈ sessionStarted.inFlight, f.id ∈ ids) ∧
    (Quiet sessionStarted → ∀ f : PairingField, sessionStarted.changed f.property = true →
      UpToDate ByteStrings.plain sessionStarted f) :=
  pairing_covered sessionStarted_reach

/-- All three fields are on their way. -/
example : sessionStarted.inFlight = [[PAIRING_SESSION_ID, PAIRING_MODE, PAIRING_CODE]] := by
  decide +kernel

end PairingSystem

end SystemWeaved
