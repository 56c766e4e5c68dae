import SystemWeaved.Spec.Properties

/-!
# Change notifications are enough to mirror the properties

* `updateValues_lists`: calls of `UpdateValue` list the identifiers of the properties that
  have changed, each once.
* `changed_mem`: a handler notifies of every property that it changes.
* `mirror_agrees`: a listener that reads all getters when it registers, and afterwards those
  of the identifiers it is notified of, always has what the getters return.
-/

namespace SystemWeaved

open NotificationListener

variable {S : ByteStrings} {E : WeaveEnums} {manager : StateProperties}

/-- The identifier that is called like the property. -/
def Property.notificationId : Property → ℤ
  | .cloudId => CLOUD_ID
  | .deviceId => DEVICE_ID
  | .deviceName => DEVICE_NAME
  | .deviceDescription => DEVICE_DESCRIPTION
  | .deviceLocation => DEVICE_LOCATION
  | .oemName => OEM_NAME
  | .modelName => MODEL_NAME
  | .modelId => MODEL_ID
  | .pairingSessionId => PAIRING_SESSION_ID
  | .pairingMode => PAIRING_MODE
  | .pairingCode => PAIRING_CODE
  | .state => STATE

theorem Property.notificationId_injective : Function.Injective Property.notificationId := by
  intro p q h
  cases p <;> cases q <;> first | rfl | exact absurd h (by decide)

/-! ## What the handlers list -/

/-- The identifiers are those of the properties that differ, each once. -/
def Lists (before after : StateProperties) (ids : List ℤ) : Prop :=
  (∀ p : Property, ids.count p.notificationId = if after p ≠ before p then 1 else 0) ∧
    ∀ id ∈ ids, ∃ p : Property, id = p.notificationId

/-- The calls of `UpdateValue` are for different members, and with the identifiers of these. -/
structure Wired (us : List Update) : Prop where
  nodup : (us.map Update.prop).Nodup
  notification : ∀ u ∈ us, u.notification = u.prop.notificationId

theorem Wired.tail {u : Update} {us : List Update} (h : Wired (u :: us)) : Wired us :=
  ⟨(List.nodup_cons.1 h.nodup).2, fun v hv => h.notification v (List.mem_cons_of_mem _ hv)⟩

theorem configUpdates_wired (settings : Settings) : Wired (StateProperties.configUpdates settings) where
  nodup := by
    show [Property.cloudId, .deviceId, .deviceName, .deviceDescription, .deviceLocation, .oemName, .modelId,
      .modelName].Nodup
    decide
  notification := by
    simp [StateProperties.configUpdates, Property.notificationId]

theorem pairingUpdates_wired (sessionId mode code : StdString) :
    Wired (StateProperties.pairingUpdates sessionId mode code) where
  nodup := by
    show [Property.pairingSessionId, .pairingMode, .pairingCode].Nodup
    decide
  notification := by
    simp [StateProperties.pairingUpdates, Property.notificationId]

/-- The member has the new value afterwards, and no other member has changed. -/
theorem updateValue_fst (manager : StateProperties) (u : Update) (ids : List ℤ) :
    (updateValue manager u ids).1 = Function.update manager u.prop u.newValue := by
  unfold updateValue
  by_cases h : manager u.prop = u.newValue
  · rw [if_neg (not_not.2 h), ← h, Function.update_eq_self]
  · rw [if_pos h]

/-- The identifier is listed exactly if the value is another one. -/
theorem updateValue_snd (manager : StateProperties) (u : Update) (ids : List ℤ) :
    (updateValue manager u ids).2 = if manager u.prop ≠ u.newValue then ids ++ [u.notification] else ids := by
  unfold updateValue
  split <;> rfl

theorem updateValues_cons (manager : StateProperties) (u : Update) (us : List Update) (ids : List ℤ) :
    updateValues manager (u :: us) ids =
      updateValues (updateValue manager u ids).1 us (updateValue manager u ids).2 := rfl

theorem updateValues_of_not_mem {us : List Update} {p : Property} (h : p ∉ us.map Update.prop) :
    ∀ (manager : StateProperties) (ids : List ℤ), (updateValues manager us ids).1 p = manager p := by
  induction us with
  | nil => exact fun _ _ => rfl
  | cons u us ih =>
    intro manager ids
    rw [List.map_cons, List.mem_cons, not_or] at h
    rw [updateValues_cons, ih h.2, updateValue_fst, Function.update_of_ne h.1]

/-- A member that is listed ends with its new value. -/
theorem updateValues_of_mem {us : List Update} {u : Update} (hw : Wired us) (h : u ∈ us) :
    ∀ (manager : StateProperties) (ids : List ℤ), (updateValues manager us ids).1 u.prop = u.newValue := by
  induction us with
  | nil => cases h
  | cons v us ih =>
    intro manager ids
    rw [updateValues_cons]
    rcases List.mem_cons.1 h with rfl | hmem
    · have hnot : u.prop ∉ us.map Update.prop := (List.nodup_cons.1 hw.nodup).1
      rw [updateValues_of_not_mem hnot, updateValue_fst, Function.update_self]
    · exact ih hw.tail hmem _ _

theorem updateValues_count {us : List Update} (hw : Wired us) (p : Property) :
    ∀ (manager : StateProperties) (ids : List ℤ),
      (updateValues manager us ids).2.count p.notificationId =
        ids.count p.notificationId + if (updateValues manager us ids).1 p ≠ manager p then 1 else 0 := by
  induction us with
  | nil =>
    intro manager ids
    simp [updateValues]
  | cons u us ih =>
    intro manager ids
    rw [updateValues_cons, ih hw.tail]
    have hid : u.notification = u.prop.notificationId := hw.notification u List.mem_cons_self
    have hfst := updateValue_fst manager u ids
    have hsnd := updateValue_snd manager u ids
    by_cases hp : p = u.prop
    · -- the other calls leave this member alone
      subst hp
      have hnot : u.prop ∉ us.map Update.prop := (List.nodup_cons.1 hw.nodup).1
      have hnew : (updateValue manager u ids).1 u.prop = u.newValue := by
        rw [hfst, Function.update_self]
      simp only [updateValues_of_not_mem hnot, hnew]
      rw [hsnd, hid]
      by_cases hv : manager u.prop = u.newValue
      · simp [hv]
      · simp [hv, Ne.symm hv]
    · have hne : u.notification ≠ p.notificationId := by
        rw [hid]
        exact fun heq => hp (Property.notificationId_injective heq).symm
      have hsame : (updateValue manager u ids).1 p = manager p := by
        rw [hfst, Function.update_of_ne hp]
      have hcount : (updateValue manager u ids).2.count p.notificationId = ids.count p.notificationId := by
        rw [hsnd]
        split
        · simp [hne]
        · rfl
      simp only [hsame, hcount]

theorem updateValues_mem {us : List Update} (hw : Wired us) :
    ∀ (manager : StateProperties) (ids : List ℤ) (id : ℤ), id ∈ (updateValues manager us ids).2 →
      id ∈ ids ∨ ∃ p ∈ us.map Update.prop, id = p.notificationId := by
  induction us with
  | nil => exact fun _ _ _ h => .inl h
  | cons u us ih =>
    intro manager ids id h
    rw [updateValues_cons] at h
    rcases ih hw.tail _ _ _ h with hmem | ⟨p, hp, rfl⟩
    · rw [updateValue_snd] at hmem
      split at hmem
      · rcases List.mem_append.1 hmem with hids | hlast
        · exact .inl hids
        · rw [List.mem_singleton.1 hlast, hw.notification u List.mem_cons_self]
          exact .inr ⟨u.prop, List.mem_cons_self, rfl⟩
      · exact .inl hmem
    · exact .inr ⟨p, List.mem_cons_of_mem _ hp, rfl⟩

/-- **Calls of `UpdateValue` list what they have changed.** -/
theorem updateValues_lists {us : List Update} (hw : Wired us) (manager : StateProperties) :
    Lists manager (updateValues manager us []).1 (updateValues manager us []).2 := by
  constructor
  · intro p
    rw [updateValues_count hw, List.count_nil, zero_add]
  · intro id hid
    rcases updateValues_mem hw _ _ _ hid with h | ⟨p, -, rfl⟩
    · cases h
    · exact ⟨p, rfl⟩

theorem lists_nil (manager : StateProperties) : Lists manager manager [] := by
  constructor
  · intro p
    simp
  · intro id hid
    cases hid

/-- The handlers of the configuration and of pairing. -/
def Handler.updates : Handler E → Prop
  | .onConfigChanged _ | .onPairingStart _ _ _ | .onPairingEnd _ => True
  | .onTraitDefsChanged | .onComponentTreeChanged | .onGcdStateChanged _ => False

theorem Handler.run_lists {handler : Handler E} (h : handler.updates) (manager : StateProperties) :
    Lists manager (handler.run manager).1 (handler.run manager).2 := by
  cases handler with
  | onTraitDefsChanged => cases h
  | onComponentTreeChanged => cases h
  | onGcdStateChanged state => cases h
  | onConfigChanged settings => exact updateValues_lists (configUpdates_wired settings) manager
  | onPairingStart sessionId pairingType code => exact updateValues_lists (pairingUpdates_wired _ _ _) manager
  | onPairingEnd sessionId =>
    show Lists manager (manager.onPairingEnd sessionId).1 (manager.onPairingEnd sessionId).2
    unfold StateProperties.onPairingEnd
    split
    · exact lists_nil manager
    · exact updateValues_lists (pairingUpdates_wired _ _ _) manager

theorem Lists.mem {before after : StateProperties} {ids : List ℤ} (h : Lists before after ids) {p : Property}
    (hp : after p ≠ before p) : p.notificationId ∈ ids := by
  have hcount := h.1 p
  rw [if_pos hp] at hcount
  exact List.count_pos_iff.1 (by omega)

/-- **A handler notifies of every property that it changes.** -/
theorem Handler.changed_mem (handler : Handler E) {p : Property} (h : (handler.run manager).1 p ≠ manager p) :
    p.notificationId ∈ (handler.run manager).2 := by
  by_cases hupdates : handler.updates
  · exact (run_lists hupdates manager).mem h
  · cases handler with
    | onTraitDefsChanged => exact absurd rfl h
    | onComponentTreeChanged => exact absurd rfl h
    | onGcdStateChanged state =>
      by_cases hp : p = .state
      · subst hp
        exact List.mem_singleton.2 rfl
      · exact absurd (Function.update_of_ne hp _ _) h
    | onConfigChanged settings => exact absurd trivial hupdates
    | onPairingStart sessionId pairingType code => exact absurd trivial hupdates
    | onPairingEnd sessionId => exact absurd trivial hupdates

/-! ## Who is notified -/

/-- A registered listener is notified once, of all identifiers, unless there are none. -/
theorem notify_filter {listeners : List NotificationListener} (hnodup : listeners.Nodup)
    {listener : NotificationListener} (hl : listener ∈ listeners) (ids : List ℤ) :
    (notifyServiceManagerChange listeners ids).filter (fun n => n.1 = listener) =
      if ids = [] then [] else [(listener, ids)] := by
  unfold notifyServiceManagerChange
  split
  · rfl
  · rw [List.filter_map]
    have hfilter : listeners.filter ((fun n => decide (n.1 = listener)) ∘ fun l => (l, ids)) = [listener] := by
      have hone : listeners.count listener = 1 := List.count_eq_one_of_mem hnodup hl
      have heq := List.filter_eq (l := listeners) listener
      rw [hone] at heq
      exact heq
    rw [hfilter]
    rfl

/-- Nobody else is notified. -/
theorem notify_filter_other {listeners : List NotificationListener} {listener : NotificationListener}
    (hl : listener ∉ listeners) (ids : List ℤ) :
    (notifyServiceManagerChange listeners ids).filter (fun n => n.1 = listener) = [] := by
  unfold notifyServiceManagerChange
  split
  · rfl
  · rw [List.filter_eq_nil_iff]
    intro n hn
    obtain ⟨l, hmem, rfl⟩ := List.mem_map.1 hn
    simp only [decide_eq_true_eq]
    rintro rfl
    exact hl hmem

/-! ## Listeners that mirror the properties -/

/-- What the getters return, by their identifiers. -/
def copy (S : ByteStrings) (manager : StateProperties) (id : ℤ) : Option S.String16 :=
  (StateProperties.getter S id).map fun get => get manager

/-- weaved with the copies that its listeners keep. -/
structure Mirrored (S : ByteStrings) where
  properties : StateProperties := fun _ => ""
  manager : Manager := {}
  mirror : NotificationListener → ℤ → Option S.String16 := fun _ _ => none

namespace Mirrored

variable (s : Mirrored S)

inductive Event (E : WeaveEnums)
  | handler (handler : Handler E)
  | registerNotificationListener (listener : NotificationListener)
  | onNotificationListenerDestroyed (listener : NotificationListener)

/-- The notifications that a handler sends. -/
def notifications (handler : Handler E) : List (NotificationListener × List ℤ) :=
  notifyServiceManagerChange s.manager.notificationListeners (handler.run s.properties).2

/-- A listener is notified, and calls the getters of the listed identifiers. -/
def reread (properties : StateProperties) (mirror : NotificationListener → ℤ → Option S.String16)
    (notification : NotificationListener × List ℤ) : NotificationListener → ℤ → Option S.String16 :=
  Function.update mirror notification.1 fun id =>
    if id ∈ notification.2 then copy S properties id else mirror notification.1 id

def step : Event E → Mirrored S
  | .handler handler =>
    let properties := (handler.run s.properties).1
    { s with properties, mirror := (s.notifications handler).foldl (reread properties) s.mirror }
  | .registerNotificationListener listener =>
    { s with
      manager := s.manager.registerNotificationListener listener
      mirror := Function.update s.mirror listener (copy S s.properties) }
  | .onNotificationListenerDestroyed listener =>
    { s with manager := s.manager.onNotificationListenerDestroyed listener }

/-- All runs. -/
def machine (S : ByteStrings) (E : WeaveEnums) : Machine (Mirrored S) (Event E) where
  start s := s = {}
  next s e := some (s.step e)

end Mirrored

theorem copy_notificationId (manager : StateProperties) (p : Property) :
    copy S manager p.notificationId = some (S.ToString16 (manager p)) := by
  cases p <;> rfl

/-- An identifier has the getter of the property it is called like, or none. -/
theorem copy_cases (id : ℤ) : (∃ p : Property, id = p.notificationId) ∨ ∀ manager, copy S manager id = none := by
  by_cases h : ∃ p : Property, id = p.notificationId
  · exact .inl h
  · refine .inr fun manager => ?_
    have hne : ∀ p : Property, id ≠ p.notificationId := not_exists.1 h
    have hgetter : StateProperties.getter S id = none := by
      unfold StateProperties.getter
      rw [if_neg (show id ≠ CLOUD_ID from hne .cloudId), if_neg (show id ≠ DEVICE_ID from hne .deviceId),
        if_neg (show id ≠ DEVICE_NAME from hne .deviceName),
        if_neg (show id ≠ DEVICE_DESCRIPTION from hne .deviceDescription),
        if_neg (show id ≠ DEVICE_LOCATION from hne .deviceLocation),
        if_neg (show id ≠ OEM_NAME from hne .oemName), if_neg (show id ≠ MODEL_NAME from hne .modelName),
        if_neg (show id ≠ MODEL_ID from hne .modelId),
        if_neg (show id ≠ PAIRING_SESSION_ID from hne .pairingSessionId),
        if_neg (show id ≠ PAIRING_MODE from hne .pairingMode),
        if_neg (show id ≠ PAIRING_CODE from hne .pairingCode), if_neg (show id ≠ STATE from hne .state)]
    unfold copy
    rw [hgetter]
    rfl

/-- What is not listed has not changed. -/
theorem copy_of_not_mem {handler : Handler E} {id : ℤ} (h : id ∉ (handler.run manager).2) :
    copy S (handler.run manager).1 id = copy S manager id := by
  rcases copy_cases (S := S) id with ⟨p, rfl⟩ | hnone
  · rw [copy_notificationId, copy_notificationId]
    by_cases hp : (handler.run manager).1 p = manager p
    · rw [hp]
    · exact absurd (handler.changed_mem hp) h
  · rw [hnone, hnone]

namespace Mirrored

variable {s : Mirrored S}

/-- Listeners are registered once, and their copies agree with the getters. -/
structure Inv (s : Mirrored S) : Prop where
  nodup : s.manager.notificationListeners.Nodup
  agrees : ∀ listener ∈ s.manager.notificationListeners, s.mirror listener = copy S s.properties

/-- The copies after a notification of each listener. -/
theorem foldl_reread (properties : StateProperties) (ids : List ℤ) {listeners : List NotificationListener}
    (hnodup : listeners.Nodup) : ∀ (mirror : NotificationListener → ℤ → Option S.String16) (listener),
      ((listeners.map fun l => (l, ids)).foldl (reread properties) mirror) listener =
        if listener ∈ listeners then fun id => if id ∈ ids then copy S properties id else mirror listener id
        else mirror listener := by
  induction listeners with
  | nil =>
    intro mirror listener
    simp
  | cons l ls ih =>
    intro mirror listener
    obtain ⟨hl, hls⟩ := List.nodup_cons.1 hnodup
    rw [List.map_cons, List.foldl_cons, ih hls]
    by_cases heq : listener = l
    · subst heq
      rw [if_neg hl, if_pos List.mem_cons_self]
      exact Function.update_self _ _ _
    · have hsame : reread properties mirror (l, ids) listener = mirror listener := Function.update_of_ne heq _ _
      rw [hsame]
      simp [heq]

theorem handler_inv (h : Inv s) (handler : Handler E) : Inv (s.step (.handler handler)) := by
  refine ⟨h.nodup, fun listener hl => ?_⟩
  have hl : listener ∈ s.manager.notificationListeners := hl
  have hagrees := h.agrees listener hl
  funext id
  show ((s.notifications handler).foldl (reread (handler.run s.properties).1) s.mirror) listener id = _
  unfold notifications notifyServiceManagerChange
  by_cases hids : (handler.run s.properties).2 = []
  · rw [if_pos hids, List.foldl_nil, hagrees]
    have hnot : id ∉ (handler.run s.properties).2 := by
      rw [hids]
      exact List.not_mem_nil
    exact (copy_of_not_mem hnot).symm
  · rw [if_neg hids, foldl_reread _ _ h.nodup, if_pos hl]
    by_cases hid : id ∈ (handler.run s.properties).2
    · exact if_pos hid
    · rw [hagrees]
      exact (if_neg hid).trans (copy_of_not_mem hid).symm

theorem register_inv (h : Inv s) (listener : NotificationListener) :
    Inv (s.step (E := E) (.registerNotificationListener listener)) := by
  refine ⟨h.nodup.insert, fun l hl => ?_⟩
  have hl : l ∈ s.manager.notificationListeners.insert listener := hl
  show Function.update s.mirror listener (copy S s.properties) l = copy S s.properties
  by_cases heq : l = listener
  · rw [heq, Function.update_self]
  · rw [Function.update_of_ne heq]
    exact h.agrees l ((List.mem_insert_iff.1 hl).resolve_left heq)

theorem destroyed_inv (h : Inv s) (listener : NotificationListener) :
    Inv (s.step (E := E) (.onNotificationListenerDestroyed listener)) := by
  refine ⟨h.nodup.erase listener, fun l hl => ?_⟩
  exact h.agrees l (List.mem_of_mem_erase hl)

theorem reach_inv (h : (machine S E).Reach s) : Inv s := by
  refine Machine.ReachIf.invariant (P := Inv) ?_ ?_ h
  · rintro s rfl
    exact ⟨List.nodup_nil, fun _ hl => by cases hl⟩
  · intro s e t _ hs _ hn
    cases hn
    cases e with
    | handler handler => exact handler_inv hs handler
    | registerNotificationListener listener => exact register_inv hs listener
    | onNotificationListenerDestroyed listener => exact destroyed_inv hs listener

/-- **Notifications are exactly sufficient to mirror the `Manager`.** -/
theorem mirror_agrees (h : (machine S E).Reach s) :
    (∀ listener ∈ s.manager.notificationListeners, s.mirror listener = copy S s.properties) ∧
      ∀ handler : Handler E,
        (∀ listener ∈ s.manager.notificationListeners,
          ((s.notifications handler).filter fun n => n.1 = listener).length ≤ 1) ∧
        (∀ n ∈ s.notifications handler, n.2 = (handler.run s.properties).2) ∧
        (handler.updates → Lists s.properties (handler.run s.properties).1 (handler.run s.properties).2) := by
  have hinv := reach_inv h
  refine ⟨hinv.agrees, fun handler => ⟨?_, ?_, fun hupdates => Handler.run_lists hupdates _⟩⟩
  · intro listener hl
    unfold notifications
    rw [notify_filter hinv.nodup hl]
    split
    · exact Nat.zero_le 1
    · exact le_rfl
  · intro n hn
    unfold notifications notifyServiceManagerChange at hn
    split at hn
    · cases hn
    · obtain ⟨l, -, rfl⟩ := List.mem_map.1 hn
      rfl

def firstListener : NotificationListener := ⟨0, 0⟩

/-- A client registers its listener, and a pairing session starts. -/
def pairingStarted : Mirrored ByteStrings.plain :=
  (step (E := WeaveEnums.named) {} (.registerNotificationListener firstListener)).step (E := WeaveEnums.named)
    (.handler (.onPairingStart "session" "pinCode" [49, 50, 51]))

theorem pairingStarted_reach : (machine ByteStrings.plain WeaveEnums.named).Reach pairingStarted :=
  .step (.step (.start rfl) trivial rfl) trivial rfl

theorem mirror_agrees_test :
    (∀ listener ∈ pairingStarted.manager.notificationListeners,
      pairingStarted.mirror listener = copy ByteStrings.plain pairingStarted.properties) ∧
      ∀ handler : Handler WeaveEnums.named,
        (∀ listener ∈ pairingStarted.manager.notificationListeners,
          ((pairingStarted.notifications handler).filter fun n => n.1 = listener).length ≤ 1) ∧
        (∀ n ∈ pairingStarted.notifications handler, n.2 = (handler.run pairingStarted.properties).2) ∧
        (handler.updates → Lists pairingStarted.properties (handler.run pairingStarted.properties).1
          (handler.run pairingStarted.properties).2) :=
  mirror_agrees pairingStarted_reach

/-- The same session once more, with another code. -/
example : pairingStarted.notifications (E := WeaveEnums.named) (.onPairingStart "session" "pinCode" [52]) =
    [(firstListener, [PAIRING_CODE])] := by
  decide +kernel

end Mirrored

end SystemWeaved
