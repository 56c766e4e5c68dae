import SystemWeaved.Proof.Subscription

/-!
# Where a command goes

The handlers of the device, the messages to clients and the tables of the `ServiceImpl`
objects all go back to calls of `AddCommandHandler` (`Routed`). A call adds to the table
before it registers with weaved, and names without NUL survive both conversions, so the
look-up in the table never fails.

* `Routed.command`: a command under way has been registered by the `ServiceImpl` it goes to.
* `command_delivered`: what becomes of it.
-/

namespace SystemWeaved

/-- The entry that the effect adds to the table of the `ServiceImpl`. -/
def ClientEffect.entry (impl : ℕ) : ClientEffect → Option CommandHandlerEntry
  | .addCommandHandler g entry => if g = impl then some entry else none
  | _ => none

namespace Client

variable {S : Strings} {k k' : Client S} {c : ℕ}

/-- The entries that `AddCommandHandler` has added for the `ServiceImpl`, oldest first. -/
def added (k : Client S) (impl : ℕ) : List CommandHandlerEntry := (k.log.filterMap (ClientEffect.entry impl)).reverse

theorem added_emit {e : ClientEffect} {impl : ℕ} (h : e.entry impl = none) :
    (k.emit e).added impl = k.added impl := by
  unfold added emit
  rw [List.filterMap_cons_none h]

theorem added_of_log (h : k'.log = k.log) (impl : ℕ) : k'.added impl = k.added impl := by
  unfold added
  rw [h]

/-- The object has the table of its calls, and its service is for it. -/
structure Holds (k : Client S) (c : ℕ) (impl : ServiceImpl) : Prop where
  bound : impl.id < k.impls
  table : impl.commandHandlers = k.added impl.id
  service : ∀ service, impl.weaveService = some service →
    service.service.client.client = c ∧ service.service.client.serviceImpl = impl.id

/-- The invariant of the tables. -/
structure Tables (k : Client S) (c : ℕ) : Prop where
  owned : ∀ impl, k.owned = some impl → Holds k c impl
  fresh : ∀ impl, k.impls ≤ impl → k.added impl = []
  /-- What is registered is in the table. -/
  registering : ∀ service component command, k.frame = .registering service component command →
    service.service.client.client = c ∧ ∃ entry ∈ k.added service.service.client.serviceImpl,
      component = S.ToString16 entry.component ∧ command = S.ToString16 entry.commandName
  named : ∀ impl, ∀ entry ∈ k.added impl, NulFree entry.component ∧ NulFree entry.commandName
  expected : ∀ command, .unexpectedCommand command ∉ k.log

/-- A step that adds to no table. -/
theorem Tables.of_same (h : Tables k c) (hadded : ∀ impl, k'.added impl = k.added impl)
    (himpls : k.impls ≤ k'.impls) (howned : ∀ impl, k'.owned = some impl → Holds k' c impl)
    (hframe : ∀ service component command, k'.frame = .registering service component command → k'.frame = k.frame)
    (hlog : ∀ command, .unexpectedCommand command ∈ k'.log → .unexpectedCommand command ∈ k.log) :
    Tables k' c where
  owned := howned
  fresh impl himpl := by
    rw [hadded]
    exact h.fresh impl (le_trans himpls himpl)
  registering service component command hf := by
    rw [hadded]
    refine h.registering service component command ?_
    rw [← hframe service component command hf]
    exact hf
  named impl entry hentry := h.named impl entry (hadded impl ▸ hentry)
  expected command hmem := h.expected command (hlog command hmem)

theorem Holds.of_same {impl impl' : ServiceImpl} (h : Holds k c impl) (himpls : k.impls ≤ k'.impls)
    (hadded : ∀ impl, k'.added impl = k.added impl) (hid : impl'.id = impl.id)
    (htable : impl'.commandHandlers = impl.commandHandlers) (hservice : impl'.weaveService = impl.weaveService) :
    Holds k' c impl' where
  bound := by
    rw [hid]
    exact lt_of_lt_of_le h.bound himpls
  table := by
    rw [htable, hadded, hid]
    exact h.table
  service service hs := by
    rw [hid]
    exact h.service service (hservice ▸ hs)

/-- A step that leaves the subscription and the log as they are. -/
theorem Tables.of_subscription (h : Tables k c) (hsub : k'.subscription = k.subscription) (hlog : k'.log = k.log)
    (himpls : k'.impls = k.impls)
    (hframe : ∀ service component command, k'.frame = .registering service component command →
      k'.frame = k.frame) : Tables k' c := by
  have howned : k'.owned = k.owned := by
    unfold Client.owned
    rw [hsub]
  refine h.of_same (added_of_log hlog) himpls.ge (fun impl hs => ?_) hframe fun command hmem => hlog ▸ hmem
  exact (h.owned impl (howned ▸ hs)).of_same himpls.ge (added_of_log hlog) rfl rfl rfl

/-- A new object has an empty table. -/
theorem beginConnect_tables (h : Tables k c) : Tables k.beginConnect c := by
  refine h.of_same (fun _ => rfl) (Nat.le_succ _) (fun impl hs => ?_) (fun _ _ _ _ => rfl) fun _ => id
  cases hs
  refine ⟨Nat.lt_succ_self _, ?_, fun service hs => by cases hs⟩
  exact (h.fresh k.impls le_rfl).symm

theorem onWeaveServiceDisconnected_tables (h : Tables k c) (impl : ℕ) :
    Tables (k.onWeaveServiceDisconnected impl) c := by
  obtain ⟨hsub, himpls, hlog, -, hframe, -⟩ := onWeaveServiceDisconnected_same k impl
  exact h.of_subscription hsub hlog himpls fun _ _ _ _ => hframe

theorem LocalStep.tables (hk : LocalStep k k') (h : Tables k c) : Tables k' c := by
  cases hk with
  | subscribed hloop hsub => exact beginConnect_tables h
  | unsubscribed hloop =>
    refine h.of_same (fun _ => rfl) le_rfl (fun impl hs => by cases hs) (fun _ _ _ _ => rfl) fun _ => id
  | exited => exact h.of_subscription rfl rfl rfl fun _ _ _ _ => rfl
  | tried hloop impl htask binder =>
    have herase : Tables ({ k with tasks := k.tasks.erase (.tryConnecting impl) } : Client S) c :=
      h.of_subscription rfl rfl rfl fun _ _ _ _ => rfl
    unfold tryConnecting
    split
    · exact herase
    · split
      · exact herase.of_subscription rfl rfl rfl fun _ _ _ _ => rfl
      · exact herase.of_subscription rfl rfl rfl fun _ _ _ hf => by cases hf
  | reconnected hloop impl htask =>
    have herase : Tables ({ k with tasks := k.tasks.erase (.reconnectOnServiceDisconnection impl) } : Client S) c :=
      h.of_subscription rfl rfl rfl fun _ _ _ _ => rfl
    unfold reconnectOnServiceDisconnection
    split
    · exact beginConnect_tables herase
    · exact herase
  | watched impl weaved hframe success =>
    unfold registerForDeathNotifications
    split
    · refine onWeaveServiceDisconnected_tables ?_ impl
      exact h.of_subscription rfl rfl rfl fun _ _ _ hf => by cases hf
    · exact h.of_subscription rfl rfl rfl fun _ _ _ hf => by cases hf
  | noticed notification hn =>
    refine onWeaveServiceDisconnected_tables ?_ notification.impl
    exact h.of_subscription rfl rfl rfl fun _ _ _ _ => rfl

theorem connectManager_tables (h : Tables k c) (impl weaved : ℕ) : Tables (k.connectManager c impl weaved) c := by
  unfold connectManager
  split
  · exact h
  · rename_i service hlock
    obtain ⟨hs, -⟩ := lock_eq_some.1 hlock
    refine h.of_same (fun _ => rfl) le_rfl (fun x hx => ?_) (fun _ _ _ hf => by cases hf) fun command hmem => ?_
    · cases hx
      exact (h.owned service hs).of_same le_rfl (fun _ => rfl) rfl rfl rfl
    · rcases List.mem_cons.1 hmem with heq | hmem
      · cases heq
      · exact hmem

/-- The service an object gets is the one made for it. -/
theorem onServiceConnected_tables (h : Tables k c) {client : WeaveClient} {service : WeaveService}
    (hc : client.client = c) (hservice : service.service.client = client) :
    Tables (k.onServiceConnected client service) c := by
  unfold onServiceConnected
  split
  · exact h
  · rename_i impl hlock
    obtain ⟨hs, hid⟩ := lock_eq_some.1 hlock
    refine h.of_same (fun _ => rfl) le_rfl (fun x hx => ?_) (fun _ _ _ _ => rfl) fun command hmem => ?_
    · cases hx
      have hold := h.owned impl hs
      refine ⟨hold.bound, hold.table, fun service' hservice' => ?_⟩
      cases hservice'
      rw [hservice]
      exact ⟨hc, hid.symm⟩
    · rcases List.mem_cons.1 hmem with heq | hmem
      · cases heq
      · exact hmem

/-- The entry is in the table when its registration begins. -/
theorem added_adding (k : Client S) (impl : ServiceImpl) (service : WeaveService) (entry : CommandHandlerEntry)
    (g : ℕ) : (k.adding impl service entry).added g = k.added g ++ if impl.id = g then [entry] else [] := by
  have hlog : (k.adding impl service entry).log = .addCommandHandler impl.id entry :: k.log := rfl
  unfold added
  rw [hlog, List.filterMap_cons]
  by_cases hg : impl.id = g
  · have hentry : (ClientEffect.addCommandHandler impl.id entry).entry g = some entry := if_pos hg
    rw [hentry, if_pos hg]
    exact List.reverse_cons
  · have hentry : (ClientEffect.addCommandHandler impl.id entry).entry g = none := if_neg hg
    rw [hentry, if_neg hg, List.append_nil]

theorem adding_tables (h : Tables k c) {impl : ServiceImpl} (howned : k.owned = some impl) {service : WeaveService}
    (hservice : impl.weaveService = some service) {entry : CommandHandlerEntry}
    (hnamed : NulFree entry.component ∧ NulFree entry.commandName) : Tables (k.adding impl service entry) c := by
  have hold := h.owned impl howned
  refine ⟨fun x hx => ?_, fun g hg => ?_, fun service' component command hframe => ?_, fun g x hx => ?_,
    fun command hmem => ?_⟩
  · cases hx
    refine ⟨hold.bound, ?_, hold.service⟩
    rw [added_adding, if_pos rfl, ← hold.table]
  · have hlt : impl.id < g := lt_of_lt_of_le hold.bound hg
    rw [added_adding, if_neg hlt.ne, h.fresh g hg]
    rfl
  · cases hframe
    obtain ⟨hclient, himpl⟩ := hold.service service hservice
    refine ⟨hclient, entry, ?_, rfl, rfl⟩
    rw [added_adding, if_pos himpl.symm]
    exact List.mem_append_right _ (List.mem_singleton.2 rfl)
  · rw [added_adding] at hx
    rcases List.mem_append.1 hx with hx | hx
    · exact h.named g x hx
    · split at hx
      · rw [List.mem_singleton.1 hx]
        exact hnamed
      · cases hx
  · rcases List.mem_cons.1 hmem with heq | hmem
    · cases heq
    · exact h.expected command hmem

/-- What `onCommand` does with a command that the `ServiceImpl` has registered. -/
theorem onCommand_eq (h : Tables k c) {client : WeaveClient} {entry : CommandHandlerEntry}
    (hentry : entry ∈ k.added client.serviceImpl) (command : ℕ) :
    (k.lock client.serviceImpl = none ∧
      k.onCommand client (S.ToString16 entry.component) (S.ToString16 entry.commandName) command =
        k.emit (.abort command "service_unavailable" "Command handler is unavailable")) ∨
    ∃ impl first, k.lock client.serviceImpl = some impl ∧
      (k.added client.serviceImpl).find? (fun x => x.component = entry.component ∧ x.commandName = entry.commandName) =
        some first ∧
      k.onCommand client (S.ToString16 entry.component) (S.ToString16 entry.commandName) command =
        k.emit (.runHandler first.callback command) := by
  obtain ⟨hcomponent, hcommand⟩ := h.named _ entry hentry
  unfold onCommand
  rw [S.toString_toString16 hcomponent, S.toString_toString16 hcommand]
  cases hlock : k.lock client.serviceImpl with
  | none => exact .inl ⟨rfl, rfl⟩
  | some impl =>
    right
    obtain ⟨hs, hid⟩ := lock_eq_some.1 hlock
    -- the entry itself is a match, so there is a first one
    obtain ⟨first, hfirst⟩ : ∃ first, (k.added client.serviceImpl).find?
        (fun x => x.component = entry.component ∧ x.commandName = entry.commandName) = some first := by
      rw [← Option.isSome_iff_exists, List.find?_isSome]
      exact ⟨entry, hentry, by simp⟩
    have htable : findHandler impl.commandHandlers entry.component entry.commandName = some first := by
      rw [(h.owned impl hs).table, hid]
      exact hfirst
    refine ⟨impl, first, rfl, hfirst, ?_⟩
    dsimp only
    rw [htable]

theorem onCommand_tables (h : Tables k c) {client : WeaveClient} {entry : CommandHandlerEntry}
    (hentry : entry ∈ k.added client.serviceImpl) (command : ℕ) :
    Tables (k.onCommand client (S.ToString16 entry.component) (S.ToString16 entry.commandName) command) c ∧
      ∀ impl, (k.onCommand client (S.ToString16 entry.component) (S.ToString16 entry.commandName) command).added impl =
        k.added impl := by
  have hemit : ∀ e : ClientEffect, (∀ impl, e.entry impl = none) → (∀ command, e ≠ .unexpectedCommand command) →
      Tables (k.emit e) c ∧ ∀ impl, (k.emit e).added impl = k.added impl := by
    intro e he hne
    have hadded : ∀ impl, (k.emit e).added impl = k.added impl := fun impl => added_emit (he impl)
    refine ⟨h.of_same hadded le_rfl (fun impl hs => ?_) (fun _ _ _ _ => rfl) fun command hmem => ?_, hadded⟩
    · exact (h.owned impl hs).of_same le_rfl hadded rfl rfl rfl
    · rcases List.mem_cons.1 hmem with heq | hmem
      · exact absurd heq.symm (hne command)
      · exact hmem
  rcases onCommand_eq h hentry command with ⟨-, heq⟩ | ⟨impl, first, -, -, heq⟩
  · rw [heq]
    exact hemit _ (fun _ => rfl) fun _ => by simp
  · rw [heq]
    exact hemit _ (fun _ => rfl) fun _ => by simp

end Client

namespace Manager

variable {S : Strings} {m : Manager}

/-- A call that hands a client the service made for it. -/
def IsAnswer (call : ClientCall S) : Prop :=
  ∃ client service, call = .onServiceConnected client service ∧ service.client = client

theorem createServices_answers (device : Device) (watch : WeaveClient → Bool) (clients : List WeaveClient) :
    ∀ m : Manager, ∀ call ∈ (createServices (S := S) device watch m clients).2, IsAnswer call := by
  induction clients with
  | nil =>
    intro m call hcall
    cases hcall
  | cons client clients ih =>
    intro m call hcall
    rcases List.mem_cons.1 hcall with rfl | hcall
    · exact ⟨client, _, rfl, rfl⟩
    · exact ih _ call hcall

/-- Commands come to the handlers the device had before. -/
def KeepsHandlers (m m' : Manager) : Prop :=
  ∀ device' handler service, m'.device = some device' → handler ∈ device'.handlers →
    handler.target = .onCommand service → ∃ device, m.device = some device ∧ handler ∈ device.handlers

theorem KeepsHandlers.of_device {m' : Manager} (h : m'.device = m.device) : KeepsHandlers m m' :=
  fun device' _ _ hdevice hhandler _ => ⟨device', h ▸ hdevice, hhandler⟩

theorem connect_answers (client : WeaveClient) (watch : WeaveClient → Bool) :
    ∀ call ∈ (m.connect (S := S) client watch).2, IsAnswer call := by
  unfold connect
  dsimp only
  split
  · exact createServices_answers _ _ _ _
  · exact fun call hcall => by cases hcall

theorem createDevice_answers (watch : WeaveClient → Bool) :
    ∀ call ∈ (m.createDevice (S := S) watch).2, IsAnswer call := by
  unfold createDevice
  split
  · exact fun call hcall => by cases hcall
  · exact createServices_answers _ _ _ _

theorem createDevice_keeps (watch : WeaveClient → Bool) : KeepsHandlers m (m.createDevice (S := S) watch).1 := by
  unfold createDevice
  split
  · exact .of_device rfl
  · -- the only handler is the daemon's own
    intro device' handler service hdevice hhandler htarget
    rw [createServicesForClients, createServices_device] at hdevice
    cases hdevice
    rw [List.mem_singleton.1 hhandler] at htarget
    cases htarget

theorem registerCommandHandler_handlers {m' : Manager} {service : BinderWeaveService}
    {component command : S.String16} (h : m.registerCommandHandler service component command = some m')
    {device' : Device} (hdevice' : m'.device = some device') {handler : CommandHandler}
    (hhandler : handler ∈ device'.handlers) :
    (∃ device, m.device = some device ∧ handler ∈ device.handlers) ∨
      handler = ⟨S.ToString component, S.ToString command, .onCommand service⟩ := by
  obtain ⟨device, hdevice, rfl⟩ := registerCommandHandler_cases h
  cases hdevice'
  rcases List.mem_append.1 hhandler with hhandler | hhandler
  · exact .inl ⟨device, hdevice, hhandler⟩
  · exact .inr (List.mem_singleton.1 hhandler)

end Manager

namespace System

variable {S : Strings} {s t : System S} {e : Event S}

/-- The `ServiceImpl` of the client has an entry for the command. -/
def Added (s : System S) (client : WeaveClient) (component command : String) : Prop :=
  ∃ entry ∈ (s.clients client.client).added client.serviceImpl,
    component = entry.component ∧ command = entry.commandName

/-- The names in a call of `AddCommandHandler` are not empty and have no NUL. -/
def Named : Event S → Prop
  | .addCommandHandler _ component traitName commandName _ =>
    ∀ name ∈ [component, traitName, commandName], name ≠ "" ∧ NulFree name
  | _ => True

/-- Every handler and every message goes back to an entry. -/
structure Routed (s : System S) : Prop where
  tables : ∀ c, Client.Tables (s.clients c) c
  answer : ∀ client service, .onServiceConnected client service ∈ s.inFlight → service.service.client = client
  handler : ∀ manager device handler service, s.weaved = some manager → manager.device = some device →
    handler ∈ device.handlers → handler.target = .onCommand service →
    s.Added service.client handler.component handler.command
  command : ∀ client componentName commandName command,
    .onCommand client componentName commandName command ∈ s.inFlight → ∃ component name,
      s.Added client component name ∧ componentName = S.ToString16 component ∧ commandName = S.ToString16 name

theorem Routed.setClient (h : Routed s) {c : ℕ} {k : Client S} (hk : Client.Tables k c)
    (hadded : ∀ impl, ∀ entry ∈ (s.clients c).added impl, entry ∈ k.added impl) : Routed (s.setClient c k) := by
  have hgrows : ∀ client component command, s.Added client component command →
      (s.setClient c k).Added client component command := by
    rintro client component command ⟨entry, hentry, hcomponent, hcommand⟩
    refine ⟨entry, ?_, hcomponent, hcommand⟩
    by_cases hc : client.client = c
    · rw [hc, setClient_self]
      rw [hc] at hentry
      exact hadded _ entry hentry
    · rw [setClient_ne hc]
      exact hentry
  refine ⟨fun d => ?_, h.answer, fun manager device handler service hw hd hh ht => ?_,
    fun client componentName commandName command hm => ?_⟩
  · by_cases hd : d = c
    · rw [hd, setClient_self]
      exact hk
    · rw [setClient_ne hd]
      exact h.tables d
  · exact hgrows _ _ _ (h.handler manager device handler service hw hd hh ht)
  · obtain ⟨component, name, hadd, hnames⟩ := h.command client componentName commandName command hm
    exact ⟨component, name, hgrows _ _ _ hadd, hnames⟩

/-- The thread of the client is back in its message loop. -/
theorem Routed.messageLoop (h : Routed s) (c : ℕ) :
    Routed (s.setClient c { s.clients c with frame := .messageLoop }) := by
  refine h.setClient ?_ fun g entry hentry => hentry
  exact (h.tables c).of_subscription rfl rfl rfl fun _ _ _ hf => by cases hf

theorem Routed.take (h : Routed s) (message : Message S) : Routed (s.take message) where
  tables := h.tables
  answer client service hm := h.answer client service (List.mem_of_mem_erase hm)
  handler := h.handler
  command client componentName commandName command hm :=
    h.command client componentName commandName command (List.mem_of_mem_erase hm)

/-- A call to weaved. -/
theorem Routed.send (h : Routed s) {message : Message S}
    (hanswer : ∀ client service, message ≠ .onServiceConnected client service)
    (hcommand : ∀ client componentName commandName command,
      message ≠ .onCommand client componentName commandName command) : Routed (s.send message) where
  tables := h.tables
  answer client service hm := by
    rcases List.mem_append.1 hm with hm | hm
    · exact h.answer client service hm
    · exact absurd (List.mem_singleton.1 hm).symm (hanswer client service)
  handler := h.handler
  command client componentName commandName command hm := by
    rcases List.mem_append.1 hm with hm | hm
    · exact h.command client componentName commandName command hm
    · exact absurd (List.mem_singleton.1 hm).symm (hcommand client componentName commandName command)

theorem Routed.setWeaved (h : Routed s) {manager : Manager} (hw : s.weaved = some manager)
    {r : Manager × List (ClientCall S)} (hkeeps : Manager.KeepsHandlers manager r.1)
    (hcalls : ∀ call ∈ r.2, Manager.IsAnswer call ∨ ∃ client component name command,
      s.Added client component name ∧
        call = .onCommand client (S.ToString16 component) (S.ToString16 name) command) :
    Routed (s.setWeaved r) where
  tables := h.tables
  answer client service hm := by
    rcases List.mem_append.1 hm with hm | hm
    · exact h.answer client service hm
    · obtain ⟨call, hcall, hsent⟩ := List.mem_map.1 hm
      rcases hcalls call hcall with ⟨client', service', rfl, hclient⟩ | ⟨_, _, _, _, -, rfl⟩
      · cases hsent
        exact hclient
      · cases hsent
  handler manager' device' handler service hw' hd hh ht := by
    cases hw'
    obtain ⟨device, hdevice, hold⟩ := hkeeps device' handler service hd hh ht
    exact h.handler manager device handler service hw hdevice hold ht
  command client componentName commandName command hm := by
    rcases List.mem_append.1 hm with hm | hm
    · exact h.command client componentName commandName command hm
    · obtain ⟨call, hcall, hsent⟩ := List.mem_map.1 hm
      rcases hcalls call hcall with ⟨client', service', rfl, -⟩ | ⟨_, component, name, _, hadded, rfl⟩
      · cases hsent
      · cases hsent
        exact ⟨component, name, hadded, rfl, rfl⟩

theorem WeavedStep.routed {manager : Manager} {r : Manager × List (ClientCall S)} (hr : WeavedStep manager r)
    (h : Routed s) (hw : s.weaved = some manager) : Routed (s.setWeaved r) := by
  cases hr with
  | created watch =>
    exact h.setWeaved hw (Manager.createDevice_keeps watch) fun call hcall =>
      .inl (Manager.createDevice_answers watch call hcall)
  | disconnected client => exact h.setWeaved hw (.of_device rfl) fun call hcall => by cases hcall
  | gone service => exact h.setWeaved hw (.of_device rfl) fun call hcall => by cases hcall
  | command device hdevice handler hhandler command =>
    refine h.setWeaved hw (.of_device rfl) fun call hcall => .inr ?_
    unfold Manager.runHandler at hcall
    split at hcall
    · cases hcall
    · rename_i service htarget
      split at hcall
      · cases hcall
      · rw [List.mem_singleton.1 hcall]
        exact ⟨_, _, _, _, h.handler manager device handler service hw hdevice hhandler htarget, rfl⟩

theorem newEntry_named {c : ℕ} {component traitName commandName : String} {callback : ℕ}
    (h : Named (S := S) (.addCommandHandler c component traitName commandName callback)) :
    Client.newEntry component traitName commandName callback =
      ⟨component, traitName ++ "." ++ commandName, callback⟩ := by
  have htrait : NulFree traitName := (h traitName (by simp)).2
  have hcommand : NulFree commandName := (h commandName (by simp)).2
  unfold Client.newEntry Client.fullCommandName
  rw [cStr_eq htrait, cStr_eq hcommand]

/-- **Every step keeps the routes.** -/
theorem Step.routed (hstep : Step s e t) (hnamed : Named e) (h : Routed s) : Routed t := by
  cases hstep with
  | started hw =>
    refine ⟨h.tables, h.answer, fun manager device handler service hw' hd _ _ => ?_, h.command⟩
    cases hw'
    cases hd
  | died => exact ⟨h.tables, h.answer, fun manager device handler service hw' _ _ _ => (by cases hw'), h.command⟩
  | weaved manager hw r hr => exact hr.routed h hw
  | client c k hk =>
    refine h.setClient (hk.tables (h.tables c)) fun impl entry hentry => ?_
    rw [Client.added_of_log hk.log_eq]
    exact hentry
  | adds c component traitName commandName callback he hloop impl service howned hservice =>
    subst he
    have hcomponent : NulFree component := (hnamed component (by simp)).2
    have hname : NulFree (Client.fullCommandName traitName commandName) := by
      unfold Client.fullCommandName
      exact ((nulFree_cStr _).append (by decide)).append (nulFree_cStr _)
    refine h.setClient (Client.adding_tables (h.tables c) howned hservice ⟨hcomponent, hname⟩) fun g entry hentry => ?_
    rw [Client.added_adding]
    exact List.mem_append_left _ hentry
  | asks c impl weaved hframe =>
    have hset := h.setClient (Client.connectManager_tables (h.tables c) impl weaved) fun g entry hentry => by
      unfold Client.connectManager
      split
      · exact hentry
      · exact hentry
    exact hset.send (fun _ _ => by simp) fun _ _ _ _ => by simp
  | listens c impl weaved hframe => exact (h.messageLoop c).send (fun _ _ => by simp) fun _ _ _ _ => by simp
  | registers c service component command hframe manager manager' hw hservice hr =>
    have hset := h.messageLoop c
    refine ⟨hset.tables, hset.answer, fun manager₁ device' handler service' hw' hd hh ht => ?_, hset.command⟩
    cases hw'
    rcases Manager.registerCommandHandler_handlers hr hd hh with ⟨device, hdevice, hold⟩ | rfl
    · exact hset.handler manager device handler service' hw hdevice hold ht
    · -- the new handler is the entry the client is in the middle of registering
      cases ht
      obtain ⟨hclient, entry, hentry, rfl, rfl⟩ := (h.tables c).registering _ _ _ hframe
      obtain ⟨hcomponent, hname⟩ := (h.tables c).named _ entry hentry
      refine ⟨entry, ?_, S.toString_toString16 hcomponent, S.toString_toString16 hname⟩
      rw [hclient]
      have hself := setClient_self (s := s) c { s.clients c with frame := .messageLoop }
      dsimp only
      rw [hself]
      exact hentry
  | lost message => exact h.take message
  | connectArrives weaved client hm manager hw watch =>
    exact (h.take _).setWeaved hw (.of_device (Manager.connect_device client watch)) fun call hcall =>
      .inl (Manager.connect_answers client watch call hcall)
  | listenerArrives message listener manager hw =>
    exact (h.take message).setWeaved hw (.of_device rfl) fun call hcall => by cases hcall
  | serviceArrives client service hm hloop =>
    refine (h.take _).setClient (Client.onServiceConnected_tables (h.tables _) rfl (h.answer _ _ hm))
      fun g entry hentry => ?_
    unfold Client.onServiceConnected
    split
    · exact hentry
    · exact hentry
  | commandArrives client componentName commandName command hm hloop =>
    obtain ⟨component, name, ⟨entry, hentry, rfl, rfl⟩, rfl, rfl⟩ := h.command _ _ _ _ hm
    obtain ⟨htables, hadded⟩ := Client.onCommand_tables (h.tables _) hentry command
    refine (h.take _).setClient htables fun g x hx => ?_
    rw [hadded]
    exact hx

theorem start_routed : Routed ({} : System S) where
  tables c := ⟨fun impl h => (by cases h), fun _ _ => rfl, fun _ _ _ h => (by cases h), fun _ _ h => (by cases h),
    fun _ h => (by cases h)⟩
  answer _ _ h := by cases h
  handler _ _ _ _ h := by cases h
  command _ _ _ _ h := by cases h

theorem reach_routed (h : (machine S).ReachIf (fun _ e => Named e) s) : Routed s := by
  refine Machine.ReachIf.invariant ?_ ?_ h
  · rintro s rfl
    exact start_routed
  · intro s e t _ hrouted hnamed hn
    exact (next_step hn).routed hnamed hrouted

/-- A handler of the device sends the command to the client of its service. -/
theorem next_command {manager : Manager} {device : Device} {handler : CommandHandler} {service : BinderWeaveService}
    (hw : s.weaved = some manager) (hd : manager.device = some device) (hh : handler ∈ device.handlers)
    (ht : handler.target = .onCommand service) (hgone : service ∉ manager.gone) (command : ℕ) :
    s.next (.command handler command) = some (s.send
      (.onCommand service.client (S.ToString16 handler.component) (S.ToString16 handler.command) command)) := by
  have hex : ∃ device ∈ manager.device, handler ∈ device.handlers := ⟨device, hd, hh⟩
  have hcalls : manager.runHandler (S := S) handler command =
      [.onCommand service.client (S.ToString16 handler.component) (S.ToString16 handler.command) command] := by
    unfold Manager.runHandler
    rw [ht]
    exact if_neg hgone
  simp only [next, hw, Option.bind_some]
  rw [if_pos hex, hcalls]
  cases s
  cases hw
  rfl

/-- A message in flight can be handled by a client that is in its message loop. -/
theorem next_onCommand {client : WeaveClient} {componentName commandName : S.String16} {command : ℕ}
    (hm : .onCommand client componentName commandName command ∈ s.inFlight)
    (hrun : (s.clients client.client).running = true) (hloop : (s.clients client.client).frame = .messageLoop)
    (watch : WeaveClient → Bool) :
    s.next (.handle (.onCommand client componentName commandName command) watch) =
      some ((s.take (.onCommand client componentName commandName command)).setClient client.client
        ((s.clients client.client).onCommand client componentName commandName command)) := by
  simp only [next]
  rw [if_pos hm]
  simp only [handle, handleByClient, hrun, hloop]
  rfl

/-- A call of `AddCommandHandler` that does not end the process adds one entry. -/
theorem next_addCommandHandler {c : ℕ} {component traitName commandName : String} {callback : ℕ}
    (hnamed : Named (S := S) (.addCommandHandler c component traitName commandName callback))
    (h : s.next (.addCommandHandler c component traitName commandName callback) = some t)
    (hrun : (t.clients c).running = true) : ∃ impl, (s.clients c).owned = some impl ∧
      ∀ g, (t.clients c).added g = (s.clients c).added g ++
        if impl.id = g then [⟨component, traitName ++ "." ++ commandName, callback⟩] else [] := by
  simp only [next] at h
  obtain ⟨-, -, k, hk, rfl⟩ := clientEvent_cases h
  rw [setClient_self] at hrun ⊢
  rcases Client.addCommandHandler_cases hk with rfl | ⟨impl, service, howned, -, rfl⟩
  · cases hrun
  · rw [newEntry_named hnamed]
    exact ⟨impl, howned, Client.added_adding _ impl service _⟩

/-- **Commands reach exactly the right handler.** In every run in which the names in use
have no NUL: `AddCommandHandler` adds one entry for its component and trait.command. A command
for a handler of a client goes to that client, as one message and for an entry of its
`ServiceImpl`. Handling the message changes nothing but that client, and has one effect. If
the `ServiceImpl` is still there, this runs the callback of its first entry for the command;
otherwise it aborts the command. -/
theorem command_delivered (h : (machine S).ReachIf (fun _ e => Named e) s) :
    (∀ c component traitName commandName callback t,
      Named (S := S) (.addCommandHandler c component traitName commandName callback) →
      s.next (.addCommandHandler c component traitName commandName callback) = some t →
      (t.clients c).running = true → ∃ impl, (s.clients c).owned = some impl ∧
        ∀ g, (t.clients c).added g = (s.clients c).added g ++
          if impl.id = g then [⟨component, traitName ++ "." ++ commandName, callback⟩] else []) ∧
    (∀ manager device handler service command, s.weaved = some manager → manager.device = some device →
      handler ∈ device.handlers → handler.target = .onCommand service → service ∉ manager.gone →
      s.Added service.client handler.component handler.command ∧
        s.next (.command handler command) = some (s.send (.onCommand service.client
          (S.ToString16 handler.component) (S.ToString16 handler.command) command))) ∧
    ∀ client componentName commandName command watch,
      .onCommand client componentName commandName command ∈ s.inFlight →
      (s.clients client.client).running = true → (s.clients client.client).frame = .messageLoop →
      ∃ component name effect, s.Added client component name ∧ componentName = S.ToString16 component ∧
        commandName = S.ToString16 name ∧
        s.next (.handle (.onCommand client componentName commandName command) watch) =
          some ((s.take (.onCommand client componentName commandName command)).setClient client.client
            ((s.clients client.client).emit effect)) ∧
        (((s.clients client.client).lock client.serviceImpl = none ∧
            effect = .abort command "service_unavailable" "Command handler is unavailable") ∨
          ∃ impl entry, (s.clients client.client).lock client.serviceImpl = some impl ∧
            ((s.clients client.client).added client.serviceImpl).find?
              (fun x => x.component = component ∧ x.commandName = name) = some entry ∧
            effect = .runHandler entry.callback command) := by
  have hrouted := reach_routed h
  refine ⟨fun c component traitName commandName callback t hnamed hn hrun => next_addCommandHandler hnamed hn hrun,
    fun manager device handler service command hw hd hh ht hgone => ?_,
    fun client componentName commandName command watch hm hrun hloop => ?_⟩
  · exact ⟨hrouted.handler manager device handler service hw hd hh ht, next_command hw hd hh ht hgone command⟩
  · have hnext := next_onCommand hm hrun hloop watch
    obtain ⟨component, name, hadded, rfl, rfl⟩ := hrouted.command _ _ _ _ hm
    obtain ⟨entry, hentry, rfl, rfl⟩ := id hadded
    rcases Client.onCommand_eq (hrouted.tables _) hentry command with ⟨hlock, heq⟩ | ⟨impl, first, hlock, hfirst, heq⟩
    · rw [heq] at hnext
      exact ⟨_, _, _, hadded, rfl, rfl, hnext, .inl ⟨hlock, rfl⟩⟩
    · rw [heq] at hnext
      exact ⟨_, _, _, hadded, rfl, rfl, hnext, .inr ⟨impl, first, hlock, hfirst, rfl⟩⟩

/-- The connected client registers a handler and a command for it comes. -/
def commandRun : List (Event Strings.plain) :=
  connectedRun ++ [.addCommandHandler 0 "lock" "lock" "setConfig" 7, .resume 0 true,
    .command ⟨"lock", "lock.setConfig", .onCommand ⟨0, 0, ⟨0, 0, 0⟩⟩⟩ 5]

theorem commandRun_named : ∀ e ∈ commandRun, Named e := by
  simp only [commandRun, connectedRun, List.cons_append, List.nil_append, List.forall_mem_cons, Named,
    List.not_mem_nil, false_imp_iff, implies_true, and_true, true_and]
  decide

theorem commandRun_ends : ∃ s, (machine Strings.plain).run {} commandRun = some s ∧
    s.inFlight = [.registerNotificationListener 1 ⟨0, 0⟩,
      .onCommand ⟨0, 0, 0⟩ "lock" "lock.setConfig" 5] ∧
    (s.clients 0).running = true ∧ (s.clients 0).frame = .messageLoop := by
  exact ⟨_, rfl, rfl, rfl, rfl⟩

theorem command_delivered_test : ∃ s : System Strings.plain,
    .onCommand ⟨0, 0, 0⟩ "lock" "lock.setConfig" 5 ∈ s.inFlight ∧
      ∃ component name, s.Added ⟨0, 0, 0⟩ component name := by
  obtain ⟨s, hrun, hflight, hrunning, hloop⟩ := commandRun_ends
  have hreach := Machine.run_reachIf (.start rfl) commandRun_named hrun
  have hm : .onCommand ⟨0, 0, 0⟩ "lock" "lock.setConfig" 5 ∈ s.inFlight := by
    rw [hflight]
    exact List.mem_cons_of_mem _ (List.mem_singleton.2 rfl)
  obtain ⟨component, name, -, hadded, -⟩ :=
    (command_delivered hreach).2.2 ⟨0, 0, 0⟩ "lock" "lock.setConfig" 5 (fun _ => true) hm hrunning hloop
  exact ⟨s, hm, component, name, hadded⟩

end System

end SystemWeaved
