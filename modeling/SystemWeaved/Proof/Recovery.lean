import SystemWeaved.Lib.Leads
import SystemWeaved.Proof.Subscription

/-!
# A subscription can always be served

From every state in which a client has a subscription it can be connected again: whatever has
been lost, no state is a dead end. `recovers` gives a way of at most 13 events, which is that of
a restart of weaved.

* `leaves_tryConnecting`: the client gets back to its message loop.
* `goes_down`, `looks_again`: if weaved dies, a `TryConnecting` task is queued in the end.
* `gets_connected`: and that task leads to a connection with the next weaved.
-/

namespace SystemWeaved

namespace System

variable {S : Strings} {s t : System S} {c m n : ℕ} {k k' : Client S}

/-- The client has been handed a service of the running weaved, which has its device. -/
structure Served (s : System S) (c : ℕ) : Prop where
  running : (s.clients c).running = true
  served : ∃ impl service manager device, (s.clients c).owned = some impl ∧ impl.weaveService = some service ∧
    ClientEffect.connectionCallback impl.id ∈ (s.clients c).log ∧
    s.weaved = some manager ∧ service.weaved = s.starts ∧ manager.device = some device ∧
    service.service ∈ manager.made ∧ service.service.device = device.id

/-- At most `n` events make `k` of the client. They leave weaved alone and handle no call. -/
structure Becomes (n : ℕ) (s t : System S) (c : ℕ) (k : Client S) : Prop where
  leads : (machine S).LeadsIn n s t
  client : t.clients c = k
  weaved : t.weaved = s.weaved
  starts : t.starts = s.starts
  inFlight : ∀ message ∈ s.inFlight, message ∈ t.inFlight

theorem Becomes.trans (h : Becomes m s t c k) {u : System S} (h' : Becomes n t u c k') : Becomes (m + n) s u c k' where
  leads := h.leads.trans h'.leads
  client := h'.client
  weaved := h'.weaved.trans h.weaved
  starts := h'.starts.trans h.starts
  inFlight message hm := h'.inFlight message (h.inFlight message hm)

/-- One event that is only about the client. -/
theorem Becomes.one {e : Event S} (h : s.next e = some (s.setClient c k)) : Becomes 1 s (s.setClient c k) c k where
  leads := .one h
  client := setClient_self c k
  weaved := rfl
  starts := rfl
  inFlight _ hm := hm

/-- One that sends a call, too. -/
theorem Becomes.sends {e : Event S} {m : Message S} (h : s.next e = some ((s.setClient c k).send m)) :
    Becomes 1 s ((s.setClient c k).send m) c k where
  leads := .one h
  client := setClient_self c k
  weaved := rfl
  starts := rfl
  inFlight _ hm := List.mem_append_left _ hm

/-! ## What a client can do -/

/-- `RegisterForDeathNotifications` succeeds or fails. -/
theorem watches {g weaved : ℕ} (hrun : (s.clients c).running = true)
    (hframe : (s.clients c).frame = .gotService g weaved) (success : Bool) :
    ∃ t, Becomes 1 s t c ((s.clients c).registerForDeathNotifications g weaved success) := by
  refine ⟨_, .one (e := .resume c success) ?_⟩
  show s.resume c success = _
  unfold resume
  simp only [hrun, hframe]

/-- The client after its call of `connect`. -/
def asking (k : Client S) (c : ℕ) (impl : ServiceImpl) (weaved : ℕ) : Client S :=
  (({ k with weaveClients := k.weaveClients + 1, frame := .connected impl.id weaved } : Client S).setOwned
    { impl with weaveServiceManager := some weaved }).emit (.connect weaved (k.makeWeaveClient c impl.id))

theorem asks {weaved : ℕ} {impl : ServiceImpl} (hrun : (s.clients c).running = true)
    (howned : (s.clients c).owned = some impl) (hframe : (s.clients c).frame = .watchesService impl.id weaved) :
    ∃ t, Becomes 1 s t c (asking (s.clients c) c impl weaved) ∧
      .connect weaved ((s.clients c).makeWeaveClient c impl.id) ∈ t.inFlight := by
  have hconnect : (s.clients c).connectManager c impl.id weaved = asking (s.clients c) c impl weaved := by
    unfold Client.connectManager
    rw [Client.lock_eq_some.2 ⟨howned, rfl⟩]
    rfl
  refine ⟨_, .sends (e := .resume c true) ?_, List.mem_append_right _ (List.mem_singleton_self _)⟩
  show s.resume c true = _
  unfold resume
  simp only [hrun, hframe, hconnect]

/-- The last call of `TryConnecting`. -/
theorem listens {g weaved : ℕ} (hrun : (s.clients c).running = true)
    (hframe : (s.clients c).frame = .connected g weaved) :
    ∃ t, Becomes 1 s t c { s.clients c with frame := .messageLoop } := by
  refine ⟨_, .sends (e := .resume c true) (m := .registerNotificationListener weaved ⟨c, g⟩) ?_⟩
  show s.resume c true = _
  unfold resume
  simp only [hrun, hframe]

/-- A task is run. -/
theorem runs {task : ClientTask} (hrun : (s.clients c).running = true)
    (hframe : (s.clients c).frame = .messageLoop) (htask : task ∈ (s.clients c).tasks) (found : Bool) :
    s.runTask c task found = some (s.setClient c
      (match task with
      | .tryConnecting impl => Client.tryConnecting { s.clients c with tasks := (s.clients c).tasks.erase task } impl
          (if found && s.weaved.isSome then some s.starts else none)
      | .reconnectOnServiceDisconnection impl => Client.reconnectOnServiceDisconnection
          { s.clients c with tasks := (s.clients c).tasks.erase task } impl)) := by
  unfold runTask
  dsimp only
  split
  · rw [if_pos htask]
    cases task <;> rfl
  · rename_i hne
    exact absurd hframe (hne hrun)

/-- `ReconnectOnServiceDisconnection` starts anew. -/
theorem reconnects {impl : ServiceImpl} (hrun : (s.clients c).running = true)
    (hframe : (s.clients c).frame = .messageLoop) (howned : (s.clients c).owned = some impl)
    (htask : (s.clients c).Reconnects impl.id) :
    ∃ t, Becomes 1 s t c (Client.beginConnect
      { s.clients c with tasks := (s.clients c).tasks.erase (.reconnectOnServiceDisconnection impl.id) }) := by
  have hlock : Client.lock { s.clients c with
      tasks := (s.clients c).tasks.erase (.reconnectOnServiceDisconnection impl.id) } impl.id = some impl :=
    Client.lock_eq_some.2 ⟨howned, rfl⟩
  have hnext := runs hrun hframe htask false
  dsimp only [Client.reconnectOnServiceDisconnection] at hnext
  rw [hlock] at hnext
  exact ⟨_, .one (e := .runTask c (.reconnectOnServiceDisconnection impl.id) false) hnext⟩

/-- `TryConnecting` finds the weaved that is running. -/
theorem finds {impl : ServiceImpl} {manager : Manager} (hrun : (s.clients c).running = true)
    (hframe : (s.clients c).frame = .messageLoop) (howned : (s.clients c).owned = some impl)
    (htask : (s.clients c).TriesToConnect impl.id) (hw : s.weaved = some manager) :
    ∃ t, Becomes 1 s t c { s.clients c with
      tasks := (s.clients c).tasks.erase (.tryConnecting impl.id), frame := .gotService impl.id s.starts } := by
  have hlock : Client.lock { s.clients c with tasks := (s.clients c).tasks.erase (.tryConnecting impl.id) } impl.id =
      some impl := Client.lock_eq_some.2 ⟨howned, rfl⟩
  have hnext := runs hrun hframe htask true
  dsimp only [Client.tryConnecting] at hnext
  rw [hlock, hw] at hnext
  exact ⟨_, .one (e := .runTask c (.tryConnecting impl.id) true) hnext⟩

/-- The client is told of a death. -/
theorem notices {impl : ServiceImpl} {notification : DeathNotification} (hrun : (s.clients c).running = true)
    (howned : (s.clients c).owned = some impl) (hdead : s.weaved = none)
    (hn : notification ∈ (s.clients c).deathNotifications) (himpl : notification.impl = impl.id) :
    ∃ t, Becomes 1 s t c (Client.postTask
      { s.clients c with deathNotifications := (s.clients c).deathNotifications.erase notification }
      (.reconnectOnServiceDisconnection impl.id)) := by
  have hlock : Client.lock { s.clients c with
      deathNotifications := (s.clients c).deathNotifications.erase notification } notification.impl = some impl :=
    Client.lock_eq_some.2 ⟨howned, himpl.symm⟩
  have hguard : (s.clients c).running = true ∧ notification ∈ (s.clients c).deathNotifications ∧
      (!s.alive notification.weaved) = true := by
    refine ⟨hrun, hn, ?_⟩
    simp [alive, hdead]
  have hnext : s.next (.deathNotice c notification) = some (s.setClient c (Client.onWeaveServiceDisconnected
      { s.clients c with deathNotifications := (s.clients c).deathNotifications.erase notification }
      notification.impl)) := if_pos hguard
  unfold Client.onWeaveServiceDisconnected at hnext
  rw [hlock] at hnext
  rw [← himpl]
  exact ⟨_, .one hnext⟩

/-! ## Back to the message loop -/

/-- The client is in its message loop, with a subscription. -/
structure InLoop (s : System S) (c : ℕ) : Prop where
  running : (s.clients c).running = true
  frame : (s.clients c).frame = .messageLoop
  owned : (s.clients c).owned.isSome = true

/-- `TryConnecting` comes to its end. -/
theorem leaves_tryConnecting (hr : (machine S).Reach s) (hrun : (s.clients c).running = true)
    (howned : (s.clients c).owned.isSome = true)
    (hframe : ∀ service component command, (s.clients c).frame ≠ .registering service component command) :
    ∃ t, (machine S).LeadsIn 2 s t ∧ InLoop t c := by
  cases hf : (s.clients c).frame with
  | messageLoop => exact ⟨s, .refl s 2, hrun, hf, howned⟩
  | gotService g weaved =>
    -- the registration fails
    obtain ⟨t, ht⟩ := watches hrun hf false
    have hsame := Client.onWeaveServiceDisconnected_same ({ s.clients c with frame := .messageLoop } : Client S) g
    refine ⟨t, ht.leads.mono one_le_two, ?_⟩
    constructor
    case running =>
      rw [ht.client]
      show (Client.onWeaveServiceDisconnected { s.clients c with frame := .messageLoop } g).running = true
      unfold Client.onWeaveServiceDisconnected
      split <;> exact hrun
    case frame =>
      rw [ht.client]
      exact hsame.2.2.2.2.1
    case owned =>
      rw [ht.client]
      show (Client.onWeaveServiceDisconnected { s.clients c with frame := .messageLoop } g).owned.isSome = true
      unfold Client.owned
      rw [hsame.1]
      exact howned
  | watchesService g weaved =>
    obtain ⟨impl, himpl, rfl⟩ := ((reach_connecting hr).1 c).frame g (by rw [hf]; rfl)
    obtain ⟨t, ht, -⟩ := asks hrun himpl hf
    obtain ⟨u, hu⟩ := listens (s := t) (c := c) (by rw [ht.client]; exact hrun) (by rw [ht.client]; rfl)
    refine ⟨u, (ht.trans hu).leads, ?_⟩
    constructor
    case running => rw [hu.client, ht.client]; exact hrun
    case frame => rw [hu.client]
    case owned => rw [hu.client, ht.client]; rfl
  | connected g weaved =>
    obtain ⟨t, ht⟩ := listens hrun hf
    refine ⟨t, ht.leads.mono one_le_two, ?_⟩
    constructor
    case running => rw [ht.client]; exact hrun
    case frame => rw [ht.client]
    case owned => rw [ht.client]; exact howned
  | registering service component command => exact absurd hf (hframe service component command)

/-! ## weaved dies -/

/-- No weaved is running, and the client will look for one. -/
structure Looking (s : System S) (c : ℕ) (impl : ServiceImpl) : Prop where
  running : (s.clients c).running = true
  frame : (s.clients c).frame = .messageLoop
  owned : (s.clients c).owned = some impl
  tries : (s.clients c).TriesToConnect impl.id
  down : s.weaved = none

/-- `BeginConnect` makes a `ServiceImpl` that looks for weaved. -/
theorem Becomes.looking {k : Client S} (h : Becomes n s t c k.beginConnect) (hrun : k.running = true)
    (hframe : k.frame = .messageLoop) (hdown : s.weaved = none) : Looking t c { id := k.impls } where
  running := by rw [h.client]; exact hrun
  frame := by rw [h.client]; exact hframe
  owned := by rw [h.client]; rfl
  tries := by
    rw [h.client]
    exact List.mem_append_right _ (List.mem_singleton_self _)
  down := h.weaved.trans hdown

/-- The running weaved dies. -/
theorem goes_down (hr : (machine S).Reach s) :
    ∃ t, (machine S).LeadsIn 1 s t ∧ (machine S).Reach t ∧ t.clients = s.clients ∧ t.weaved = none := by
  cases hw : s.weaved with
  | none => exact ⟨s, .refl s 1, hr, rfl, hw⟩
  | some manager =>
    have hn : (machine S).next s .weavedDies = some { s with weaved := none } := by
      show s.weaved.map _ = _
      rw [hw, Option.map_some]
    exact ⟨_, .one hn, hr.step trivial hn, rfl, rfl⟩

theorem looks_again (hr : (machine S).Reach s) (h : InLoop s c) (hdown : s.weaved = none) :
    ∃ t impl, (machine S).LeadsIn 2 s t ∧ Looking t c impl := by
  obtain ⟨impl, howned⟩ := Option.isSome_iff_exists.1 h.owned
  have hframe : (s.clients c).frame.impl = none := by rw [h.frame]; rfl
  rcases Client.exactly_one ((reach_connecting hr).1 c) hframe howned with
    ⟨htries, -, -⟩ | ⟨-, ⟨notification, hn, himpl, -⟩, -⟩ | ⟨-, -, hre⟩
  · exact ⟨s, impl, .refl s 2, h.running, h.frame, howned, htries, hdown⟩
  · obtain ⟨t, ht⟩ := notices h.running howned hdown hn himpl
    have hrun : (t.clients c).running = true := by rw [ht.client]; exact h.running
    have hloop : (t.clients c).frame = .messageLoop := by rw [ht.client]; exact h.frame
    have howned' : (t.clients c).owned = some impl := by rw [ht.client]; exact howned
    have hre : (t.clients c).Reconnects impl.id := by
      rw [ht.client]
      exact List.mem_append_right _ (List.mem_singleton_self _)
    obtain ⟨u, hu⟩ := reconnects hrun hloop howned' hre
    exact ⟨u, _, (ht.trans hu).leads, hu.looking hrun hloop (ht.weaved.trans hdown)⟩
  · obtain ⟨t, ht⟩ := reconnects h.running h.frame howned hre
    exact ⟨t, _, ht.leads.mono one_le_two, ht.looking h.running h.frame hdown⟩

/-! ## With the next weaved -/

/-- A new weaved makes its device. -/
theorem comes_up (hdown : s.weaved = none) :
    ∃ t manager device, (machine S).LeadsIn 2 s t ∧ t.clients = s.clients ∧ t.weaved = some manager ∧
      manager.device = some device ∧ manager.pendingClients = [] := by
  have hstart : (machine S).next s .startWeaved = some { s with weaved := some {}, starts := s.starts + 1 } := by
    show s.next .startWeaved = _
    unfold next
    rw [hdown]
  have hcreate : (machine S).next { s with weaved := some {}, starts := s.starts + 1 } (.createDevice fun _ => true) =
      some (setWeaved { s with weaved := some {}, starts := s.starts + 1 }
        (Manager.createDevice {} fun _ => true)) := rfl
  exact ⟨_, (Manager.createDevice (S := S) {} fun _ => true).1,
    ⟨0, [⟨Manager.kBaseComponent, Manager.kRebootCommand, .onRebootDevice⟩]⟩,
    (Machine.LeadsIn.one hstart).trans (Machine.LeadsIn.one hcreate), rfl, rfl, rfl, rfl⟩

/-- weaved answers a client that connects. -/
theorem answers {client : WeaveClient} {manager : Manager} {device : Device} (hw : s.weaved = some manager)
    (hdevice : manager.device = some device) (hpending : manager.pendingClients = [])
    (hm : .connect s.starts client ∈ s.inFlight) :
    ∃ t manager' service, (machine S).LeadsIn 1 s t ∧ t.clients = s.clients ∧ t.starts = s.starts ∧
      t.weaved = some manager' ∧ manager'.device = some device ∧ service ∈ manager'.made ∧
      service.device = device.id ∧ .onServiceConnected client ⟨s.starts, service⟩ ∈ t.inFlight := by
  have hconnect : manager.connect (S := S) client (fun _ => true) =
      ((Manager.createService (S := S) { manager with pendingClients := [] } device (fun _ => true) client).1,
        [.onServiceConnected client ⟨manager.made.length, device.id, client⟩]) := by
    unfold Manager.connect
    dsimp only
    rw [hdevice, hpending]
    rfl
  have hnext : (machine S).next s (.handle (.connect s.starts client) fun _ => true) =
      some ((s.take (.connect s.starts client)).setWeaved (manager.connect client fun _ => true)) := by
    have hhandled : (s.take (.connect s.starts client)).handleByWeaved s.starts
        (fun manager => manager.connect client fun _ => true) =
        (s.take (.connect s.starts client)).setWeaved (manager.connect client fun _ => true) := by
      unfold handleByWeaved
      rw [show (s.take (.connect s.starts client)).weaved = some manager from hw]
      exact if_pos rfl
    exact (if_pos hm).trans (congrArg some hhandled)
  rw [hconnect] at hnext
  refine ⟨_, _, ⟨manager.made.length, device.id, client⟩, .one hnext, rfl, rfl, rfl, hdevice, ?_, rfl, ?_⟩
  · exact List.mem_append_right _ (List.mem_singleton_self _)
  · exact List.mem_append_right _ (List.mem_singleton_self _)

/-- The client is handed its service. -/
theorem hands {client : WeaveClient} {service : WeaveService} {impl : ServiceImpl}
    (hrun : (s.clients client.client).running = true) (hframe : (s.clients client.client).frame = .messageLoop)
    (howned : (s.clients client.client).owned = some impl) (himpl : client.serviceImpl = impl.id)
    (hm : .onServiceConnected client service ∈ s.inFlight) :
    ∃ t, (machine S).LeadsIn 1 s t ∧ t.weaved = s.weaved ∧ t.starts = s.starts ∧
      t.clients client.client = ((s.clients client.client).setOwned { impl with weaveService := some service }).emit
        (.connectionCallback impl.id) := by
  have hlock : (s.clients client.client).lock client.serviceImpl = some impl :=
    Client.lock_eq_some.2 ⟨howned, himpl.symm⟩
  have hnext : (machine S).next s (.handle (.onServiceConnected client service) fun _ => true) =
      some ((s.take (.onServiceConnected client service)).setClient client.client
        ((s.clients client.client).onServiceConnected client service)) := by
    have hhandled : (s.take (.onServiceConnected client service)).handleByClient client.client
        (fun k => k.onServiceConnected client service) =
        some ((s.take (.onServiceConnected client service)).setClient client.client
          ((s.clients client.client).onServiceConnected client service)) := by
      unfold handleByClient
      split
      · rename_i hdead
        exact absurd hrun (Bool.eq_false_iff.1 hdead)
      · rfl
      · rename_i hne
        exact (hne hframe).elim
    exact (if_pos hm).trans hhandled
  refine ⟨_, .one hnext, rfl, rfl, ?_⟩
  rw [setClient_self]
  unfold Client.onServiceConnected
  rw [hlock]

/-- `TryConnecting` comes to its end with a weaved that has a device. -/
theorem tries {impl : ServiceImpl} (hrun : (s.clients c).running = true)
    (hframe : (s.clients c).frame = .messageLoop) (howned : (s.clients c).owned = some impl)
    (htries : (s.clients c).TriesToConnect impl.id) {manager : Manager} (hw : s.weaved = some manager) :
    ∃ t k client, Becomes 4 s t c k ∧ k.running = true ∧ k.frame = .messageLoop ∧
      k.owned = some { impl with weaveServiceManager := some s.starts } ∧ client.client = c ∧
      client.serviceImpl = impl.id ∧ .connect s.starts client ∈ t.inFlight := by
  obtain ⟨t, ht⟩ := finds hrun hframe howned htries hw
  obtain ⟨u, hu⟩ := watches (s := t) (c := c) (by rw [ht.client]; exact hrun) (by rw [ht.client]) true
  rw [ht.client] at hu
  have howned' : (u.clients c).owned = some impl := by rw [hu.client]; exact howned
  have hwatches : (u.clients c).frame = .watchesService impl.id s.starts := by rw [hu.client]; rfl
  obtain ⟨v, hv, hm⟩ := asks (by rw [hu.client]; exact hrun) howned' hwatches
  rw [hu.client] at hv hm
  obtain ⟨w, hw⟩ := listens (s := v) (c := c) (by rw [hv.client]; exact hrun) (by rw [hv.client]; rfl)
  rw [hv.client] at hw
  exact ⟨w, _, _, ((ht.trans hu).trans hv).trans hw, hrun, rfl, rfl, rfl, rfl, hw.inFlight _ hm⟩

theorem gets_connected {impl : ServiceImpl} (h : Looking s c impl) :
    ∃ t, (machine S).LeadsIn 8 s t ∧ Served t c := by
  obtain ⟨s₁, manager, device, hup, hclients, hw, hdevice, hpending⟩ := comes_up h.down
  have howned₁ : (s₁.clients c).owned = some impl := by rw [hclients]; exact h.owned
  obtain ⟨s₂, k, client, htried, hrun, hframe, howned, hc, himpl, hm⟩ :=
    tries (by rw [hclients]; exact h.running) (by rw [hclients]; exact h.frame) howned₁
      (by rw [hclients]; exact h.tries) hw
  rw [← htried.starts] at hm
  obtain ⟨s₃, manager', service, hanswered, hclients₃, hstarts, hw', hdevice', hmade, hservice, hm'⟩ :=
    answers (htried.weaved.trans hw) hdevice hpending hm
  have hclient : s₃.clients client.client = k := by
    rw [hclients₃, hc]
    exact htried.client
  rw [← hclient] at hrun hframe howned
  obtain ⟨t, hhanded, hweaved, hstarts', hk⟩ := hands hrun hframe howned himpl hm'
  rw [hclient, hc] at hk
  rw [hclient] at hrun
  refine ⟨t, ((hup.trans htried.leads).trans hanswered).trans hhanded, ?_, ?_⟩
  · rw [hk]
    exact hrun
  · have howned' : (t.clients c).owned =
        some { impl with weaveServiceManager := some s₁.starts, weaveService := some ⟨s₂.starts, service⟩ } := by
      rw [hk]
      rfl
    refine ⟨_, _, manager', device, howned', rfl, ?_, hweaved.trans hw', ?_, hdevice', hmade, hservice⟩
    · rw [hk]
      exact List.mem_cons_self
    · exact (hstarts'.trans hstarts).symm

/-- **No state is a dead end.** From every state of every run, a running client with a
subscription that is not in a call of `AddCommandHandler` can be handed a service of a weaved
with a device, in at most 13 events: its `TryConnecting` ends, weaved dies if it runs, and the
next one is found. -/
theorem recovers (hr : (machine S).Reach s) (hrun : (s.clients c).running = true)
    (hsub : (s.clients c).subscription.isSome = true)
    (hframe : ∀ service component command, (s.clients c).frame ≠ .registering service component command) :
    ∃ t, (machine S).LeadsIn 13 s t ∧ Served t c := by
  obtain ⟨subscription, hsubscription⟩ := Option.isSome_iff_exists.1 hsub
  have howned : (s.clients c).owned.isSome = true := by
    have hservice := ((reach_connecting hr).1 c).subscribed subscription hsubscription
    unfold Client.owned
    rw [hsubscription]
    exact hservice
  obtain ⟨t, hst, ht⟩ := leaves_tryConnecting hr hrun howned hframe
  obtain ⟨u, htu, hu, hclients, hdown⟩ := goes_down (hst.reach hr)
  have hloop : InLoop u c := by
    constructor
    case running => rw [hclients]; exact ht.running
    case frame => rw [hclients]; exact ht.frame
    case owned => rw [hclients]; exact ht.owned
  obtain ⟨v, impl, huv, hv⟩ := looks_again hu hloop hdown
  obtain ⟨w, hvw, hw⟩ := gets_connected hv
  exact ⟨w, ((hst.trans htu).trans huv).trans hvw, hw⟩

/-- A client whose weaved has died before it answered. -/
def orphanedRun : List (Event Strings.plain) :=
  [.startWeaved, .serviceConnect 0, .runTask 0 (.tryConnecting 0) true, .resume 0 true, .resume 0 true,
    .handle (.connect 1 ⟨0, 0, 0⟩) fun _ => true, .weavedDies]

theorem recovers_test : ∃ s t, (machine Strings.plain).run {} orphanedRun = some s ∧
    (s.clients 0).frame = .connected 0 1 ∧ (machine Strings.plain).LeadsIn 13 s t ∧ Served t 0 := by
  have hrun : ∃ s, (machine Strings.plain).run {} orphanedRun = some s ∧ (s.clients 0).running = true ∧
      (s.clients 0).subscription.isSome = true ∧ (s.clients 0).frame = .connected 0 1 := ⟨_, rfl, rfl, rfl, rfl⟩
  obtain ⟨s, hrun, hrunning, hsub, hframe⟩ := hrun
  have hreach : (machine Strings.plain).Reach s := Machine.run_reach (.start rfl) hrun
  have hadding : ∀ service component command, (s.clients 0).frame ≠ .registering service component command := by
    intro service component command h
    cases hframe.symm.trans h
  obtain ⟨t, ht, hserved⟩ := recovers hreach hrunning hsub hadding
  exact ⟨s, t, hrun, hframe, ht, hserved⟩

end System

end SystemWeaved
