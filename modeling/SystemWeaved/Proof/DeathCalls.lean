import SystemWeaved.Proof.ClientSteps
import SystemWeaved.Proof.Subscription
import SystemWeaved.Spec.DeathCalls

/-!
# Whether registrations for death are balanced

A `ServiceImpl` registers once, with the binder of a manager, and the registration stays until
the death is delivered. Its destructor unregisters another binder, that of its service. So a
`ServiceImpl` is destroyed with its accounts settled only before it has registered or after its
death notification, and without a service.

* `account_step`: what one event adds to the account of a client.
* `next_accounted`: the registrations of a client are those delivered and those pending.
* `registrations_balanced_iff`: the accounts are balanced exactly if each subscription is destroyed
  at such a point; the reconnection always is at one.
-/

namespace SystemWeaved

/-- The `ServiceImpl` has registered and will ask weaved to connect. -/
def Frame.watches {S : Strings} (impl : ℕ) : Frame S → ℕ
  | .watchesService g _ => if g = impl then 1 else 0
  | _ => 0

/-- A registration of the `ServiceImpl`. -/
def DeathCall.isRegistration (c impl : ℕ) : DeathCall → Bool
  | .registered d g _ => d = c ∧ g = impl
  | _ => false

/-- The client that makes the call. -/
def DeathCall.client : DeathCall → ℕ
  | .registered c _ _ | .delivered c _ _ | .unregistered c _ _ | .destroyed c _ => c

/-- What is called is in order after earlier calls: what is unregistered has been registered, and
an object that is destroyed has no registration left. -/
def DeathCall.InOrder (calls : List DeathCall) : DeathCall → Prop
  | .unregistered c impl binder => .registered c impl binder ∈ calls
  | .destroyed c impl => ∀ binder, .registered c impl binder ∈ calls →
    .delivered c impl binder ∈ calls ∨ .unregistered c impl binder ∈ calls
  | _ => True

/-- **The registrations are balanced.** -/
def Balanced : List DeathCall → Prop
  | [] => True
  | call :: calls => call.InOrder calls ∧ Balanced calls

namespace Client

variable {S : Strings} {k k' : Client S}

/-- How often the `ServiceImpl` has registered, as far as the client shows. -/
def watched (k : Client S) (impl : ℕ) : ℕ := k.asked impl + k.frame.watches impl

/-- It registers once. -/
theorem watched_le_one (hk : Connecting k) {service : ServiceImpl} (hs : k.owned = some service) :
    k.watched service.id ≤ 1 := by
  have hone := hk.once service.id
  unfold watched Frame.watches
  split
  · rename_i g weaved hframe
    split
    · rename_i hg
      rw [hk.fresh service hs weaved (.inr (hg ▸ hframe))]
    · exact hone
  · exact hone

/-- The client neither registers nor is notified. -/
structure Idles (k k' : Client S) : Prop where
  notifications : k'.deathNotifications = k.deathNotifications
  watched : ∀ impl, k.watched impl ≤ k'.watched impl

/-- It does not if it stays in its frame and does not call `connect`. -/
theorem Idles.of_log (hn : k'.deathNotifications = k.deathNotifications) (hlog : k'.log = k.log)
    (hframe : ∀ impl, k.frame.watches impl ≤ k'.frame.watches impl) : Idles k k' := by
  refine ⟨hn, fun impl => ?_⟩
  have h := hframe impl
  unfold Client.watched asked
  rw [hlog]
  omega

theorem Idles.emit (h : Idles k k') {effect : ClientEffect} (hasks : ∀ impl, effect.asks impl = false) :
    Idles k (k'.emit effect) := by
  refine ⟨h.notifications, fun impl => ?_⟩
  have hle := h.watched impl
  unfold Client.watched at hle ⊢
  rw [asked_emit, hasks impl]
  exact hle

theorem onWeaveServiceDisconnected_idles (k : Client S) (impl : ℕ) :
    Idles k (k.onWeaveServiceDisconnected impl) := by
  unfold onWeaveServiceDisconnected
  split
  · exact .of_log rfl rfl fun _ => le_rfl
  · exact .of_log rfl rfl fun _ => le_rfl

theorem tryConnecting_idles (hloop : k.frame = .messageLoop) (impl : ℕ) (binder : Option ℕ) :
    Idles k (k.tryConnecting impl binder) := by
  unfold tryConnecting
  split
  · exact .of_log rfl rfl fun _ => le_rfl
  · split
    · exact .of_log rfl rfl fun _ => le_rfl
    · refine .of_log rfl rfl fun _ => ?_
      rw [hloop]
      exact Nat.zero_le _

theorem reconnectOnServiceDisconnection_idles (k : Client S) (impl : ℕ) :
    Idles k (k.reconnectOnServiceDisconnection impl) := by
  unfold reconnectOnServiceDisconnection
  split
  · exact .of_log rfl rfl fun _ => le_rfl
  · exact .of_log rfl rfl fun _ => le_rfl

/-- The call of `connect` takes the place of the frame before it. -/
theorem connectManager_idles (hk : Connecting k) {c impl weaved : ℕ}
    (hframe : k.frame = .watchesService impl weaved) : Idles k (k.connectManager c impl weaved) := by
  obtain ⟨service, -, -, -, heq⟩ := connectManager_eq hk (c := c) hframe
  rw [heq]
  refine ⟨rfl, fun g => ?_⟩
  unfold Client.watched
  rw [asked_emit, hframe]
  simp only [ClientEffect.asks, makeWeaveClient, beq_iff_eq, Frame.watches]
  exact Nat.le_add_right _ _

theorem commandHandlerAdded_idles {service : WeaveService} {component command : S.String16}
    (hframe : k.frame = .registering service component command) (isOk : Bool) :
    Idles k (k.commandHandlerAdded isOk) := by
  unfold commandHandlerAdded
  split
  · refine .of_log rfl rfl fun _ => ?_
    rw [hframe]
    exact le_rfl
  · exact .of_log rfl rfl fun _ => le_rfl

theorem addCommandHandler_idles {component traitName commandName : String} {callback : ℕ}
    (hloop : k.frame = .messageLoop)
    (h : k.addCommandHandler component traitName commandName callback = some k') : Idles k k' := by
  rcases addCommandHandler_cases h with rfl | ⟨impl, service, -, -, rfl⟩
  · exact .of_log rfl rfl fun _ => le_rfl
  · apply Idles.emit
    · refine .of_log rfl rfl fun _ => ?_
      rw [hloop]
      exact le_rfl
    · exact fun _ => rfl

theorem onServiceConnected_idles (k : Client S) (client : WeaveClient) (service : WeaveService) :
    Idles k (k.onServiceConnected client service) := by
  unfold onServiceConnected
  split
  · exact .of_log rfl rfl fun _ => le_rfl
  · apply Idles.emit
    · exact .of_log rfl rfl fun _ => le_rfl
    · exact fun _ => rfl

theorem onCommand_idles (k : Client S) (client : WeaveClient) (componentName commandName : S.String16)
    (command : ℕ) : Idles k (k.onCommand client componentName commandName command) := by
  obtain ⟨effect, heq, heffect⟩ := k.onCommand_emit client componentName commandName command
  rw [heq]
  exact Idles.emit (.of_log rfl rfl fun _ => le_rfl) fun impl => (heffect impl).1

end Client

namespace DeathSystem

variable {S : Strings} {s t : DeathSystem S} {e : System.Event S}

/-! ## The calls of an event -/

/-- The account of a `ServiceImpl` of a client: one call for each registration, of a manager,
and for each death that the client has been notified of. -/
structure Account (c : ℕ) (calls : List DeathCall) (k k' : Client S) : Prop where
  pending : ∀ impl weaved,
    k'.deathNotifications.count ⟨weaved, impl⟩ + calls.count (.delivered c impl (.manager weaved)) =
      k.deathNotifications.count ⟨weaved, impl⟩ + calls.count (.registered c impl (.manager weaved))
  once : ∀ impl, calls.countP (DeathCall.isRegistration c impl) + k.watched impl ≤ k'.watched impl
  binder : ∀ impl service, .registered c impl (.service service) ∉ calls
  manager : ∀ impl weaved, .unregistered c impl (.manager weaved) ∉ calls

/-- An account without registrations and deaths. -/
theorem Account.of_end {c : ℕ} (impl : ℕ) {calls : List DeathCall} {k k' : Client S} (h : Client.Idles k k')
    (hcalls : ∀ call ∈ calls, call = .destroyed c impl ∨
      ∃ service, call = .unregistered c impl (.service service)) : Account c calls k k' := by
  have hnot : ∀ call, call ≠ .destroyed c impl → (∀ service, call ≠ .unregistered c impl (.service service)) →
      call ∉ calls := by
    intro call hd hu hmem
    rcases hcalls call hmem with h | ⟨service, h⟩
    · exact hd h
    · exact hu service h
  refine ⟨fun g weaved => ?_, fun g => ?_, fun g service => ?_, fun g weaved => ?_⟩
  · have hdelivered : calls.count (.delivered c g (.manager weaved)) = 0 :=
      List.count_eq_zero_of_not_mem (hnot _ nofun nofun)
    have hregistered : calls.count (.registered c g (.manager weaved)) = 0 :=
      List.count_eq_zero_of_not_mem (hnot _ nofun nofun)
    rw [h.notifications, hdelivered, hregistered]
  · have hzero : calls.countP (DeathCall.isRegistration c g) = 0 := by
      rw [List.countP_eq_zero]
      intro call hmem
      rcases hcalls call hmem with rfl | ⟨service, rfl⟩
      · exact Bool.false_ne_true
      · exact Bool.false_ne_true
    have hle := h.watched g
    omega
  · exact hnot _ nofun nofun
  · exact hnot _ nofun nofun

theorem Account.of_idles {c : ℕ} {k k' : Client S} (h : Client.Idles k k') : Account c [] k k' :=
  .of_end 0 h nofun

/-- `~ServiceImpl` does not change what is registered. -/
theorem Account.of_destroy {c : ℕ} {k k' : Client S} (impl : ServiceImpl) (h : Client.Idles k k') :
    Account c (impl.destroy c) k k' := by
  apply Account.of_end impl.id h
  unfold ServiceImpl.destroy
  split
  · simp
  · simp

theorem Account.of_registered (c impl weaved : ℕ) {k : Client S} (hframe : k.frame = .gotService impl weaved) :
    Account c [.registered c impl (.manager weaved)] k (k.registerForDeathNotifications impl weaved true) := by
  refine ⟨fun g w => ?_, fun g => ?_, by simp, by simp⟩
  · have hcount : (k.registerForDeathNotifications impl weaved true).deathNotifications.count ⟨w, g⟩ =
        k.deathNotifications.count ⟨w, g⟩ + [DeathNotification.mk weaved impl].count ⟨w, g⟩ := List.count_append
    have hcall : [DeathCall.registered c impl (.manager weaved)].count (.registered c g (.manager w)) =
        [DeathNotification.mk weaved impl].count ⟨w, g⟩ := by
      rw [List.count_singleton, List.count_singleton]
      simp [and_comm]
    have hnone : [DeathCall.registered c impl (.manager weaved)].count (.delivered c g (.manager w)) = 0 :=
      List.count_eq_zero_of_not_mem (by simp)
    rw [hcount, hcall, hnone, Nat.add_zero]
  · have hbefore : k.watched g = k.asked g := by
      unfold Client.watched
      rw [hframe]
      rfl
    have hafter : (k.registerForDeathNotifications impl weaved true).watched g =
        k.asked g + if impl = g then 1 else 0 := rfl
    rw [hbefore, hafter, List.countP_singleton]
    simp only [DeathCall.isRegistration, true_and, decide_eq_true_eq]
    omega

theorem Account.of_delivered (c : ℕ) {k : Client S} {notification : DeathNotification}
    (hn : notification ∈ k.deathNotifications) :
    Account c [.delivered c notification.impl (.manager notification.weaved)] k
      (Client.onWeaveServiceDisconnected
        { k with deathNotifications := k.deathNotifications.erase notification } notification.impl) := by
  have hidle := Client.onWeaveServiceDisconnected_idles
    { k with deathNotifications := k.deathNotifications.erase notification } notification.impl
  refine ⟨fun g w => ?_, fun g => ?_, by simp, by simp⟩
  · have hcount := (List.perm_cons_erase hn).count_eq ⟨w, g⟩
    rw [List.count_cons] at hcount
    -- what is delivered is no more pending
    have hcall : [DeathCall.delivered c notification.impl (.manager notification.weaved)].count
        (.delivered c g (.manager w)) = if notification == ⟨w, g⟩ then 1 else 0 := by
      rw [List.count_singleton]
      cases notification
      simp [and_comm]
    have hnone : [DeathCall.delivered c notification.impl (.manager notification.weaved)].count
        (.registered c g (.manager w)) = 0 := List.count_eq_zero_of_not_mem (by simp)
    rw [hidle.notifications, hcall, hnone, hcount]
    rfl
  · have hle := hidle.watched g
    have hzero : [DeathCall.delivered c notification.impl (.manager notification.weaved)].countP
        (DeathCall.isRegistration c g) = 0 := rfl
    rw [hzero, Nat.zero_add]
    exact hle

/-- **What an event does to the account of a client.** -/
theorem account_step {s : System S} {c : ℕ} {e : System.Event S} {k : Client S}
    (hc : Client.Connecting (s.clients c)) (h : System.ClientStep s c e k) : Account c (deathCalls s e) (s.clients c) k := by
  cases h with
  | serviceConnect hloop hsub => exact .of_idles (.of_log rfl rfl fun _ => le_rfl)
  | destroySubscription hloop =>
    have hidle : Client.Idles (s.clients c) (s.clients c).destroySubscription := .of_log rfl rfl fun _ => le_rfl
    simp only [deathCalls]
    split
    · exact .of_destroy _ hidle
    · exact .of_idles hidle
  | exit => exact .of_idles (.of_log rfl rfl fun _ => le_rfl)
  | tryConnecting impl found binder hloop htask =>
    have hidle := Client.tryConnecting_idles (k := { s.clients c with
      tasks := (s.clients c).tasks.erase (.tryConnecting impl) }) hloop impl binder
    exact .of_idles ⟨hidle.notifications, hidle.watched⟩
  | reconnectOnServiceDisconnection impl found hloop htask =>
    have hidle := Client.reconnectOnServiceDisconnection_idles { s.clients c with
      tasks := (s.clients c).tasks.erase (.reconnectOnServiceDisconnection impl) } impl
    -- the old object is destroyed, its service cleared before
    simp only [deathCalls]
    split
    · exact .of_destroy _ ⟨hidle.notifications, hidle.watched⟩
    · exact .of_idles ⟨hidle.notifications, hidle.watched⟩
  | registerForDeathNotifications impl weaved success hframe =>
    simp only [deathCalls, hframe]
    cases success with
    | true => exact .of_registered c impl weaved hframe
    | false =>
      -- a failed registration leaves nothing but the task of the reconnection
      have hidle := Client.onWeaveServiceDisconnected_idles
        ({ s.clients c with frame := .messageLoop } : Client S) impl
      refine .of_idles ⟨hidle.notifications, fun g => ?_⟩
      have hle := hidle.watched g
      unfold Client.watched at hle ⊢
      rw [hframe]
      exact hle
  | connectManager impl weaved success hframe =>
    -- the registration shows in the log from now on
    simp only [deathCalls, hframe]
    exact .of_idles (Client.connectManager_idles hc hframe)
  | registerNotificationListener impl weaved success hframe =>
    simp only [deathCalls, hframe]
    refine .of_idles (.of_log rfl rfl fun _ => ?_)
    rw [hframe]
    exact le_rfl
  | commandHandlerAdded service component command success hframe =>
    simp only [deathCalls, hframe]
    exact .of_idles (Client.commandHandlerAdded_idles hframe _)
  | deathNotice notification hn => exact .of_delivered c hn
  | addCommandHandler component traitName commandName callback k hloop hk =>
    exact .of_idles (Client.addCommandHandler_idles hloop hk)
  | onServiceConnected client service watch hclient hloop =>
    exact .of_idles (Client.onServiceConnected_idles _ _ _)
  | onCommand client componentName commandName command watch hclient hloop =>
    exact .of_idles (Client.onCommand_idles _ _ _ _ _)

/-! ## Accounts over a run -/

/-- The accounts of all clients. -/
structure Accounted (s : DeathSystem S) : Prop where
  reach : (System.machine S).Reach s.system
  pending : ∀ c impl weaved, (s.system.clients c).deathNotifications.count ⟨weaved, impl⟩ +
    s.calls.count (.delivered c impl (.manager weaved)) = s.calls.count (.registered c impl (.manager weaved))
  once : ∀ c impl, s.calls.countP (DeathCall.isRegistration c impl) ≤ (s.system.clients c).watched impl
  binder : ∀ c impl service, .registered c impl (.service service) ∉ s.calls
  manager : ∀ c impl weaved, .unregistered c impl (.manager weaved) ∉ s.calls

theorem Accounted.connecting (h : Accounted s) (c : ℕ) : Client.Connecting (s.system.clients c) :=
  (System.reach_connecting h.reach).1 c

/-- Calls of other clients. -/
theorem Account.of_other {c : ℕ} {calls : List DeathCall} (hcalls : ∀ call ∈ calls, call.client ≠ c)
    (k : Client S) : Account c calls k k := by
  have hnot : ∀ call : DeathCall, call.client = c → call ∉ calls := fun call hc hmem => hcalls call hmem hc
  refine ⟨fun impl weaved => ?_, fun impl => ?_, fun impl service => hnot _ rfl, fun impl weaved => hnot _ rfl⟩
  · have hdelivered : calls.count (.delivered c impl (.manager weaved)) = 0 :=
      List.count_eq_zero_of_not_mem (hnot _ rfl)
    have hregistered : calls.count (.registered c impl (.manager weaved)) = 0 :=
      List.count_eq_zero_of_not_mem (hnot _ rfl)
    rw [hdelivered, hregistered]
  · have hzero : calls.countP (DeathCall.isRegistration c impl) = 0 := by
      rw [List.countP_eq_zero]
      intro call hmem hcall
      cases call with
      | registered d g binder => exact hcalls _ hmem (of_decide_eq_true hcall).1
      | _ => cases hcall
    rw [hzero, Nat.zero_add]

theorem destroy_client {c : ℕ} {impl : ServiceImpl} : ∀ call ∈ impl.destroy c, call.client = c := by
  unfold ServiceImpl.destroy
  split
  · simp [DeathCall.client]
  · simp [DeathCall.client]

/-- The calls of an event are made by its client. -/
theorem deathCalls_client (s : System S) (e : System.Event S) :
    ∀ call ∈ deathCalls s e, e.actor = some call.client := by
  intro call hcall
  unfold deathCalls at hcall
  split at hcall
  · split at hcall
    · split at hcall
      · rw [List.mem_singleton.1 hcall]
        rfl
      · cases hcall
    · cases hcall
  · rw [List.mem_singleton.1 hcall]
    rfl
  · split at hcall
    · rw [destroy_client call hcall]
      rfl
    · cases hcall
  · split at hcall
    · rw [destroy_client call hcall]
      rfl
    · cases hcall
  · cases hcall

/-- An event keeps the account of every client. -/
theorem next_account {s system : System S} (hc : ∀ c, Client.Connecting (s.clients c))
    (h : s.next e = some system) (c : ℕ) : Account c (deathCalls s e) (s.clients c) (system.clients c) := by
  rcases System.next_client h c with ⟨hactor, heq⟩ | ⟨-, hstep⟩
  · rw [heq]
    refine .of_other (fun call hmem hcall => hactor ?_) _
    rw [deathCalls_client s e call hmem, hcall]
  · exact account_step (hc c) hstep

/-- **Registrations are delivered or pending**, after every event. -/
theorem next_accounted (hs : Accounted s) (h : s.next e = some t) : Accounted t := by
  obtain ⟨system, hn, rfl⟩ := Option.map_eq_some_iff.1 h
  have haccount := next_account hs.connecting hn
  refine ⟨hs.reach.step trivial hn, fun c impl weaved => ?_, fun c impl => ?_, fun c impl service hmem => ?_,
    fun c impl weaved hmem => ?_⟩
  · have hstep := (haccount c).pending impl weaved
    have hbefore := hs.pending c impl weaved
    rw [List.count_append, List.count_append]
    dsimp only
    omega
  · have hstep := (haccount c).once impl
    have hbefore := hs.once c impl
    rw [List.countP_append]
    dsimp only
    omega
  · rcases List.mem_append.1 hmem with hmem | hmem
    · exact (haccount c).binder impl service hmem
    · exact hs.binder c impl service hmem
  · rcases List.mem_append.1 hmem with hmem | hmem
    · exact (haccount c).manager impl weaved hmem
    · exact hs.manager c impl weaved hmem

/-! ## Balance -/

/-- What an object has registered and not been notified of is its pending notification. -/
theorem registered_pending (hs : Accounted s) {c : ℕ} {impl : ServiceImpl}
    (howned : (s.system.clients c).owned = some impl) {binder : WeavedBinder} :
    (.registered c impl.id binder ∈ s.calls ∧ .delivered c impl.id binder ∉ s.calls) ↔
      ∃ weaved, binder = .manager weaved ∧ ⟨weaved, impl.id⟩ ∈ (s.system.clients c).deathNotifications := by
  constructor
  · rintro ⟨hregistered, hdelivered⟩
    cases binder with
    | service service => exact absurd hregistered (hs.binder c impl.id service)
    | manager weaved =>
      refine ⟨weaved, rfl, List.count_pos_iff.1 ?_⟩
      have hpos := List.count_pos_iff.2 hregistered
      have hzero := List.count_eq_zero.2 hdelivered
      have hpending := hs.pending c impl.id weaved
      omega
  · rintro ⟨weaved, rfl, hn⟩
    have hpos := List.count_pos_iff.2 hn
    have hpending := hs.pending c impl.id weaved
    have hle : s.calls.count (.registered c impl.id (.manager weaved)) ≤
        s.calls.countP (DeathCall.isRegistration c impl.id) := by
      rw [List.count]
      refine List.countP_mono_left fun call _ hcall => ?_
      rw [eq_of_beq hcall]
      simp [DeathCall.isRegistration]
    -- there is one registration, and it is pending
    have honce := (hs.once c impl.id).trans (Client.watched_le_one (hs.connecting c) howned)
    refine ⟨List.count_pos_iff.1 (by omega), List.count_eq_zero.1 (by omega)⟩

/-- An object is destroyed in order unless it waits for a notification. -/
theorem destroyed_inOrder (hs : Accounted s) {c : ℕ} {impl : ServiceImpl}
    (howned : (s.system.clients c).owned = some impl) :
    (DeathCall.destroyed c impl.id).InOrder s.calls ↔
      ∀ n ∈ (s.system.clients c).deathNotifications, n.impl ≠ impl.id := by
  constructor
  · intro h n hn himpl
    have hpending : ⟨n.weaved, impl.id⟩ ∈ (s.system.clients c).deathNotifications := by
      rw [← himpl]
      exact hn
    -- nothing but the delivery would settle it: managers are never unregistered
    obtain ⟨hregistered, hdelivered⟩ := (registered_pending hs howned).2 ⟨n.weaved, rfl, hpending⟩
    rcases h _ hregistered with h | h
    · exact hdelivered h
    · exact hs.manager _ _ _ h
  · intro h binder hregistered
    refine .inl (not_not.1 fun hdelivered => ?_)
    obtain ⟨weaved, -, hn⟩ := (registered_pending hs howned).1 ⟨hregistered, hdelivered⟩
    exact h _ hn rfl

/-- An object that is about to reconnect waits for no notification. -/
theorem reconnects_settled {k : Client S} (hk : Client.Connecting k) {impl : ServiceImpl}
    (howned : k.owned = some impl) (htask : .reconnectOnServiceDisconnection impl.id ∈ k.tasks) :
    ∀ n ∈ k.deathNotifications, n.impl ≠ impl.id := by
  intro n hn himpl
  have hone := hk.wakeup impl howned
  have htasks : 0 < k.tasks.countP fun task => task.impl = impl.id :=
    List.countP_pos_iff.2 ⟨_, htask, decide_eq_true rfl⟩
  have hnotifications : 0 < k.deathNotifications.countP fun notification => notification.impl = impl.id :=
    List.countP_pos_iff.2 ⟨n, hn, decide_eq_true himpl⟩
  -- the task is the one wake-up of the object, so a notification would be a second
  unfold Client.wakeups at hone
  omega

/-- A subscription is destroyed when its `ServiceImpl` has no service and waits for no notification. -/
def DestroysSettled (s : DeathSystem S) : System.Event S → Prop
  | .destroySubscription c => ∀ impl, (s.system.clients c).owned = some impl →
    impl.weaveService = none ∧ ∀ n ∈ (s.system.clients c).deathNotifications, n.impl ≠ impl.id
  | _ => True

theorem balanced_cons {call : DeathCall} {calls : List DeathCall} :
    Balanced (call :: calls) ↔ Balanced calls ∧ call.InOrder calls := and_comm

/-- The subscription and its object are destroyed. -/
theorem destroy_balanced (hs : Accounted s) {c : ℕ} {impl : ServiceImpl}
    (howned : (s.system.clients c).owned = some impl) :
    Balanced (impl.destroy c ++ s.calls) ↔ Balanced s.calls ∧ impl.weaveService = none ∧
      ∀ n ∈ (s.system.clients c).deathNotifications, n.impl ≠ impl.id := by
  unfold ServiceImpl.destroy
  split
  · rename_i service hservice
    -- the binder of the service has not been registered
    refine iff_of_false (fun h => hs.binder c impl.id service h.2.1) fun h => ?_
    rw [hservice] at h
    cases h.2.1
  · rename_i hservice
    rw [List.singleton_append, balanced_cons, destroyed_inOrder hs howned, hservice, eq_self, true_and]

theorem reconnect_task {s t : System S} {c impl : ℕ} {found : Bool}
    (h : s.next (.runTask c (.reconnectOnServiceDisconnection impl) found) = some t) :
    .reconnectOnServiceDisconnection impl ∈ (s.clients c).tasks := by
  rcases System.next_client h c with ⟨hactor, -⟩ | ⟨-, hstep⟩
  · exact absurd rfl hactor
  · generalize t.clients c = k at hstep
    cases hstep with
    | reconnectOnServiceDisconnection impl found hloop htask => exact htask

/-- **When one event keeps the balance.** -/
theorem next_balanced (hs : Accounted s) (h : s.next e = some t) :
    Balanced t.calls ↔ Balanced s.calls ∧ DestroysSettled s e := by
  obtain ⟨system, hn, rfl⟩ := Option.map_eq_some_iff.1 h
  cases e with
  | destroySubscription c =>
    simp only [deathCalls, DestroysSettled]
    split
    · rename_i impl howned
      rw [destroy_balanced hs howned, howned]
      simp
    · rename_i howned
      rw [howned]
      simp
  | runTask c task found =>
    rw [and_iff_left (show DestroysSettled s (.runTask c task found) from trivial)]
    cases task with
    | tryConnecting impl => rfl
    | reconnectOnServiceDisconnection impl =>
      simp only [deathCalls]
      split
      · rename_i service hlock
        obtain ⟨howned, rfl⟩ := Client.lock_eq_some.1 hlock
        have hsettled := reconnects_settled (hs.connecting c) howned (reconnect_task hn)
        exact balanced_cons.trans (and_iff_left ((destroyed_inOrder hs howned).2 hsettled))
      · rfl
  | resume c success =>
    rw [and_iff_left (show DestroysSettled s (.resume c success) from trivial)]
    simp only [deathCalls]
    split
    · cases success with
      | true => exact balanced_cons.trans (and_iff_left trivial)
      | false => rfl
    · rfl
  | deathNotice c notification => exact balanced_cons
  | _ => exact (and_iff_left trivial).symm

theorem start_accounted : Accounted ({} : DeathSystem S) where
  reach := .start rfl
  pending _ _ _ := rfl
  once _ _ := Nat.zero_le _
  binder _ _ _ hmem := by cases hmem
  manager _ _ _ hmem := by cases hmem

/-- **Registrations for death are balanced** exactly if every subscription is destroyed while its
`ServiceImpl` has no service and waits for no notification, in any run. -/
theorem registrations_balanced_iff {es : List (System.Event S)} (h : (machine S).run {} es = some s) :
    Balanced s.calls ↔ (machine S).Meets DestroysSettled {} es := by
  have hiff := Machine.run_iff_meets (M := machine S) (P := Accounted) (Q := fun s => Balanced s.calls)
    (G := DestroysSettled) (fun _ _ _ hs hn => next_accounted hs hn) (fun _ _ _ hs hn => next_balanced hs hn)
    start_accounted h
  exact hiff.trans (and_iff_right trivial)

/-- A client connects, loses weaved, reconnects, and gives up before it has registered again. -/
def outageRun : List (System.Event Strings.plain) :=
  System.connectedRun ++ [.weavedDies, .deathNotice 0 ⟨1, 0⟩,
    .runTask 0 (.reconnectOnServiceDisconnection 0) false, .runTask 0 (.tryConnecting 1) true,
    .destroySubscription 0]

theorem registrations_balanced_iff_test : ∃ s, (machine Strings.plain).run {} outageRun = some s ∧
    (Balanced s.calls ↔ (machine Strings.plain).Meets DestroysSettled {} outageRun) ∧
    s.calls = [.destroyed 0 1, .destroyed 0 0, .delivered 0 0 (.manager 1), .registered 0 0 (.manager 1)] := by
  have hrun : ((machine Strings.plain).run {} outageRun).isSome := rfl
  obtain ⟨s, hs⟩ := Option.isSome_iff_exists.1 hrun
  refine ⟨s, hs, registrations_balanced_iff hs, ?_⟩
  cases hs
  rfl

/-- **A connected client leaks its registration** if it gives up its subscription, and unregisters
what it has never registered. -/
theorem connected_client_leaks : ∃ s,
    (machine Strings.plain).run {} (System.connectedRun ++ [.destroySubscription 0]) = some s ∧
    .registered 0 0 (.manager 1) ∈ s.calls ∧ .delivered 0 0 (.manager 1) ∉ s.calls ∧
    .unregistered 0 0 (.manager 1) ∉ s.calls ∧ .destroyed 0 0 ∈ s.calls ∧
    .unregistered 0 0 (.service ⟨1, 0, 0, 0, 0, 0⟩) ∈ s.calls ∧
    .registered 0 0 (.service ⟨1, 0, 0, 0, 0, 0⟩) ∉ s.calls ∧ ¬ Balanced s.calls := by
  refine ⟨_, rfl, by decide, by decide, by decide, by decide, by decide, by decide, fun h => ?_⟩
  have hregistered : DeathCall.registered 0 0 (.service ⟨1, 0, 0, 0, 0, 0⟩) ∈
      [DeathCall.registered 0 0 (.manager 1)] := h.2.1
  revert hregistered
  decide

end DeathSystem

end SystemWeaved
