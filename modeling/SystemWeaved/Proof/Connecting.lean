import SystemWeaved.Proof.SystemSteps

/-!
# The wake-up of a client

The next thing to happen to the `ServiceImpl` of a subscription is a wake-up: a queued task,
a death notification, or the rest of `TryConnecting` after `GetService`. There is exactly
one (`wakeups`), and it tells how far the connection has come (`Connecting`).

* `LocalStep.connecting`: a client keeps this on its own.
* `connectManager_connecting`, `onServiceConnected_connecting`, `onCommand_connecting`: and
  when it talks to weaved.
-/

namespace SystemWeaved

/-- The effect is a call of `connect` by the `ServiceImpl`. -/
def ClientEffect.asks (impl : ℕ) : ClientEffect → Bool
  | .connect _ client => client.serviceImpl == impl
  | _ => false

/-- The effect is the connection callback, for the `ServiceImpl`. -/
def ClientEffect.calls (impl : ℕ) : ClientEffect → Bool
  | .connectionCallback g => g == impl
  | _ => false

/-- The `ServiceImpl` in whose `TryConnecting` the thread is. -/
def Frame.impl {S : Strings} : Frame S → Option ℕ
  | .gotService impl _ | .watchesService impl _ | .connected impl _ => some impl
  | _ => none

/-- `TryConnecting` has found weaved and will register for its death. -/
def Frame.waits {S : Strings} (impl : ℕ) : Frame S → ℕ
  | .gotService g _ => if g = impl then 1 else 0
  | _ => 0

theorem Frame.waits_of_impl {S : Strings} {f : Frame S} (h : f.impl = none) (impl : ℕ) : f.waits impl = 0 := by
  cases f with
  | gotService g weaved => cases h
  | messageLoop => rfl
  | watchesService g weaved => rfl
  | connected g weaved => rfl
  | registering service component command => rfl

namespace Client

variable {S : Strings} {k k' : Client S}

/-- How often the `ServiceImpl` has called `connect`. -/
def asked (k : Client S) (impl : ℕ) : ℕ := k.log.countP (ClientEffect.asks impl)

/-- How often the connection callback has been run for the `ServiceImpl`. -/
def called (k : Client S) (impl : ℕ) : ℕ := k.log.countP (ClientEffect.calls impl)

/-- The wake-ups of a `ServiceImpl`. -/
def wakeups (k : Client S) (impl : ℕ) : ℕ :=
  k.tasks.countP (fun task => task.impl = impl) +
    k.deathNotifications.countP (fun notification => notification.impl = impl) + k.frame.waits impl

/-- The `ServiceImpl` has asked the weaved to connect. -/
def AskedWeaved (k : Client S) (impl weaved : ℕ) : Prop :=
  ∃ client : WeaveClient, client.serviceImpl = impl ∧ .connect weaved client ∈ k.log

/-- Tasks, notifications and effects are those of objects that have been made, and none of
these has asked twice. -/
structure Bounded (k : Client S) : Prop where
  task : ∀ task ∈ k.tasks, task.impl < k.impls
  notification : ∀ notification ∈ k.deathNotifications, notification.impl < k.impls
  log : ∀ impl, k.impls ≤ impl → k.asked impl = 0 ∧ k.called impl = 0
  once : ∀ impl, k.asked impl ≤ 1

/-- The invariant of the connection. -/
structure Connecting (k : Client S) : Prop extends Bounded k where
  subscribed : ∀ subscription, k.subscription = some subscription → subscription.service.isSome
  bound : ∀ service, k.owned = some service → service.id < k.impls
  frame : ∀ impl, k.frame.impl = some impl → ∃ service, k.owned = some service ∧ service.id = impl
  wakeup : ∀ service, k.owned = some service → k.wakeups service.id = 1
  /-- Its death notification is from a weaved it has asked, or will ask next. -/
  registered : ∀ service, k.owned = some service → ∀ notification ∈ k.deathNotifications,
    notification.impl = service.id → k.AskedWeaved service.id notification.weaved ∨
      k.frame = .watchesService service.id notification.weaved
  /-- It does not connect again after that. -/
  retry : ∀ service, k.owned = some service → .tryConnecting service.id ∈ k.tasks →
    k.asked service.id = 0 ∧ ∀ weaved, k.frame ≠ .watchesService service.id weaved
  fresh : ∀ service, k.owned = some service → ∀ weaved, k.frame = .gotService service.id weaved ∨
    k.frame = .watchesService service.id weaved → k.asked service.id = 0
  handed : ∀ service, k.owned = some service → k.called service.id ≠ 0 → service.weaveService.isSome

/-! ## Counting wake-ups -/

theorem wakeups_postTask (k : Client S) (task : ClientTask) (impl : ℕ) :
    (k.postTask task).wakeups impl = k.wakeups impl + if task.impl = impl then 1 else 0 := by
  have hcount : (k.tasks ++ [task]).countP (fun task => decide (task.impl = impl)) =
      k.tasks.countP (fun task => decide (task.impl = impl)) + if task.impl = impl then 1 else 0 := by
    rw [List.countP_append, List.countP_singleton]
    simp only [decide_eq_true_eq]
  unfold wakeups postTask
  rw [hcount]
  dsimp only
  omega

/-- What is taken out of a list has been counted once. -/
theorem countP_erase_add {α : Type} [DecidableEq α] {a : α} {l : List α} (h : a ∈ l) (impl : α → ℕ) (n : ℕ) :
    (l.erase a).countP (fun x => decide (impl x = n)) + (if impl a = n then 1 else 0) =
      l.countP (fun x => decide (impl x = n)) := by
  rw [(List.perm_cons_erase h).countP_eq, List.countP_cons]
  simp only [decide_eq_true_eq]

theorem wakeups_eraseTask {task : ClientTask} (h : task ∈ k.tasks) (impl : ℕ) :
    wakeups { k with tasks := k.tasks.erase task } impl + (if task.impl = impl then 1 else 0) =
      k.wakeups impl := by
  have hcount := countP_erase_add h ClientTask.impl impl
  unfold wakeups
  dsimp only
  omega

theorem wakeups_eraseNotification {notification : DeathNotification} (h : notification ∈ k.deathNotifications)
    (impl : ℕ) :
    wakeups { k with deathNotifications := k.deathNotifications.erase notification } impl +
      (if notification.impl = impl then 1 else 0) = k.wakeups impl := by
  have hcount := countP_erase_add h DeathNotification.impl impl
  unfold wakeups
  dsimp only
  omega

theorem wakeups_new (h : Bounded k) (hloop : k.frame = .messageLoop) : k.wakeups k.impls = 0 := by
  have htask : k.tasks.countP (fun task => decide (task.impl = k.impls)) = 0 := by
    rw [List.countP_eq_zero]
    intro task htask
    have := h.task task htask
    simp only [decide_eq_true_eq]
    omega
  have hn : k.deathNotifications.countP (fun notification => decide (notification.impl = k.impls)) = 0 := by
    rw [List.countP_eq_zero]
    intro n hn
    have := h.notification n hn
    simp only [decide_eq_true_eq]
    omega
  unfold wakeups
  rw [htask, hn, hloop]
  rfl

/-! ## New objects -/

theorem beginConnect_connecting (h : Bounded k) (hloop : k.frame = .messageLoop) : Connecting k.beginConnect where
  task task htask := by
    rcases List.mem_append.1 htask with htask | htask
    · exact Nat.lt_succ_of_lt (h.task task htask)
    · rw [List.mem_singleton.1 htask]
      exact Nat.lt_succ_self _
  notification n hn := Nat.lt_succ_of_lt (h.notification n hn)
  log impl himpl := h.log impl (Nat.le_of_succ_le himpl)
  once := h.once
  subscribed subscription hs := by
    cases hs
    rfl
  bound service hs := by
    cases hs
    exact Nat.lt_succ_self _
  frame impl himpl := by
    have hframe : k.beginConnect.frame = .messageLoop := hloop
    rw [hframe] at himpl
    cases himpl
  wakeup service hs := by
    cases hs
    have hnew : wakeups ({ k with
        impls := k.impls + 1
        subscription := some ⟨some { id := k.impls }⟩ } : Client S) k.impls = 0 := wakeups_new h hloop
    unfold beginConnect
    dsimp only
    rw [wakeups_postTask, hnew, if_pos (show (ClientTask.tryConnecting k.impls).impl = k.impls from rfl)]
  registered service hs n hn hni := by
    cases hs
    have hlt := h.notification n hn
    simp only at hni
    omega
  retry service hs _ := by
    cases hs
    refine ⟨(h.log k.impls le_rfl).1, fun weaved hframe => ?_⟩
    have hframe' : k.beginConnect.frame = .messageLoop := hloop
    rw [hframe'] at hframe
    cases hframe
  fresh service hs weaved _ := by
    cases hs
    exact (h.log k.impls le_rfl).1
  handed service hs hcalled := by
    cases hs
    exact absurd (h.log k.impls le_rfl).2 hcalled

/-! ## The same object goes on -/

/-- The frames that can follow while the owned object stays. -/
inductive NextFrame (k : Client S) : Frame S → Prop
  | same : NextFrame k k.frame
  | rest (f : Frame S) (hf : f.impl = none) (hk : ∀ impl weaved, k.frame ≠ .watchesService impl weaved) :
      NextFrame k f
  | found (impl weaved : ℕ) (hk : k.frame = .messageLoop) (htask : .tryConnecting impl ∈ k.tasks)
      (hlock : ∃ service, k.lock impl = some service) : NextFrame k (.gotService impl weaved)
  | watches (impl weaved : ℕ) (hk : k.frame = .gotService impl weaved) : NextFrame k (.watchesService impl weaved)

/-- The client goes on with the object it owns, or with none, and its wake-ups. -/
structure Continues (k k' : Client S) : Prop where
  impls : k'.impls = k.impls
  asked : ∀ impl, k'.asked impl = k.asked impl
  called : ∀ impl, k'.called impl = k.called impl
  connects : ∀ impl weaved, k.AskedWeaved impl weaved → k'.AskedWeaved impl weaved
  subscribed : ∀ subscription, k'.subscription = some subscription → subscription.service.isSome
  owned : ∀ service', k'.owned = some service' → ∃ service, k.owned = some service ∧
    service'.id = service.id ∧ service'.weaveService = service.weaveService
  keeps : ∀ service, k.owned = some service → k'.frame.impl ≠ none →
    ∃ service', k'.owned = some service' ∧ service'.id = service.id
  task : ∀ task ∈ k'.tasks, task ∈ k.tasks ∨
    ∃ impl < k.impls, task = .reconnectOnServiceDisconnection impl
  notification : ∀ n ∈ k'.deathNotifications, n ∈ k.deathNotifications ∨
    n.impl < k.impls ∧ k'.frame = .watchesService n.impl n.weaved
  frame : NextFrame k k'.frame
  wakeup : ∀ service, k.owned = some service → k'.wakeups service.id = k.wakeups service.id

/-- With `TryConnecting` under way there is no second one queued. -/
theorem Connecting.no_task (h : Connecting k) {service : ServiceImpl} (hs : k.owned = some service)
    {weaved : ℕ} (hframe : k.frame = .gotService service.id weaved) : .tryConnecting service.id ∉ k.tasks := by
  intro htask
  have hwake := h.wakeup service hs
  have hpos : 0 < k.tasks.countP (fun task => decide (task.impl = service.id)) :=
    List.countP_pos_iff.2 ⟨_, htask, by simp [ClientTask.impl]⟩
  unfold wakeups at hwake
  rw [hframe, Frame.waits, if_pos rfl] at hwake
  omega

theorem NextFrame.impl {f : Frame S} (h : NextFrame k f) {impl : ℕ} (himpl : f.impl = some impl) :
    k.frame.impl = some impl ∨ ∃ service, k.lock impl = some service := by
  cases h with
  | same => exact .inl himpl
  | rest _ hf _ =>
    rw [hf] at himpl
    cases himpl
  | found g weaved _ _ hlock =>
    cases himpl
    exact .inr hlock
  | watches g weaved hk =>
    cases himpl
    left
    rw [hk]
    rfl

theorem NextFrame.to_got {f : Frame S} (h : NextFrame k f) {impl weaved : ℕ} (hf : f = .gotService impl weaved) :
    k.frame = .gotService impl weaved ∨ .tryConnecting impl ∈ k.tasks := by
  cases h with
  | same => exact .inl hf
  | rest _ hnone _ =>
    rw [hf] at hnone
    cases hnone
  | found g w _ htask _ =>
    cases hf
    exact .inr htask
  | watches g w _ => cases hf

theorem NextFrame.to_watches {f : Frame S} (h : NextFrame k f) {impl weaved : ℕ}
    (hf : f = .watchesService impl weaved) :
    k.frame = .watchesService impl weaved ∨ k.frame = .gotService impl weaved := by
  cases h with
  | same => exact .inl hf
  | rest _ hnone _ =>
    rw [hf] at hnone
    cases hnone
  | found g w _ _ _ => cases hf
  | watches g w hk =>
    cases hf
    exact .inr hk

/-- After the registration the next step of the thread is the call of `connect`. -/
theorem NextFrame.of_watches {f : Frame S} (h : NextFrame k f) {impl weaved : ℕ}
    (hk : k.frame = .watchesService impl weaved) : f = .watchesService impl weaved := by
  cases h with
  | same => exact hk
  | rest _ _ hne => exact absurd hk (hne _ _)
  | found g w hloop _ _ =>
    rw [hk] at hloop
    cases hloop
  | watches g w hgot =>
    rw [hk] at hgot
    cases hgot

theorem Connecting.continues (h : Connecting k) (hc : Continues k k') : Connecting k' where
  task task htask := by
    rw [hc.impls]
    rcases hc.task task htask with htask | ⟨impl, himpl, rfl⟩
    · exact h.task task htask
    · exact himpl
  notification n hn := by
    rw [hc.impls]
    rcases hc.notification n hn with hn | ⟨himpl, -⟩
    · exact h.notification n hn
    · exact himpl
  log impl himpl := by
    rw [hc.asked, hc.called]
    exact h.log impl (hc.impls ▸ himpl)
  once impl := by
    rw [hc.asked]
    exact h.once impl
  subscribed := hc.subscribed
  bound service' hs' := by
    obtain ⟨service, hs, hid, -⟩ := hc.owned service' hs'
    rw [hid, hc.impls]
    exact h.bound service hs
  frame impl himpl := by
    have howned : ∃ service, k.owned = some service ∧ service.id = impl := by
      rcases hc.frame.impl himpl with hold | ⟨service, hlock⟩
      · exact h.frame impl hold
      · exact ⟨service, lock_eq_some.1 hlock⟩
    obtain ⟨service, hs, rfl⟩ := howned
    exact hc.keeps service hs (by rw [himpl]; simp)
  wakeup service' hs' := by
    obtain ⟨service, hs, hid, -⟩ := hc.owned service' hs'
    rw [hid, hc.wakeup service hs]
    exact h.wakeup service hs
  registered service' hs' n hn hni := by
    obtain ⟨service, hs, hid, -⟩ := hc.owned service' hs'
    rw [hid] at hni ⊢
    rcases hc.notification n hn with hn | ⟨-, hframe⟩
    · rcases h.registered service hs n hn hni with hasked | hwatch
      · exact .inl (hc.connects _ _ hasked)
      · exact .inr (hc.frame.of_watches hwatch)
    · right
      rw [hframe, hni]
  retry service' hs' htask := by
    obtain ⟨service, hs, hid, -⟩ := hc.owned service' hs'
    rw [hid] at htask ⊢
    rcases hc.task _ htask with htask | ⟨impl, -, himpl⟩
    · obtain ⟨hasked, hframe⟩ := h.retry service hs htask
      refine ⟨(hc.asked _).trans hasked, fun weaved hwatch => ?_⟩
      rcases hc.frame.to_watches hwatch with hold | hgot
      · exact hframe weaved hold
      · exact h.no_task hs hgot htask
    · cases himpl
  fresh service' hs' weaved hwait := by
    obtain ⟨service, hs, hid, -⟩ := hc.owned service' hs'
    rw [hid] at hwait ⊢
    rw [hc.asked]
    rcases hwait with hgot | hwatch
    · rcases hc.frame.to_got hgot with hold | htask
      · exact h.fresh service hs weaved (.inl hold)
      · exact (h.retry service hs htask).1
    · rcases hc.frame.to_watches hwatch with hold | hgot
      · exact h.fresh service hs weaved (.inr hold)
      · exact h.fresh service hs weaved (.inl hgot)
  handed service' hs' hcalled := by
    obtain ⟨service, hs, hid, hweave⟩ := hc.owned service' hs'
    rw [hid, hc.called] at hcalled
    rw [hweave]
    exact h.handed service hs hcalled

theorem lock_eq_none {impl : ℕ} : k.lock impl = none ↔ ∀ service, k.owned = some service → service.id ≠ impl := by
  constructor
  · intro h service hs hid
    have := lock_eq_some.2 ⟨hs, hid⟩
    rw [h] at this
    cases this
  · intro h
    by_contra hne
    obtain ⟨service, hlock⟩ := Option.ne_none_iff_exists'.1 hne
    obtain ⟨hs, hid⟩ := lock_eq_some.1 hlock
    exact h service hs hid

/-- A step that leaves the subscription and the log as they are. -/
theorem Continues.of_same (h : Connecting k) (hsub : k'.subscription = k.subscription)
    (himpls : k'.impls = k.impls) (hlog : k'.log = k.log)
    (htask : ∀ task ∈ k'.tasks, task ∈ k.tasks ∨
      ∃ impl < k.impls, task = .reconnectOnServiceDisconnection impl)
    (hn : ∀ n ∈ k'.deathNotifications, n ∈ k.deathNotifications ∨
      n.impl < k.impls ∧ k'.frame = .watchesService n.impl n.weaved)
    (hframe : NextFrame k k'.frame)
    (hwake : ∀ service, k.owned = some service → k'.wakeups service.id = k.wakeups service.id) :
    Continues k k' where
  impls := himpls
  asked impl := by rw [Client.asked, hlog, Client.asked]
  called impl := by rw [Client.called, hlog, Client.called]
  connects impl weaved := by
    unfold AskedWeaved
    rw [hlog]
    exact id
  subscribed subscription hs := h.subscribed subscription (hsub ▸ hs)
  owned service' hs' := ⟨service', by rw [Client.owned, ← hsub]; exact hs', rfl, rfl⟩
  keeps service hs _ := ⟨service, by rw [Client.owned, hsub]; exact hs, rfl⟩
  task := htask
  notification := hn
  frame := hframe
  wakeup := hwake

/-- A task of an object that is gone is dropped. -/
theorem Continues.drop (h : Connecting k) {task : ClientTask} (htask : task ∈ k.tasks)
    (hlock : k.lock task.impl = none) : Continues k { k with tasks := k.tasks.erase task } := by
  refine .of_same h rfl rfl rfl (fun t ht => .inl (List.mem_of_mem_erase ht)) (fun n hn => .inl hn) .same ?_
  intro service hs
  have hne := lock_eq_none.1 hlock service hs
  have := wakeups_eraseTask htask service.id
  rw [if_neg (Ne.symm hne)] at this
  exact this

theorem tried_continues (h : Connecting k) (hloop : k.frame = .messageLoop) {impl : ℕ}
    (htask : .tryConnecting impl ∈ k.tasks) (binder : Option ℕ) :
    Continues k (tryConnecting { k with tasks := k.tasks.erase (.tryConnecting impl) } impl binder) := by
  have hsame : lock { k with tasks := k.tasks.erase (.tryConnecting impl) } impl = k.lock impl := rfl
  unfold tryConnecting
  rw [hsame]
  have herase := fun g => wakeups_eraseTask htask g
  cases hlock : k.lock impl with
  | none => exact .drop h htask hlock
  | some service =>
    cases binder with
    | none =>
      -- the task is queued again
      refine .of_same h rfl rfl rfl (fun task ht => .inl ?_) (fun n hn => .inl hn) .same fun service _ => ?_
      · rcases List.mem_append.1 ht with ht | ht
        · exact List.mem_of_mem_erase ht
        · rw [List.mem_singleton.1 ht]
          exact htask
      · dsimp only
        rw [wakeups_postTask]
        exact herase service.id
    | some weaved =>
      refine .of_same h rfl rfl rfl (fun task ht => .inl (List.mem_of_mem_erase ht)) (fun n hn => .inl hn)
        (.found impl weaved hloop htask ⟨service, hlock⟩) fun service _ => ?_
      have herase : wakeups { k with tasks := k.tasks.erase (.tryConnecting impl) } service.id +
          (if impl = service.id then 1 else 0) = k.wakeups service.id := herase service.id
      unfold wakeups at herase ⊢
      rw [hloop] at herase
      simp only [Frame.waits, hloop] at herase ⊢
      omega

/-- The disconnection of the owned object is its next task. -/
theorem wakeups_onWeaveServiceDisconnected (k : Client S) (impl : ℕ) {service : ServiceImpl}
    (hs : k.owned = some service) :
    (k.onWeaveServiceDisconnected impl).wakeups service.id =
      k.wakeups service.id + if impl = service.id then 1 else 0 := by
  unfold onWeaveServiceDisconnected
  cases hlock : k.lock impl with
  | none =>
    rw [if_neg (Ne.symm (lock_eq_none.1 hlock service hs))]
    rfl
  | some _ => exact wakeups_postTask k (.reconnectOnServiceDisconnection impl) service.id

theorem onWeaveServiceDisconnected_same (k : Client S) (impl : ℕ) :
    (k.onWeaveServiceDisconnected impl).subscription = k.subscription ∧
    (k.onWeaveServiceDisconnected impl).impls = k.impls ∧ (k.onWeaveServiceDisconnected impl).log = k.log ∧
    (k.onWeaveServiceDisconnected impl).deathNotifications = k.deathNotifications ∧
    (k.onWeaveServiceDisconnected impl).frame = k.frame ∧
    ∀ task ∈ (k.onWeaveServiceDisconnected impl).tasks, task ∈ k.tasks ∨
      (∃ service, k.lock impl = some service) ∧ task = .reconnectOnServiceDisconnection impl := by
  unfold onWeaveServiceDisconnected
  cases hlock : k.lock impl with
  | none => exact ⟨rfl, rfl, rfl, rfl, rfl, fun task ht => .inl ht⟩
  | some service =>
    refine ⟨rfl, rfl, rfl, rfl, rfl, fun task ht => ?_⟩
    rcases List.mem_append.1 ht with ht | ht
    · exact .inl ht
    · exact .inr ⟨⟨service, rfl⟩, List.mem_singleton.1 ht⟩

theorem watched_continues (h : Connecting k) {impl weaved : ℕ} (hframe : k.frame = .gotService impl weaved)
    (success : Bool) : Continues k (k.registerForDeathNotifications impl weaved success) := by
  obtain ⟨service, hs, hid⟩ := h.frame impl (by rw [hframe]; rfl)
  have hbound : impl < k.impls := hid ▸ h.bound service hs
  unfold registerForDeathNotifications
  cases success with
  | false =>
    simp only [Bool.not_false, if_true]
    -- the wake-up goes from the frame to a queued task
    obtain ⟨hsub, himpls, hlog, hn, hf, htasks⟩ :=
      onWeaveServiceDisconnected_same { k with frame := .messageLoop } impl
    refine .of_same h hsub himpls hlog (fun task ht => ?_) (fun n hn' => .inl (hn ▸ hn')) ?_ fun service hs => ?_
    · exact (htasks task ht).imp id fun ht => ⟨impl, hbound, ht.2⟩
    · rw [hf]
      refine .rest _ rfl fun g w => ?_
      rw [hframe]
      simp
    · have hwake := wakeups_onWeaveServiceDisconnected ({ k with frame := .messageLoop } : Client S) impl hs
      rw [hwake]
      unfold wakeups
      rw [hframe]
      simp only [Frame.waits]
      omega
  | true =>
    simp only [Bool.not_true, Bool.false_eq_true, if_false]
    -- the wake-up goes from the frame to the notification
    refine .of_same h rfl rfl rfl (fun task ht => .inl ht) (fun n hn => ?_) (.watches impl weaved hframe)
      fun service _ => ?_
    · rcases List.mem_append.1 hn with hn | hn
      · exact .inl hn
      · right
        rw [List.mem_singleton.1 hn]
        exact ⟨hbound, rfl⟩
    · unfold wakeups
      rw [hframe]
      simp only [Frame.waits, List.countP_append, List.countP_singleton, decide_eq_true_eq]
      omega

theorem noticed_continues (h : Connecting k) {notification : DeathNotification}
    (hn : notification ∈ k.deathNotifications) :
    Continues k (onWeaveServiceDisconnected
      { k with deathNotifications := k.deathNotifications.erase notification } notification.impl) := by
  obtain ⟨hsub, himpls, hlog, hnotes, hf, htasks⟩ := onWeaveServiceDisconnected_same
    { k with deathNotifications := k.deathNotifications.erase notification } notification.impl
  refine .of_same h hsub himpls hlog (fun task ht => ?_) (fun n hn' => .inl ?_) ?_ fun service hs => ?_
  · exact (htasks task ht).imp id fun ht => ⟨notification.impl, h.notification _ hn, ht.2⟩
  · rw [hnotes] at hn'
    exact List.mem_of_mem_erase hn'
  · rw [hf]
    exact .same
  · have hwake := wakeups_onWeaveServiceDisconnected ({ k with
      deathNotifications := k.deathNotifications.erase notification } : Client S) notification.impl hs
    rw [hwake]
    exact wakeups_eraseNotification hn service.id

theorem asked_emit (k : Client S) (e : ClientEffect) (impl : ℕ) :
    (k.emit e).asked impl = k.asked impl + if e.asks impl then 1 else 0 := List.countP_cons

theorem called_emit (k : Client S) (e : ClientEffect) (impl : ℕ) :
    (k.emit e).called impl = k.called impl + if e.calls impl then 1 else 0 := List.countP_cons

theorem askedWeaved_emit {impl weaved : ℕ} (h : k.AskedWeaved impl weaved) (e : ClientEffect) :
    (k.emit e).AskedWeaved impl weaved := by
  obtain ⟨client, hid, hmem⟩ := h
  exact ⟨client, hid, List.mem_cons_of_mem _ hmem⟩

/-- A step that rewrites other members of the owned object and makes another effect. -/
theorem Continues.of_emit {service service' : ServiceImpl} (hs : k.owned = some service)
    (hid : service'.id = service.id) (hweave : service'.weaveService = service.weaveService) (f : Frame S)
    (hframe : NextFrame k f) (hwaits : ∀ impl, f.waits impl = k.frame.waits impl) (e : ClientEffect)
    (hasks : ∀ impl, e.asks impl = false) (hcalls : ∀ impl, e.calls impl = false) :
    Continues k ((({ k with frame := f } : Client S).setOwned service').emit e) where
  impls := rfl
  asked impl := by
    rw [asked_emit, hasks]
    rfl
  called impl := by
    rw [called_emit, hcalls]
    rfl
  connects impl weaved h := askedWeaved_emit (k := ({ k with frame := f } : Client S).setOwned service') h e
  subscribed subscription hsub := by
    cases hsub
    rfl
  owned x hx := by
    cases hx
    exact ⟨service, hs, hid, hweave⟩
  keeps x hx _ := by
    rw [hs] at hx
    cases hx
    exact ⟨service', rfl, hid⟩
  task task htask := .inl htask
  notification n hn := .inl hn
  frame := hframe
  wakeup x _ := by
    unfold wakeups
    rw [← hwaits]
    rfl

theorem exit_continues (h : Connecting k) : Continues k k.exit :=
  .of_same h rfl rfl rfl (fun _ ht => .inl ht) (fun _ hn => .inl hn) .same fun _ _ => rfl

theorem adding_connecting (h : Connecting k) (hloop : k.frame = .messageLoop) {impl : ServiceImpl}
    (howned : k.owned = some impl) (service : WeaveService) (entry : CommandHandlerEntry) :
    Connecting (k.adding impl service entry) := by
  have hrest : NextFrame k
      (.registering service (S.ToString16 entry.component) (S.ToString16 entry.commandName)) := by
    refine .rest _ rfl fun g w => ?_
    rw [hloop]
    simp
  have hid : ({ impl with commandHandlers := impl.commandHandlers ++ [entry] } : ServiceImpl).id = impl.id := rfl
  refine h.continues (.of_emit howned hid rfl _ hrest (fun g => ?_) (.addCommandHandler impl.id entry)
    (fun _ => rfl) fun _ => rfl)
  rw [hloop]
  rfl

theorem destroySubscription_connecting (h : Connecting k) (hloop : k.frame = .messageLoop) :
    Connecting k.destroySubscription := by
  refine h.continues ⟨rfl, fun _ => rfl, fun _ => rfl, fun _ _ => id, ?_, ?_, ?_, ?_, ?_, .same, fun _ _ => rfl⟩
  · intro subscription hsub
    cases hsub
  · intro service hs
    cases hs
  · intro service _ hframe
    have hf : k.destroySubscription.frame = .messageLoop := hloop
    rw [hf] at hframe
    exact absurd rfl hframe
  · exact fun _ ht => .inl ht
  · exact fun _ hn => .inl hn

/-- **What a client does on its own keeps its connection.** -/
theorem LocalStep.connecting (hk : LocalStep k k') (h : Connecting k) : Connecting k' := by
  cases hk with
  | subscribed hloop _ => exact beginConnect_connecting h.toBounded hloop
  | unsubscribed hloop => exact destroySubscription_connecting h hloop
  | exited => exact h.continues (exit_continues h)
  | tried hloop impl htask binder => exact h.continues (tried_continues h hloop htask binder)
  | reconnected hloop impl htask =>
    -- the task of the owned object makes a new one, that of an old object does nothing
    unfold reconnectOnServiceDisconnection
    have hsame : lock { k with tasks := k.tasks.erase (.reconnectOnServiceDisconnection impl) } impl =
      k.lock impl := rfl
    rw [hsame]
    cases hlock : k.lock impl with
    | none => exact h.continues (.drop h htask hlock)
    | some _ =>
      refine beginConnect_connecting ⟨?_, h.notification, h.log, h.once⟩ hloop
      exact fun task ht => h.task task (List.mem_of_mem_erase ht)
  | watched impl weaved hframe success => exact h.continues (watched_continues h hframe success)
  | noticed notification hn => exact h.continues (noticed_continues h hn)

/-! ## Calls to and from weaved -/

/-- `connect` is called by the object the client owns, for the first time. -/
theorem connectManager_eq (h : Connecting k) {c impl weaved : ℕ}
    (hframe : k.frame = .watchesService impl weaved) :
    ∃ service, k.owned = some service ∧ service.id = impl ∧ k.asked impl = 0 ∧
      k.connectManager c impl weaved =
        ((({ k with weaveClients := k.weaveClients + 1, frame := .connected impl weaved } : Client S).setOwned
          { service with weaveServiceManager := some weaved }).emit (.connect weaved (k.makeWeaveClient c impl))) := by
  obtain ⟨service, hs, hid⟩ := h.frame impl (by rw [hframe]; rfl)
  refine ⟨service, hs, hid, ?_, ?_⟩
  · rw [← hid] at hframe ⊢
    exact h.fresh service hs weaved (.inr hframe)
  · unfold connectManager
    rw [lock_eq_some.2 ⟨hs, hid⟩]

theorem connectManager_connecting (h : Connecting k) {c impl weaved : ℕ}
    (hframe : k.frame = .watchesService impl weaved) : Connecting (k.connectManager c impl weaved) := by
  obtain ⟨service, hs, rfl, hasked, heq⟩ := connectManager_eq h (c := c) hframe
  rw [heq]
  have hcount : ∀ g, (k.connectManager c service.id weaved).asked g =
      k.asked g + if service.id = g then 1 else 0 := by
    intro g
    rw [heq, asked_emit]
    simp only [ClientEffect.asks, makeWeaveClient, beq_iff_eq]
    rfl
  rw [heq] at hcount
  refine ⟨⟨h.task, h.notification, ?_, ?_⟩, ?_, ?_, ?_, ?_, ?_, ?_, ?_, ?_⟩
  · intro g hg
    have hlt := h.bound service hs
    have hg' : k.impls ≤ g := hg
    refine ⟨?_, (h.log g hg).2⟩
    rw [hcount, (h.log g hg).1, if_neg (by omega)]
  · intro g
    rw [hcount]
    split
    · rename_i hg
      rw [← hg, hasked]
    · exact h.once g
  · intro subscription hsub
    cases hsub
    rfl
  · intro x hx
    cases hx
    exact h.bound service hs
  · intro g hg
    cases hg
    exact ⟨_, rfl, rfl⟩
  · intro x hx
    cases hx
    have hwake := h.wakeup service hs
    unfold wakeups at hwake ⊢
    rw [hframe] at hwake
    exact hwake
  · intro x hx n hn hni
    cases hx
    left
    rcases h.registered service hs n hn hni with hold | hwatch
    · exact askedWeaved_emit (k := ({ k with
        weaveClients := k.weaveClients + 1
        frame := .connected service.id weaved } : Client S).setOwned _) hold _
    · rw [hframe] at hwatch
      cases hwatch
      exact ⟨_, rfl, List.mem_cons_self⟩
  · intro x hx htask
    cases hx
    exact absurd hframe ((h.retry service hs htask).2 weaved)
  · rintro x hx w (hf | hf) <;> cases hf
  · intro x hx hcalled
    cases hx
    exact h.handed service hs hcalled

/-- The connection callback is run for the owned object, which has its service then. -/
theorem onServiceConnected_connecting (h : Connecting k) (hloop : k.frame = .messageLoop)
    (client : WeaveClient) (service : WeaveService) : Connecting (k.onServiceConnected client service) := by
  unfold onServiceConnected
  cases hlock : k.lock client.serviceImpl with
  | none => exact h
  | some impl =>
    obtain ⟨hs, -⟩ := lock_eq_some.1 hlock
    refine ⟨⟨h.task, h.notification, ?_, h.once⟩, ?_, ?_, ?_, ?_, ?_, ?_, ?_, ?_⟩
    · intro g hg
      have hlt := h.bound impl hs
      have hg' : k.impls ≤ g := hg
      refine ⟨(h.log g hg).1, ?_⟩
      rw [called_emit]
      have hne : ¬(ClientEffect.connectionCallback impl.id).calls g = true := by
        simp only [ClientEffect.calls, beq_iff_eq]
        omega
      rw [if_neg hne]
      exact (h.log g hg).2
    · intro subscription hsub
      cases hsub
      rfl
    · intro x hx
      cases hx
      exact h.bound impl hs
    · intro g hg
      have hf : ((k.setOwned { impl with weaveService := some service }).emit
        (.connectionCallback impl.id)).frame = .messageLoop := hloop
      rw [hf] at hg
      cases hg
    · intro x hx
      cases hx
      exact h.wakeup impl hs
    · intro x hx n hn hni
      cases hx
      rcases h.registered impl hs n hn hni with hold | hwatch
      · exact .inl (askedWeaved_emit (k := k.setOwned _) hold _)
      · exact .inr hwatch
    · intro x hx htask
      cases hx
      exact h.retry impl hs htask
    · intro x hx w hf
      cases hx
      exact h.fresh impl hs w hf
    · intro x hx _
      cases hx
      rfl

/-- A command has one effect, which is no part of the connection. -/
theorem onCommand_emit (k : Client S) (client : WeaveClient) (componentName commandName : S.String16)
    (command : ℕ) : ∃ e : ClientEffect, k.onCommand client componentName commandName command = k.emit e ∧
      ∀ impl, e.asks impl = false ∧ e.calls impl = false := by
  unfold onCommand
  split
  · split
    · exact ⟨_, rfl, fun _ => ⟨rfl, rfl⟩⟩
    · exact ⟨_, rfl, fun _ => ⟨rfl, rfl⟩⟩
  · exact ⟨_, rfl, fun _ => ⟨rfl, rfl⟩⟩

theorem onCommand_counts (k : Client S) (client : WeaveClient) (componentName commandName : S.String16)
    (command impl : ℕ) :
    (k.onCommand client componentName commandName command).asked impl = k.asked impl ∧
      (k.onCommand client componentName commandName command).called impl = k.called impl := by
  obtain ⟨e, heq, he⟩ := k.onCommand_emit client componentName commandName command
  obtain ⟨hasks, hcalls⟩ := he impl
  rw [heq, asked_emit, called_emit, hasks, hcalls]
  exact ⟨rfl, rfl⟩

theorem onCommand_connecting (h : Connecting k) (client : WeaveClient) (componentName commandName : S.String16)
    (command : ℕ) : Connecting (k.onCommand client componentName commandName command) := by
  have hcounts := k.onCommand_counts client componentName commandName command
  obtain ⟨e, heq, -⟩ := k.onCommand_emit client componentName commandName command
  rw [heq] at hcounts ⊢
  exact h.continues ⟨rfl, fun g => (hcounts g).1, fun g => (hcounts g).2, fun _ _ ha => askedWeaved_emit ha e,
    h.subscribed, fun service hs => ⟨service, hs, rfl, rfl⟩, fun service hs _ => ⟨service, hs, rfl⟩,
    fun _ ht => .inl ht, fun _ hn => .inl hn, .same, fun _ _ => rfl⟩

/-- The thread is back in the message loop. -/
theorem messageLoop_connecting (h : Connecting k) (hwaits : ∀ impl, k.frame.waits impl = 0)
    (hframe : ∀ impl weaved, k.frame ≠ .watchesService impl weaved) :
    Connecting ({ k with frame := .messageLoop } : Client S) := by
  refine h.continues (.of_same h rfl rfl rfl (fun _ ht => .inl ht) (fun _ hn => .inl hn)
    (.rest _ rfl hframe) fun service _ => ?_)
  unfold wakeups
  rw [hwaits]
  rfl

/-! ## Between two tasks -/

/-- A `TryConnecting` task is queued. -/
def TriesToConnect (k : Client S) (impl : ℕ) : Prop := .tryConnecting impl ∈ k.tasks

/-- The `ServiceImpl` will be told of the death of a weaved it has asked to connect. -/
def WatchesWeaved (k : Client S) (impl : ℕ) : Prop :=
  ∃ notification ∈ k.deathNotifications, notification.impl = impl ∧ k.AskedWeaved impl notification.weaved

/-- A `ReconnectOnServiceDisconnection` task is queued. -/
def Reconnects (k : Client S) (impl : ℕ) : Prop := .reconnectOnServiceDisconnection impl ∈ k.tasks

/-- Exactly one of three. -/
def ExactlyOne (p q r : Prop) : Prop := (p ∧ ¬q ∧ ¬r) ∨ (¬p ∧ q ∧ ¬r) ∨ (¬p ∧ ¬q ∧ r)

theorem wakeups_eq_zero {impl : ℕ} (h : k.wakeups impl = 0) :
    (∀ task ∈ k.tasks, task.impl ≠ impl) ∧ ∀ n ∈ k.deathNotifications, n.impl ≠ impl := by
  unfold wakeups at h
  constructor
  · intro task htask himpl
    have hpos : 0 < k.tasks.countP (fun task => decide (task.impl = impl)) :=
      List.countP_pos_iff.2 ⟨task, htask, decide_eq_true himpl⟩
    omega
  · intro n hn himpl
    have hpos : 0 < k.deathNotifications.countP (fun n => decide (n.impl = impl)) :=
      List.countP_pos_iff.2 ⟨n, hn, decide_eq_true himpl⟩
    omega

/-- A queued task is the only wake-up. -/
theorem task_only {task : ClientTask} (htask : task ∈ k.tasks) (h : k.wakeups task.impl = 1) :
    (∀ task' ∈ k.tasks, task'.impl = task.impl → task' = task) ∧
      ∀ n ∈ k.deathNotifications, n.impl ≠ task.impl := by
  have herase := wakeups_eraseTask htask task.impl
  rw [if_pos rfl, h] at herase
  have hzero : wakeups { k with tasks := k.tasks.erase task } task.impl = 0 := by omega
  obtain ⟨htasks, hn⟩ := wakeups_eq_zero hzero
  refine ⟨fun task' htask' himpl => ?_, hn⟩
  by_contra hne
  exact htasks task' ((List.mem_erase_of_ne hne).2 htask') himpl

theorem exactly_one (h : Connecting k) (hframe : k.frame.impl = none) {service : ServiceImpl}
    (hs : k.owned = some service) :
    ExactlyOne (k.TriesToConnect service.id) (k.WatchesWeaved service.id) (k.Reconnects service.id) := by
  have hwake := h.wakeup service hs
  by_cases htask : ∃ task ∈ k.tasks, task.impl = service.id
  · obtain ⟨task, htask, himpl⟩ := htask
    rw [← himpl] at hwake
    obtain ⟨honly, hnone⟩ := task_only htask hwake
    have hwatch : ¬k.WatchesWeaved service.id := by
      rintro ⟨n, hn, hni, -⟩
      exact hnone n hn (hni.trans himpl.symm)
    cases task with
    | tryConnecting impl =>
      cases himpl
      have hre : ¬k.Reconnects service.id := by
        intro hre
        cases honly _ hre rfl
      exact .inl ⟨htask, hwatch, hre⟩
    | reconnectOnServiceDisconnection impl =>
      cases himpl
      have htry : ¬k.TriesToConnect service.id := by
        intro htry
        cases honly _ htry rfl
      exact .inr (.inr ⟨htry, hwatch, htask⟩)
  · -- no task: the wake-up is a death notification
    have hcount : k.tasks.countP (fun task => decide (task.impl = service.id)) = 0 := by
      rw [List.countP_eq_zero]
      intro task hmem himpl
      exact htask ⟨task, hmem, of_decide_eq_true himpl⟩
    have hwaits := Frame.waits_of_impl hframe service.id
    unfold wakeups at hwake
    have hpos : 0 < k.deathNotifications.countP (fun n => decide (n.impl = service.id)) := by omega
    obtain ⟨n, hn, hni⟩ := List.countP_pos_iff.1 hpos
    have hni := of_decide_eq_true hni
    refine .inr (.inl ⟨fun htry => htask ⟨_, htry, rfl⟩, ⟨n, hn, hni, ?_⟩, fun hre => htask ⟨_, hre, rfl⟩⟩)
    rcases h.registered service hs n hn hni with hasked | hwatches
    · exact hasked
    · rw [hwatches] at hframe
      cases hframe

end Client

end SystemWeaved
