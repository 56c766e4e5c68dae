import SystemWeaved.Spec.System

/-!
# What one event does to weaved and its clients

`next_step` puts every event into one of few forms: a client does something on its own
(`LocalStep`), or sends a call, or handles one; or weaved does. Each invariant of the
system is then one case analysis over `Step`, with a lemma on `LocalStep` where it is about
clients.
-/

namespace SystemWeaved

namespace Client

variable {S : Strings} {k k' : Client S}

theorem lock_eq_some {impl : ℕ} {service : ServiceImpl} :
    k.lock impl = some service ↔ k.owned = some service ∧ service.id = impl := by
  unfold lock
  rw [Option.filter_eq_some_iff, decide_eq_true_eq]

/-- The entry `AddCommandHandler` adds. -/
def newEntry (component traitName commandName : String) (callback : ℕ) : CommandHandlerEntry :=
  ⟨component, fullCommandName traitName commandName, callback⟩

/-- The client in the binder call of `AddCommandHandler`. -/
def adding (k : Client S) (impl : ServiceImpl) (service : WeaveService) (entry : CommandHandlerEntry) : Client S :=
  ((({ k with frame := .registering service (S.ToString16 entry.component) (S.ToString16 entry.commandName) } :
    Client S).setOwned { impl with commandHandlers := impl.commandHandlers ++ [entry] }).emit
    (.addCommandHandler impl.id entry))

theorem addCommandHandler_cases {component traitName commandName : String} {callback : ℕ}
    (h : k.addCommandHandler component traitName commandName callback = some k') :
    k' = k.exit ∨ ∃ impl service, k.owned = some impl ∧ impl.weaveService = some service ∧
      k' = k.adding impl service (newEntry component traitName commandName callback) := by
  unfold addCommandHandler at h
  split at h
  · cases h
  · rename_i impl howned
    split at h
    · cases h
    · split at h
      · exact .inl (Option.some.inj h).symm
      · split at h
        · exact .inl (Option.some.inj h).symm
        · rename_i service hservice
          exact .inr ⟨impl, service, howned, hservice, (Option.some.inj h).symm⟩

/-- What a client does on its own. -/
inductive LocalStep (k : Client S) : Client S → Prop
  | subscribed (hloop : k.frame = .messageLoop) (hsub : k.subscription = none) : LocalStep k k.beginConnect
  | unsubscribed (hloop : k.frame = .messageLoop) : LocalStep k k.destroySubscription
  | exited : LocalStep k k.exit
  | tried (hloop : k.frame = .messageLoop) (impl : ℕ) (htask : .tryConnecting impl ∈ k.tasks)
      (binder : Option ℕ) :
      LocalStep k (tryConnecting { k with tasks := k.tasks.erase (.tryConnecting impl) } impl binder)
  | reconnected (hloop : k.frame = .messageLoop) (impl : ℕ)
      (htask : .reconnectOnServiceDisconnection impl ∈ k.tasks) :
      LocalStep k (reconnectOnServiceDisconnection
        { k with tasks := k.tasks.erase (.reconnectOnServiceDisconnection impl) } impl)
  | watched (impl weaved : ℕ) (hframe : k.frame = .gotService impl weaved) (success : Bool) :
      LocalStep k (k.registerForDeathNotifications impl weaved success)
  | noticed (notification : DeathNotification) (hn : notification ∈ k.deathNotifications) :
      LocalStep k (onWeaveServiceDisconnected
        { k with deathNotifications := k.deathNotifications.erase notification } notification.impl)

/-- It has no effect outside. -/
theorem LocalStep.log_eq (h : LocalStep k k') : k'.log = k.log := by
  cases h with
  | subscribed hloop hsub => rfl
  | unsubscribed hloop => rfl
  | exited => rfl
  | tried hloop impl htask binder =>
    unfold tryConnecting
    split
    · rfl
    · split <;> rfl
  | reconnected hloop impl htask =>
    unfold reconnectOnServiceDisconnection
    split <;> rfl
  | watched impl weaved hframe success =>
    unfold registerForDeathNotifications onWeaveServiceDisconnected
    split
    · split <;> rfl
    · rfl
  | noticed notification hn =>
    unfold onWeaveServiceDisconnected
    split <;> rfl

end Client

namespace System

variable {S : Strings} {s t : System S} {e : Event S}

@[simp] theorem setClient_self (c : ℕ) (k : Client S) : (s.setClient c k).clients c = k :=
  Function.update_self ..

theorem setClient_ne {c d : ℕ} (h : d ≠ c) (k : Client S) : (s.setClient c k).clients d = s.clients d :=
  Function.update_of_ne h ..

/-- What weaved does on its own. -/
inductive WeavedStep (manager : Manager) : Manager × List (ClientCall S) → Prop
  | created (watch : WeaveClient → Bool) : WeavedStep manager (manager.createDevice watch)
  | disconnected (client : WeaveClient) : WeavedStep manager (manager.onClientDisconnected client, [])
  | gone (service : BinderWeaveService) :
      WeavedStep manager ({ manager with gone := service :: manager.gone }, [])
  | command (device : Device) (hdevice : manager.device = some device) (handler : CommandHandler)
      (hhandler : handler ∈ device.handlers) (command : ℕ) :
      WeavedStep manager (manager, manager.runHandler handler command)

/-- A message is taken from those in flight. -/
def take (s : System S) (message : Message S) : System S := { s with inFlight := s.inFlight.erase message }

/-- What one event can do. -/
inductive Step (s : System S) (e : Event S) : System S → Prop
  | started (hw : s.weaved = none) : Step s e { s with weaved := some {}, starts := s.starts + 1 }
  | died : Step s e { s with weaved := none }
  | weaved (manager : Manager) (hw : s.weaved = some manager) (r : Manager × List (ClientCall S))
      (h : WeavedStep manager r) : Step s e (s.setWeaved r)
  | client (c : ℕ) (k : Client S) (h : Client.LocalStep (s.clients c) k) : Step s e (s.setClient c k)
  | adds (c : ℕ) (component traitName commandName : String) (callback : ℕ)
      (he : e = .addCommandHandler c component traitName commandName callback)
      (hloop : (s.clients c).frame = .messageLoop) (impl : ServiceImpl) (service : WeaveService)
      (howned : (s.clients c).owned = some impl) (hservice : impl.weaveService = some service) :
      Step s e (s.setClient c ((s.clients c).adding impl service
        (Client.newEntry component traitName commandName callback)))
  | asks (c impl weaved : ℕ) (hframe : (s.clients c).frame = .watchesService impl weaved) :
      Step s e ((s.setClient c ((s.clients c).connectManager c impl weaved)).send
        (.connect weaved ((s.clients c).makeWeaveClient c impl)))
  | listens (c impl weaved : ℕ) (hframe : (s.clients c).frame = .connected impl weaved) :
      Step s e ((s.setClient c { s.clients c with frame := .messageLoop }).send
        (.registerNotificationListener weaved ⟨c, impl⟩))
  | registers (c : ℕ) (service : WeaveService) (component command : S.String16)
      (hframe : (s.clients c).frame = .registering service component command)
      (manager manager' : Manager) (hw : s.weaved = some manager) (hservice : service.weaved = s.starts)
      (hr : manager.registerCommandHandler service.service component command = some manager') :
      Step s e { s.setClient c { s.clients c with frame := .messageLoop } with weaved := some manager' }
  | lost (message : Message S) : Step s e (s.take message)
  | connectArrives (weaved : ℕ) (client : WeaveClient) (hm : .connect weaved client ∈ s.inFlight)
      (manager : Manager) (hw : s.weaved = some manager) (watch : WeaveClient → Bool) :
      Step s e ((s.take (.connect weaved client)).setWeaved (manager.connect client watch))
  | listenerArrives (message : Message S) (listener : NotificationListener) (manager : Manager)
      (hw : s.weaved = some manager) :
      Step s e ((s.take message).setWeaved (manager.registerNotificationListener listener, []))
  | serviceArrives (client : WeaveClient) (service : WeaveService)
      (hm : .onServiceConnected client service ∈ s.inFlight)
      (hloop : (s.clients client.client).frame = .messageLoop) :
      Step s e ((s.take (.onServiceConnected client service)).setClient client.client
        ((s.clients client.client).onServiceConnected client service))
  | commandArrives (client : WeaveClient) (componentName commandName : S.String16) (command : ℕ)
      (hm : .onCommand client componentName commandName command ∈ s.inFlight)
      (hloop : (s.clients client.client).frame = .messageLoop) :
      Step s e ((s.take (.onCommand client componentName commandName command)).setClient client.client
        ((s.clients client.client).onCommand client componentName commandName command))

theorem clientEvent_cases {c : ℕ} {f : Client S → Option (Client S)} (h : s.clientEvent c f = some t) :
    (s.clients c).running = true ∧ (s.clients c).frame = .messageLoop ∧
      ∃ k, f (s.clients c) = some k ∧ t = s.setClient c k := by
  unfold clientEvent at h
  split at h
  · obtain ⟨k, hk, ht⟩ := Option.map_eq_some_iff.1 h
    exact ⟨‹_›, ‹_›, k, hk, ht.symm⟩
  · cases h

theorem handleByClient_cases {c : ℕ} {f : Client S → Client S} (h : s.handleByClient c f = some t) :
    t = s ∨ (s.clients c).frame = .messageLoop ∧ t = s.setClient c (f (s.clients c)) := by
  unfold handleByClient at h
  split at h
  · exact .inl (Option.some.inj h).symm
  · exact .inr ⟨‹_›, (Option.some.inj h).symm⟩
  · cases h

theorem handleByWeaved_cases (s : System S) (weaved : ℕ) (f : Manager → Manager × List (ClientCall S)) :
    s.handleByWeaved weaved f = s ∨
      ∃ manager, s.weaved = some manager ∧ s.handleByWeaved weaved f = s.setWeaved (f manager) := by
  unfold handleByWeaved
  split
  · split
    · exact .inr ⟨_, ‹_›, rfl⟩
    · exact .inl rfl
  · exact .inl rfl

theorem handle_step {message : Message S} {watch : WeaveClient → Bool} (hm : message ∈ s.inFlight)
    (h : (s.take message).handle watch message = some t) : Step s e t := by
  cases message with
  | connect weaved client =>
    simp only [handle, Option.some.injEq] at h
    rcases (s.take (.connect weaved client)).handleByWeaved_cases weaved
      (fun manager => manager.connect client watch) with heq | ⟨manager, hw, heq⟩
    · rw [← h, heq]
      exact .lost _
    · rw [← h, heq]
      exact .connectArrives weaved client hm manager hw watch
  | registerNotificationListener weaved listener =>
    simp only [handle, Option.some.injEq] at h
    rcases (s.take (.registerNotificationListener weaved listener)).handleByWeaved_cases weaved
      (fun manager => (manager.registerNotificationListener listener, [])) with heq | ⟨manager, hw, heq⟩
    · rw [← h, heq]
      exact .lost _
    · rw [← h, heq]
      exact .listenerArrives _ listener manager hw
  | onServiceConnected client service =>
    simp only [handle] at h
    rcases handleByClient_cases h with rfl | ⟨hloop, rfl⟩
    · exact .lost _
    · exact .serviceArrives client service hm hloop
  | onCommand client componentName commandName command =>
    simp only [handle] at h
    rcases handleByClient_cases h with rfl | ⟨hloop, rfl⟩
    · exact .lost _
    · exact .commandArrives client componentName commandName command hm hloop

theorem runTask_step {c : ℕ} {task : ClientTask} {found : Bool} (h : s.runTask c task found = some t) :
    Step s e t := by
  unfold runTask at h
  dsimp only at h
  split at h
  · rename_i hrun hloop
    split at h
    · rename_i htask
      cases task with
      | tryConnecting impl => cases h; exact .client c _ (.tried hloop impl htask _)
      | reconnectOnServiceDisconnection impl => cases h; exact .client c _ (.reconnected hloop impl htask)
    · cases h
  · cases h

theorem resume_step {c : ℕ} {success : Bool} (h : s.resume c success = some t) : Step s e t := by
  unfold resume at h
  dsimp only at h
  split at h
  · cases h; exact .client c _ (.watched _ _ ‹_› success)
  · cases h; exact .asks c _ _ ‹_›
  · cases h; exact .listens c _ _ ‹_›
  · split at h
    · split at h
      · obtain ⟨manager', hr, ht⟩ := Option.map_eq_some_iff.1 h
        cases ht
        exact .registers c _ _ _ ‹_› _ manager' ‹_› ‹_› hr
      · cases h; exact .client c _ .exited
    · cases h; exact .client c _ .exited
  · cases h

/-- **Every event is a step.** -/
theorem next_step {e : Event S} (h : s.next e = some t) : Step s e t := by
  cases e with
  | startWeaved =>
    simp only [next] at h
    split at h
    · cases h; exact .started ‹_›
    · cases h
  | createDevice watch =>
    obtain ⟨manager, hw, rfl⟩ := Option.map_eq_some_iff.1 h
    exact .weaved manager hw _ (.created watch)
  | weavedDies =>
    obtain ⟨manager, hw, rfl⟩ := Option.map_eq_some_iff.1 h
    exact .died
  | onClientDisconnected client =>
    obtain ⟨manager, hw, h⟩ := Option.bind_eq_some_iff.1 h
    split at h
    · cases h
      simpa [setWeaved] using Step.weaved manager hw _ (.disconnected client)
    · cases h
  | serviceGone service =>
    obtain ⟨manager, hw, h⟩ := Option.bind_eq_some_iff.1 h
    split at h
    · cases h
      simpa [setWeaved] using Step.weaved manager hw _ (.gone service)
    · cases h
  | command handler command =>
    obtain ⟨manager, hw, h⟩ := Option.bind_eq_some_iff.1 h
    split at h
    · rename_i hex
      obtain ⟨device, hdevice, hhandler⟩ := hex
      cases h
      exact .weaved manager hw _ (.command device hdevice handler hhandler command)
    · cases h
  | handle message watch =>
    simp only [next] at h
    split at h
    · exact handle_step ‹_› h
    · cases h
  | serviceConnect c =>
    simp only [next] at h
    obtain ⟨-, hloop, k, hk, rfl⟩ := clientEvent_cases h
    unfold Client.serviceConnect at hk
    split at hk
    · cases hk
    · cases hk; exact .client c _ (.subscribed hloop ‹_›)
  | destroySubscription c =>
    simp only [next] at h
    obtain ⟨-, hloop, k, hk, rfl⟩ := clientEvent_cases h
    cases hk
    exact .client c _ (.unsubscribed hloop)
  | exit c => cases h; exact .client c _ .exited
  | runTask c task found => exact runTask_step h
  | resume c success => exact resume_step h
  | deathNotice c notification =>
    simp only [next] at h
    split at h
    · rename_i hguard
      cases h
      exact .client c _ (.noticed notification hguard.2.1)
    · cases h
  | addCommandHandler c component traitName commandName callback =>
    simp only [next] at h
    obtain ⟨-, hloop, k, hk, rfl⟩ := clientEvent_cases h
    rcases Client.addCommandHandler_cases hk with rfl | ⟨impl, service, howned, hservice, rfl⟩
    · exact .client c _ .exited
    · exact .adds c component traitName commandName callback rfl hloop impl service howned hservice

end System

end SystemWeaved
