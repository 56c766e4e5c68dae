import SystemWeaved.Proof.Connecting
import SystemWeaved.Proof.Handlers

/-!
# A subscription is never stuck

A connection callback is paid for by a call of `connect`, and a `ServiceImpl` calls `connect`
once. The call, the pending client in weaved, weaved's answer and the callback are one token
that is handed on and never copied (`Paid`), in whatever order the calls are handled and
whatever dies on the way.

* `subscription_alive`: every subscription between two tasks.
-/

namespace SystemWeaved

/-- The object was made for the `ServiceImpl` of the client. -/
def WeaveClient.isOf (c impl : ℕ) (client : WeaveClient) : Bool := client.client = c ∧ client.serviceImpl = impl

/-- The answer of weaved to the `ServiceImpl`. -/
def ClientCall.token {S : Strings} (c impl : ℕ) : ClientCall S → Bool
  | .onServiceConnected client _ => client.isOf c impl
  | .onCommand _ _ _ _ => false

/-- A call that leads to the connection callback of the `ServiceImpl`. -/
def Message.token {S : Strings} (c impl : ℕ) : Message S → Bool
  | .connect _ client => client.isOf c impl
  | .onServiceConnected client _ => client.isOf c impl
  | .registerNotificationListener _ _ => false
  | .onCommand _ _ _ _ => false

/-! ## weaved hands the tokens on -/

namespace Manager

variable {S : Strings} {m : Manager}

/-- The clients of the `ServiceImpl` that wait for an answer. -/
def waiting (m : Manager) (c impl : ℕ) : ℕ := m.pendingClients.countP (WeaveClient.isOf c impl)

/-- They, and the answers weaved gives. -/
def carried (r : Manager × List (ClientCall S)) (c impl : ℕ) : ℕ :=
  r.1.waiting c impl + r.2.countP (ClientCall.token c impl)

theorem createServices_carried (device : Device) (watch : WeaveClient → Bool) (c impl : ℕ)
    (clients : List WeaveClient) : ∀ m : Manager,
    carried (createServices (S := S) device watch m clients) c impl =
      m.waiting c impl + clients.countP (WeaveClient.isOf c impl) := by
  induction clients with
  | nil => exact fun _ => rfl
  | cons client clients ih =>
    intro m
    have hstep := ih (m.createService (S := S) device watch client).1
    have hwait : (m.createService (S := S) device watch client).1.waiting c impl = m.waiting c impl := rfl
    rw [hwait] at hstep
    have htoken : ClientCall.token c impl (m.createService (S := S) device watch client).2 = client.isOf c impl := rfl
    have hcons : createServices (S := S) device watch m (client :: clients) =
        ((createServices device watch (m.createService (S := S) device watch client).1 clients).1,
          (m.createService (S := S) device watch client).2 ::
            (createServices device watch (m.createService (S := S) device watch client).1 clients).2) := rfl
    rw [hcons]
    unfold carried at hstep ⊢
    rw [List.countP_cons, List.countP_cons, htoken]
    dsimp only
    omega

/-- Every pending client gets one answer. -/
theorem createServicesForClients_carried (m : Manager) (device : Device) (watch : WeaveClient → Bool)
    (c impl : ℕ) : carried (m.createServicesForClients (S := S) device watch) c impl = m.waiting c impl := by
  rw [createServicesForClients, createServices_carried]
  exact Nat.zero_add _

theorem createDevice_carried (m : Manager) (watch : WeaveClient → Bool) (c impl : ℕ) :
    carried (m.createDevice (S := S) watch) c impl = m.waiting c impl := by
  unfold createDevice
  split
  · rfl
  · exact createServicesForClients_carried _ _ watch c impl

theorem connect_carried (m : Manager) (client : WeaveClient) (watch : WeaveClient → Bool) (c impl : ℕ) :
    carried (m.connect (S := S) client watch) c impl =
      m.waiting c impl + if client.isOf c impl then 1 else 0 := by
  have hpending : waiting { m with pendingClients := m.pendingClients ++ [client] } c impl =
      m.waiting c impl + if client.isOf c impl then 1 else 0 := by
    unfold waiting
    rw [List.countP_append, List.countP_singleton]
  unfold connect
  dsimp only
  split
  · rw [createServicesForClients_carried, hpending]
  · exact hpending

end Manager

namespace System

variable {S : Strings} {s t : System S} {e : Event S}

/-- The clients of the `ServiceImpl` that wait in the running weaved. -/
def waiting (s : System S) (c impl : ℕ) : ℕ :=
  match s.weaved with
  | some manager => manager.waiting c impl
  | none => 0

/-- The connection callbacks that have been run or can still come. -/
def tokens (s : System S) (c impl : ℕ) : ℕ :=
  s.inFlight.countP (Message.token c impl) + s.waiting c impl + (s.clients c).called impl

/-- Each of them was asked for. -/
def Paid (s : System S) : Prop := ∀ c impl, s.tokens c impl ≤ (s.clients c).asked impl

theorem waiting_some {manager : Manager} (hw : s.weaved = some manager) (c impl : ℕ) :
    s.waiting c impl = manager.waiting c impl := by
  unfold waiting
  rw [hw]

theorem sent_token (s : System S) (c impl : ℕ) (call : ClientCall S) :
    (s.sent call).token c impl = call.token c impl := by
  cases call <;> rfl

theorem tokens_setWeaved {manager : Manager} (hw : s.weaved = some manager) (r : Manager × List (ClientCall S))
    (c impl : ℕ) :
    (s.setWeaved r).tokens c impl + manager.waiting c impl = s.tokens c impl + Manager.carried r c impl := by
  have hcalls : (r.2.map s.sent).countP (Message.token c impl) = r.2.countP (ClientCall.token c impl) := by
    rw [List.countP_map]
    exact List.countP_congr fun call _ => by simp [sent_token]
  have hflight : (s.setWeaved r).inFlight.countP (Message.token c impl) =
      s.inFlight.countP (Message.token c impl) + r.2.countP (ClientCall.token c impl) := by
    rw [← hcalls]
    exact List.countP_append
  have hwait : (s.setWeaved r).waiting c impl = r.1.waiting c impl := rfl
  have hcalled : ((s.setWeaved r).clients c).called impl = (s.clients c).called impl := rfl
  unfold tokens Manager.carried
  rw [hflight, hwait, hcalled, waiting_some hw]
  omega

/-- A message that is taken takes its token with it. -/
theorem tokens_take {message : Message S} (hm : message ∈ s.inFlight) (c impl : ℕ) :
    (s.take message).tokens c impl + (if message.token c impl then 1 else 0) = s.tokens c impl := by
  have hperm := (List.perm_cons_erase hm).countP_eq (Message.token c impl)
  rw [List.countP_cons] at hperm
  have hwait : (s.take message).waiting c impl = s.waiting c impl := rfl
  have hclient : (s.take message).clients c = s.clients c := rfl
  unfold tokens
  rw [hperm, hwait, hclient]
  unfold take
  dsimp only
  omega

theorem tokens_take_le (message : Message S) (c impl : ℕ) :
    (s.take message).tokens c impl ≤ s.tokens c impl := by
  have hsub := List.Sublist.countP_le (p := Message.token c impl)
    (List.erase_sublist (a := message) (l := s.inFlight))
  exact Nat.add_le_add_right (Nat.add_le_add_right hsub _) _

theorem tokens_send (message : Message S) (c impl : ℕ) :
    (s.send message).tokens c impl = s.tokens c impl + if message.token c impl then 1 else 0 := by
  have hcount : (s.send message).inFlight.countP (Message.token c impl) =
      s.inFlight.countP (Message.token c impl) + if message.token c impl then 1 else 0 := by
    unfold send
    rw [List.countP_append, List.countP_singleton]
  have hwait : (s.send message).waiting c impl = s.waiting c impl := rfl
  have hclient : (s.send message).clients c = s.clients c := rfl
  unfold tokens
  rw [hcount, hwait, hclient]
  omega

theorem tokens_setClient (c d : ℕ) (k : Client S) (impl : ℕ) :
    (s.setClient c k).tokens d impl + (s.clients d).called impl =
      s.tokens d impl + ((s.setClient c k).clients d).called impl := by
  have hwait : (s.setClient c k).waiting d impl = s.waiting d impl := rfl
  have hflight : (s.setClient c k).inFlight = s.inFlight := rfl
  unfold tokens
  rw [hwait, hflight]
  omega

theorem Paid.of_le (hp : Paid s) (h : ∀ c impl, t.tokens c impl + (s.clients c).asked impl ≤
    s.tokens c impl + (t.clients c).asked impl) : Paid t := by
  intro c impl
  have hpaid := hp c impl
  have hle := h c impl
  omega

/-- A client that asks for nothing and is called for nothing. -/
theorem Paid.setClient (hp : Paid s) {c : ℕ} {k : Client S} (hasked : ∀ impl, k.asked impl = (s.clients c).asked impl)
    (hcalled : ∀ impl, k.called impl = (s.clients c).called impl) : Paid (s.setClient c k) := by
  refine hp.of_le fun d impl => ?_
  have htokens := tokens_setClient (s := s) c d k impl
  by_cases hd : d = c
  · subst hd
    rw [setClient_self] at htokens ⊢
    rw [hcalled] at htokens
    rw [hasked]
    omega
  · rw [setClient_ne hd] at htokens ⊢
    omega

theorem Paid.take (hp : Paid s) (message : Message S) : Paid (s.take message) :=
  hp.of_le fun c impl => Nat.add_le_add_right (tokens_take_le message c impl) _

theorem Paid.send (hp : Paid s) {message : Message S} (h : ∀ c impl, message.token c impl = false) :
    Paid (s.send message) := by
  refine hp.of_le fun c impl => ?_
  rw [tokens_send, h]
  exact le_rfl

theorem Paid.setWeaved (hp : Paid s) {manager : Manager} (hw : s.weaved = some manager)
    {r : Manager × List (ClientCall S)} (hr : ∀ c impl, Manager.carried r c impl = manager.waiting c impl) :
    Paid (s.setWeaved r) := by
  refine hp.of_le fun c impl => ?_
  have htokens := tokens_setWeaved hw r c impl
  have hclient : (s.setWeaved r).clients c = s.clients c := rfl
  rw [hr c impl] at htokens
  rw [hclient]
  omega

theorem WeavedStep.carried {manager : Manager} {r : Manager × List (ClientCall S)} (h : WeavedStep manager r)
    (c impl : ℕ) : Manager.carried r c impl = manager.waiting c impl := by
  cases h with
  | created watch => exact Manager.createDevice_carried manager watch c impl
  | disconnected client => rfl
  | gone service => rfl
  | command device hdevice handler hhandler command =>
    unfold Manager.carried Manager.runHandler
    split
    · rfl
    · split <;> rfl

/-- `connect` sends what it is asked for. -/
theorem asks_paid (hp : Paid s) {c impl weaved : ℕ} (hc : Client.Connecting (s.clients c))
    (hframe : (s.clients c).frame = .watchesService impl weaved) :
    Paid ((s.setClient c ((s.clients c).connectManager c impl weaved)).send
      (.connect weaved ((s.clients c).makeWeaveClient c impl))) := by
  obtain ⟨service, -, hid, -, heq⟩ := Client.connectManager_eq hc (c := c) hframe
  refine hp.of_le fun d g => ?_
  have htokens := tokens_setClient (s := s) c d ((s.clients c).connectManager c impl weaved) g
  rw [tokens_send]
  have hsend : ∀ message : Message S,
    ((s.setClient c ((s.clients c).connectManager c impl weaved)).send message).clients d =
      (s.setClient c ((s.clients c).connectManager c impl weaved)).clients d := fun _ => rfl
  rw [hsend]
  by_cases hd : d = c
  · subst hd
    rw [setClient_self] at htokens ⊢
    have hcalled : ((s.clients d).connectManager d impl weaved).called g = (s.clients d).called g := by
      rw [heq]
      rfl
    have hasked : ((s.clients d).connectManager d impl weaved).asked g =
        (s.clients d).asked g + if impl = g then 1 else 0 := by
      rw [heq, Client.asked_emit]
      simp only [ClientEffect.asks, Client.makeWeaveClient, beq_iff_eq]
      rfl
    have htoken : (Message.connect (S := S) weaved ((s.clients d).makeWeaveClient d impl)).token d g =
        decide (impl = g) := by
      simp [Message.token, WeaveClient.isOf, Client.makeWeaveClient]
    rw [hcalled] at htokens
    rw [hasked, htoken]
    simp only [decide_eq_true_eq]
    omega
  · have htoken : (Message.connect (S := S) weaved ((s.clients c).makeWeaveClient c impl)).token d g = false := by
      simp [Message.token, WeaveClient.isOf, Client.makeWeaveClient, Ne.symm hd]
    rw [setClient_ne hd] at htokens ⊢
    rw [htoken]
    simp only [Bool.false_eq_true, if_false]
    omega

/-- The callback takes the place of the answer. -/
theorem serviceArrives_paid (hp : Paid s) {client : WeaveClient} {service : WeaveService}
    (hm : .onServiceConnected client service ∈ s.inFlight) :
    Paid ((s.take (.onServiceConnected client service)).setClient client.client
      ((s.clients client.client).onServiceConnected client service)) := by
  refine hp.of_le fun d g => ?_
  have htake := tokens_take hm d g
  have htokens := tokens_setClient (s := s.take (.onServiceConnected client service)) client.client d
    ((s.clients client.client).onServiceConnected client service) g
  have hsame : (s.take (.onServiceConnected client service)).clients d = s.clients d := rfl
  rw [hsame] at htokens
  by_cases hd : d = client.client
  · -- the message has the token that the callback takes, if the object is still owned
    subst hd
    rw [setClient_self] at htokens ⊢
    have hasked : ((s.clients client.client).onServiceConnected client service).asked g =
        (s.clients client.client).asked g := by
      unfold Client.onServiceConnected
      split <;> rfl
    have hcalled : ((s.clients client.client).onServiceConnected client service).called g ≤
        (s.clients client.client).called g + if client.serviceImpl = g then 1 else 0 := by
      unfold Client.onServiceConnected
      split
      · exact Nat.le_add_right _ _
      · rename_i impl hlock
        obtain ⟨-, hid⟩ := Client.lock_eq_some.1 hlock
        rw [Client.called_emit, ← hid]
        simp only [ClientEffect.calls, beq_iff_eq]
        exact le_rfl
    have htoken : (Message.onServiceConnected (S := S) client service).token client.client g =
        decide (client.serviceImpl = g) := by
      simp [Message.token, WeaveClient.isOf]
    rw [htoken] at htake
    simp only [decide_eq_true_eq] at htake
    rw [hasked]
    omega
  · rw [setClient_ne hd] at htokens ⊢
    rw [hsame] at htokens ⊢
    omega

/-- **A token is never copied.** -/
theorem Step.paid (h : Step s e t) (hc : ∀ c, Client.Connecting (s.clients c)) (hp : Paid s) : Paid t := by
  cases h with
  | started hw =>
    refine hp.of_le fun c impl => ?_
    have hnone : s.waiting c impl = 0 := by
      unfold waiting
      rw [hw]
    unfold tokens
    rw [hnone]
    exact le_rfl
  | died =>
    refine hp.of_le fun c impl => ?_
    have hnone : waiting { s with weaved := none } c impl = 0 := rfl
    unfold tokens
    rw [hnone]
    dsimp only
    omega
  | weaved manager hw r hr => exact hp.setWeaved hw hr.carried
  | client c k hk =>
    refine hp.setClient (fun g => ?_) fun g => ?_
    · exact congrArg (List.countP (ClientEffect.asks g)) hk.log_eq
    · exact congrArg (List.countP (ClientEffect.calls g)) hk.log_eq
  | adds c component traitName commandName callback he hloop impl service howned hservice =>
    exact hp.setClient (fun _ => rfl) fun _ => rfl
  | asks c impl weaved hframe => exact asks_paid hp (hc c) hframe
  | listens c impl weaved hframe =>
    have hset : Paid (s.setClient c { s.clients c with frame := .messageLoop }) :=
      hp.setClient (fun _ => rfl) fun _ => rfl
    exact hset.send fun _ _ => rfl
  | registers c service component command hframe manager manager' hw hservice hr =>
    have hset : Paid (s.setClient c { s.clients c with frame := .messageLoop }) :=
      hp.setClient (fun _ => rfl) fun _ => rfl
    refine hset.of_le fun d g => ?_
    have hwait : waiting { s.setClient c { s.clients c with frame := .messageLoop } with weaved := some manager' } d g =
        (s.setClient c { s.clients c with frame := .messageLoop }).waiting d g := by
      rw [waiting_some (s := s.setClient c { s.clients c with frame := .messageLoop }) hw]
      obtain ⟨device, -, rfl⟩ := Manager.registerCommandHandler_cases hr
      rfl
    unfold tokens
    rw [hwait]
  | lost message => exact hp.take message
  | connectArrives weaved client hm manager hw watch =>
    -- the token goes from the message to the pending clients or straight to an answer
    refine hp.of_le fun d g => ?_
    have htake := tokens_take hm d g
    have hset := tokens_setWeaved (s := s.take (.connect weaved client)) hw (manager.connect client watch) d g
    rw [Manager.connect_carried] at hset
    have hsame : ((s.take (.connect weaved client)).setWeaved (manager.connect client watch)).clients d =
      s.clients d := rfl
    have htoken : (Message.connect (S := S) weaved client).token d g = client.isOf d g := rfl
    rw [htoken] at htake
    rw [hsame]
    omega
  | listenerArrives message listener manager hw => exact (hp.take message).setWeaved hw fun _ _ => rfl
  | serviceArrives client service hm hloop => exact serviceArrives_paid hp hm
  | commandArrives client componentName commandName command hm hloop =>
    have hcounts := (s.clients client.client).onCommand_counts client componentName commandName command
    exact (hp.take _).setClient (fun g => (hcounts g).1) fun g => (hcounts g).2

/-! ## Every run -/

/-- Every client is on its way to weaved. -/
theorem Step.connecting (h : Step s e t) (hc : ∀ c, Client.Connecting (s.clients c)) :
    ∀ c, Client.Connecting (t.clients c) := by
  have hset : ∀ (c : ℕ) (k : Client S), Client.Connecting k → ∀ d, Client.Connecting ((s.setClient c k).clients d) := by
    intro c k hk d
    by_cases hd : d = c
    · rw [hd, setClient_self]
      exact hk
    · rw [setClient_ne hd]
      exact hc d
  cases h with
  | started hw => exact hc
  | died => exact hc
  | weaved manager hw r hr => exact hc
  | client c k hk => exact hset c k (hk.connecting (hc c))
  | adds c component traitName commandName callback he hloop impl service howned hservice =>
    exact hset c _ (Client.adding_connecting (hc c) hloop howned service _)
  | asks c impl weaved hframe => exact hset c _ (Client.connectManager_connecting (hc c) hframe)
  | listens c impl weaved hframe =>
    refine hset c _ (Client.messageLoop_connecting (hc c) (fun g => ?_) fun g w => ?_)
    · rw [hframe]
      rfl
    · rw [hframe]
      simp
  | registers c service component command hframe manager manager' hw hservice hr =>
    refine hset c _ (Client.messageLoop_connecting (hc c) (fun g => ?_) fun g w => ?_)
    · rw [hframe]
      rfl
    · rw [hframe]
      simp
  | lost message => exact hc
  | connectArrives weaved client hm manager hw watch => exact hc
  | listenerArrives message listener manager hw => exact hc
  | serviceArrives client service hm hloop =>
    exact hset client.client _ (Client.onServiceConnected_connecting (hc _) hloop client service)
  | commandArrives client componentName commandName command hm hloop =>
    exact hset client.client _ (Client.onCommand_connecting (hc _) client componentName commandName command)

/-- Only an answer to the owned object runs the connection callback. -/
theorem Step.callback (h : Step s e t) {c impl : ℕ} (hcalled : (t.clients c).called impl ≠ (s.clients c).called impl)
    (hc : ∀ c, Client.Connecting (s.clients c)) :
    ∃ service service', (s.clients c).lock impl = some service ∧ (t.clients c).lock impl = some service' := by
  have hset : ∀ (d : ℕ) (k : Client S), (s.setClient d k).clients c = t.clients c →
      k.called impl = (s.clients d).called impl → False := by
    intro d k ht hk
    apply hcalled
    rw [← ht]
    by_cases hd : c = d
    · rw [hd, setClient_self, hk]
    · rw [setClient_ne hd]
  cases h with
  | started hw => exact absurd rfl hcalled
  | died => exact absurd rfl hcalled
  | weaved manager hw r hr => exact absurd rfl hcalled
  | client d k hk => exact (hset d k rfl (congrArg (List.countP (ClientEffect.calls impl)) hk.log_eq)).elim
  | adds d component traitName commandName callback he hloop g service howned hservice =>
    exact (hset d _ rfl rfl).elim
  | asks d g weaved hframe =>
    obtain ⟨service, -, -, -, heq⟩ := Client.connectManager_eq (hc d) (c := d) hframe
    refine (hset d _ rfl ?_).elim
    rw [heq]
    rfl
  | listens d g weaved hframe => exact (hset d _ rfl rfl).elim
  | registers d service component command hframe manager manager' hw hservice hr => exact (hset d _ rfl rfl).elim
  | lost message => exact absurd rfl hcalled
  | connectArrives weaved client hm manager hw watch => exact absurd rfl hcalled
  | listenerArrives message listener manager hw => exact absurd rfl hcalled
  | serviceArrives client service hm hloop =>
    by_cases hd : c = client.client
    · subst hd
      rw [setClient_self] at hcalled ⊢
      unfold Client.onServiceConnected at hcalled ⊢
      cases hlock : (s.clients client.client).lock client.serviceImpl with
      | none => simp [hlock] at hcalled
      | some g =>
        obtain ⟨hs, hid⟩ := Client.lock_eq_some.1 hlock
        rw [hlock] at hcalled
        have heq : g.id = impl := by
          by_contra hne
          apply hcalled
          dsimp only
          rw [Client.called_emit, if_neg (by simpa [ClientEffect.calls] using hne)]
          rfl
        exact ⟨g, _, Client.lock_eq_some.2 ⟨hs, heq⟩, Client.lock_eq_some.2 ⟨rfl, heq⟩⟩
    · rw [setClient_ne hd] at hcalled
      exact absurd rfl hcalled
  | commandArrives client componentName commandName command hm hloop =>
    have hcounts := (s.clients client.client).onCommand_counts client componentName commandName command impl
    exact (hset client.client _ rfl hcounts.2).elim

theorem start_connecting (c : ℕ) : Client.Connecting (({} : System S).clients c) where
  task _ h := by cases h
  notification _ h := by cases h
  log _ _ := ⟨rfl, rfl⟩
  once _ := Nat.zero_le _
  subscribed _ h := by cases h
  bound _ h := by cases h
  frame _ h := by cases h
  wakeup _ h := by cases h
  registered _ h := by cases h
  retry _ h := by cases h
  fresh _ h := by cases h
  handed _ h := by cases h

theorem reach_connecting (h : (machine S).Reach s) : (∀ c, Client.Connecting (s.clients c)) ∧ Paid s := by
  refine Machine.ReachIf.invariant (P := fun s => (∀ c, Client.Connecting (s.clients c)) ∧ Paid s) ?_ ?_ h
  · rintro s rfl
    exact ⟨start_connecting, fun _ _ => le_rfl⟩
  · rintro s e t - ⟨hc, hp⟩ - hn
    have hstep := next_step hn
    exact ⟨hstep.connecting hc, hstep.paid hc hp⟩

/-- **A subscription is never stuck and never hands out a dead service.** In every run: it
owns a `ServiceImpl` with one wake-up, which is one of three between tasks; a `ServiceImpl`
gets one connection callback, while it is owned; and one that got it has its service for as
long as a weak pointer to it can be locked. -/
theorem subscription_alive (h : (machine S).Reach s) (c : ℕ) :
    (∀ subscription, (s.clients c).subscription = some subscription →
      ∃ impl, subscription.service = some impl ∧ (s.clients c).wakeups impl.id = 1 ∧
        ((s.clients c).frame.impl = none → Client.ExactlyOne ((s.clients c).TriesToConnect impl.id)
          ((s.clients c).WatchesWeaved impl.id) ((s.clients c).Reconnects impl.id))) ∧
    (∀ impl, (s.clients c).called impl ≤ 1) ∧
    (∀ e t impl, s.next e = some t → (t.clients c).called impl ≠ (s.clients c).called impl →
      ∃ service service', (s.clients c).lock impl = some service ∧ (t.clients c).lock impl = some service') ∧
    ∀ impl service, (s.clients c).called impl ≠ 0 → (s.clients c).lock impl = some service →
      service.weaveService.isSome := by
  obtain ⟨hc, hp⟩ := reach_connecting h
  refine ⟨fun subscription hsub => ?_, fun impl => ?_, fun e t impl hn hcalled => ?_, fun impl service hcalled hlock => ?_⟩
  · obtain ⟨impl, himpl⟩ := Option.isSome_iff_exists.1 ((hc c).subscribed subscription hsub)
    have howned : (s.clients c).owned = some impl := by
      unfold Client.owned
      rw [hsub]
      exact himpl
    exact ⟨impl, himpl, (hc c).wakeup impl howned, fun hframe => Client.exactly_one (hc c) hframe howned⟩
  · have hpaid := hp c impl
    have honce := (hc c).once impl
    unfold tokens at hpaid
    omega
  · exact (next_step hn).callback hcalled hc
  · obtain ⟨hs, hid⟩ := Client.lock_eq_some.1 hlock
    rw [← hid] at hcalled
    exact (hc c).handed service hs hcalled

/-- A client connects while weaved becomes ready, and gets its callback. -/
def connectedRun : List (Event Strings.plain) :=
  [.startWeaved, .serviceConnect 0, .runTask 0 (.tryConnecting 0) false, .runTask 0 (.tryConnecting 0) true,
    .resume 0 true, .resume 0 true, .handle (.connect 1 ⟨0, 0, 0⟩) fun _ => true, .resume 0 true,
    .createDevice fun _ => true, .handle (.onServiceConnected ⟨0, 0, 0⟩ ⟨1, ⟨0, 0, ⟨0, 0, 0⟩⟩⟩) fun _ => true]

/-- The client at its end. -/
def connectedClient : Client Strings.plain where
  subscription := some ⟨some { id := 0, weaveServiceManager := some 1, weaveService := some ⟨1, 0, 0, 0, 0, 0⟩ }⟩
  deathNotifications := [⟨1, 0⟩]
  impls := 1
  weaveClients := 1
  log := [.connectionCallback 0, .connect 1 ⟨0, 0, 0⟩]

theorem connectedRun_ends : ∃ s, (machine Strings.plain).run {} connectedRun = some s ∧ s.clients 0 = connectedClient := by
  exact ⟨_, rfl, rfl⟩

theorem subscription_alive_test : ∃ s : System Strings.plain, s.clients 0 = connectedClient ∧
    connectedClient.called 0 = 1 ∧ ∀ impl, (s.clients 0).called impl ≤ 1 := by
  obtain ⟨s, hrun, hclient⟩ := connectedRun_ends
  have hreach : (machine Strings.plain).Reach s := Machine.run_reach (.start rfl) hrun
  exact ⟨s, hclient, by decide, (subscription_alive hreach 0).2.1⟩

end System

end SystemWeaved
