import SystemWeaved.Proof.SystemSteps

/-!
# What an event does to one client

An event leaves a client as it is or does one thing to it, which the event tells
(`next_client`). Where `Step` says what can happen to the system, this says which event it was.
-/

namespace SystemWeaved

namespace System

variable {S : Strings} {s t : System S} {e : Event S}

/-- An event makes something of the client `c`. -/
inductive ClientStep (s : System S) (c : ℕ) : Event S → Client S → Prop
  | serviceConnect (hloop : (s.clients c).frame = .messageLoop) (hsub : (s.clients c).subscription = none) :
      ClientStep s c (.serviceConnect c) (s.clients c).beginConnect
  | destroySubscription (hloop : (s.clients c).frame = .messageLoop) :
      ClientStep s c (.destroySubscription c) (s.clients c).destroySubscription
  | exit : ClientStep s c (.exit c) (s.clients c).exit
  | tryConnecting (impl : ℕ) (found : Bool) (binder : Option ℕ) (hloop : (s.clients c).frame = .messageLoop)
      (htask : .tryConnecting impl ∈ (s.clients c).tasks) :
      ClientStep s c (.runTask c (.tryConnecting impl) found)
        (Client.tryConnecting { s.clients c with tasks := (s.clients c).tasks.erase (.tryConnecting impl) }
          impl binder)
  | reconnectOnServiceDisconnection (impl : ℕ) (found : Bool) (hloop : (s.clients c).frame = .messageLoop)
      (htask : .reconnectOnServiceDisconnection impl ∈ (s.clients c).tasks) :
      ClientStep s c (.runTask c (.reconnectOnServiceDisconnection impl) found)
        (Client.reconnectOnServiceDisconnection
          { s.clients c with tasks := (s.clients c).tasks.erase (.reconnectOnServiceDisconnection impl) } impl)
  | registerForDeathNotifications (impl weaved : ℕ) (success : Bool)
      (hframe : (s.clients c).frame = .gotService impl weaved) :
      ClientStep s c (.resume c success) ((s.clients c).registerForDeathNotifications impl weaved success)
  | connectManager (impl weaved : ℕ) (success : Bool)
      (hframe : (s.clients c).frame = .watchesService impl weaved) :
      ClientStep s c (.resume c success) ((s.clients c).connectManager c impl weaved)
  | registerNotificationListener (impl weaved : ℕ) (success : Bool)
      (hframe : (s.clients c).frame = .connected impl weaved) :
      ClientStep s c (.resume c success) { s.clients c with frame := .messageLoop }
  | commandHandlerAdded (service : WeaveService) (component command : S.String16) (success : Bool)
      (hframe : (s.clients c).frame = .registering service component command) :
      ClientStep s c (.resume c success) ((s.clients c).commandHandlerAdded (s.alive service.weaved))
  | deathNotice (notification : DeathNotification) (hn : notification ∈ (s.clients c).deathNotifications) :
      ClientStep s c (.deathNotice c notification) (Client.onWeaveServiceDisconnected
        { s.clients c with deathNotifications := (s.clients c).deathNotifications.erase notification }
        notification.impl)
  | addCommandHandler (component traitName commandName : String) (callback : ℕ) (k : Client S)
      (hloop : (s.clients c).frame = .messageLoop)
      (hk : (s.clients c).addCommandHandler component traitName commandName callback = some k) :
      ClientStep s c (.addCommandHandler c component traitName commandName callback) k
  | onServiceConnected (client : WeaveClient) (service : WeaveService) (watch : WeaveClient → Bool)
      (hc : client.client = c) (hloop : (s.clients c).frame = .messageLoop) :
      ClientStep s c (.handle (.onServiceConnected client service) watch)
        ((s.clients c).onServiceConnected client service)
  | onCommand (client : WeaveClient) (componentName commandName : S.String16) (command : ℕ)
      (watch : WeaveClient → Bool) (hc : client.client = c) (hloop : (s.clients c).frame = .messageLoop) :
      ClientStep s c (.handle (.onCommand client componentName commandName command) watch)
        ((s.clients c).onCommand client componentName commandName command)

/-- The client without which the event does not happen. -/
def Event.actor : Event S → Option ℕ
  | .serviceConnect c | .destroySubscription c | .runTask c _ _ | .resume c _ | .deathNotice c _
  | .addCommandHandler c _ _ _ _ => some c
  | _ => none

/-- The client stays as it is, or the event does something to it while it runs. -/
def Changes (s : System S) (e : Event S) (t : System S) (c : ℕ) : Prop :=
  (e.actor ≠ some c ∧ t.clients c = s.clients c) ∨
    ((s.clients c).running = true ∧ ClientStep s c e (t.clients c))

/-- No client does something. -/
theorem changes_quiet {c : ℕ} (hactor : e.actor = none) (h : t.clients = s.clients) : Changes s e t c := by
  refine .inl ⟨?_, congrFun h c⟩
  rw [hactor]
  exact Option.some_ne_none c |>.symm

/-- Only the client `d` does something. -/
theorem changes_setClient {c d : ℕ} {k : Client S} (hrun : (s.clients d).running = true)
    (h : ClientStep s d e k) : Changes s e (s.setClient d k) c := by
  by_cases hcd : c = d
  · subst hcd
    refine .inr ⟨hrun, ?_⟩
    rw [setClient_self]
    exact h
  · refine .inl ⟨fun hactor => hcd ?_, setClient_ne hcd k⟩
    cases h <;> cases hactor <;> rfl

theorem handle_client {message : Message S} {watch : WeaveClient → Bool} {c : ℕ}
    (h : (s.take message).handle watch message = some t) : Changes s (.handle message watch) t c := by
  cases message with
  | connect weaved client =>
    simp only [handle, Option.some.injEq] at h
    subst h
    rcases (s.take (.connect weaved client)).handleByWeaved_cases weaved
      (fun manager => manager.connect client watch) with heq | ⟨manager, -, heq⟩
    · exact changes_quiet rfl (by rw [heq]; rfl)
    · exact changes_quiet rfl (by rw [heq]; rfl)
  | registerNotificationListener weaved listener =>
    simp only [handle, Option.some.injEq] at h
    subst h
    rcases (s.take (.registerNotificationListener weaved listener)).handleByWeaved_cases weaved
      (fun manager => (manager.registerNotificationListener listener, [])) with heq | ⟨manager, -, heq⟩
    · exact changes_quiet rfl (by rw [heq]; rfl)
    · exact changes_quiet rfl (by rw [heq]; rfl)
  | onServiceConnected client service =>
    simp only [handle] at h
    unfold handleByClient at h
    split at h
    · -- the call to a dead process is lost
      cases h
      exact changes_quiet rfl rfl
    · rename_i hrun hloop
      cases h
      exact changes_setClient (s := s) hrun (.onServiceConnected client service watch rfl hloop)
    · cases h
  | onCommand client componentName commandName command =>
    simp only [handle] at h
    unfold handleByClient at h
    split at h
    · cases h
      exact changes_quiet rfl rfl
    · rename_i hrun hloop
      cases h
      exact changes_setClient (s := s) hrun (.onCommand client componentName commandName command watch rfl hloop)
    · cases h

theorem runTask_client {c d : ℕ} {task : ClientTask} {found : Bool} (h : s.runTask d task found = some t) :
    Changes s (.runTask d task found) t c := by
  unfold runTask at h
  dsimp only at h
  split at h
  · rename_i hrun hloop
    split at h
    · rename_i htask
      cases task with
      | tryConnecting impl =>
        cases h
        exact changes_setClient hrun (.tryConnecting impl found _ hloop htask)
      | reconnectOnServiceDisconnection impl =>
        cases h
        exact changes_setClient hrun (.reconnectOnServiceDisconnection impl found hloop htask)
    · cases h
  · cases h

theorem resume_client {c d : ℕ} {success : Bool} (h : s.resume d success = some t) :
    Changes s (.resume d success) t c := by
  unfold resume at h
  dsimp only at h
  split at h
  · rename_i impl weaved hrun hframe
    cases h
    exact changes_setClient hrun (.registerForDeathNotifications impl weaved success hframe)
  · rename_i impl weaved hrun hframe
    cases h
    exact changes_setClient hrun (.connectManager impl weaved success hframe)
  · rename_i impl weaved hrun hframe
    cases h
    exact changes_setClient hrun (.registerNotificationListener impl weaved success hframe)
  · rename_i service component command hrun hframe
    -- the call succeeds exactly if the weaved of the service is the one that runs
    have hstep := ClientStep.commandHandlerAdded service component command success hframe
    split at h
    · rename_i manager hw
      split at h
      · rename_i heq
        obtain ⟨manager', -, rfl⟩ := Option.map_eq_some_iff.1 h
        rw [show s.alive service.weaved = true by simp [alive, hw, heq]] at hstep
        exact changes_setClient (c := c) hrun hstep
      · rename_i hne
        cases h
        rw [show s.alive service.weaved = false by simp [alive, hne]] at hstep
        exact changes_setClient hrun hstep
    · rename_i hw
      cases h
      rw [show s.alive service.weaved = false by simp [alive, hw]] at hstep
      exact changes_setClient hrun hstep
  · cases h

/-- **What an event does to a client.** -/
theorem next_client (h : s.next e = some t) (c : ℕ) : Changes s e t c := by
  cases e with
  | startWeaved =>
    simp only [next] at h
    split at h
    · cases h
      exact changes_quiet rfl rfl
    · cases h
  | createDevice watch =>
    obtain ⟨manager, -, rfl⟩ := Option.map_eq_some_iff.1 h
    exact changes_quiet rfl rfl
  | weavedDies =>
    obtain ⟨manager, -, rfl⟩ := Option.map_eq_some_iff.1 h
    exact changes_quiet rfl rfl
  | onClientDisconnected client =>
    obtain ⟨manager, -, h⟩ := Option.bind_eq_some_iff.1 h
    split at h
    · cases h
      exact changes_quiet rfl rfl
    · cases h
  | serviceGone service =>
    obtain ⟨manager, -, h⟩ := Option.bind_eq_some_iff.1 h
    split at h
    · cases h
      exact changes_quiet rfl rfl
    · cases h
  | command handler command =>
    obtain ⟨manager, -, h⟩ := Option.bind_eq_some_iff.1 h
    split at h
    · cases h
      exact changes_quiet rfl rfl
    · cases h
  | handle message watch =>
    simp only [next] at h
    split at h
    · exact handle_client h
    · cases h
  | serviceConnect d =>
    simp only [next] at h
    obtain ⟨hrun, hloop, k, hk, rfl⟩ := clientEvent_cases h
    unfold Client.serviceConnect at hk
    split at hk
    · cases hk
    · rename_i hsub
      cases hk
      exact changes_setClient hrun (.serviceConnect hloop hsub)
  | destroySubscription d =>
    simp only [next] at h
    obtain ⟨hrun, hloop, k, hk, rfl⟩ := clientEvent_cases h
    cases hk
    exact changes_setClient hrun (.destroySubscription hloop)
  | exit d =>
    cases h
    cases hrun : (s.clients d).running with
    | true => exact changes_setClient hrun .exit
    | false =>
      -- a process that is dead already
      have hexit : (s.clients d).exit = s.clients d := by
        unfold Client.exit
        rw [← hrun]
      rw [hexit]
      refine changes_quiet rfl (funext fun b => ?_)
      by_cases hbd : b = d
      · subst hbd
        exact setClient_self b _
      · exact setClient_ne hbd _
  | runTask d task found => exact runTask_client h
  | resume d success => exact resume_client h
  | deathNotice d notification =>
    simp only [next] at h
    split at h
    · rename_i hguard
      cases h
      exact changes_setClient hguard.1 (.deathNotice notification hguard.2.1)
    · cases h
  | addCommandHandler d component traitName commandName callback =>
    simp only [next] at h
    obtain ⟨hrun, hloop, k, hk, rfl⟩ := clientEvent_cases h
    exact changes_setClient hrun (.addCommandHandler component traitName commandName callback k hloop hk)

end System

end SystemWeaved
