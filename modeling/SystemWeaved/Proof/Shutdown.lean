import SystemWeaved.Proof.Connect
import SystemWeaved.Spec.Shutdown

/-!
# The end of weaved

`unregistered_exactly`: the destructor of `Manager` takes back, once, the registration of each
client and each listener that is alive and watched, and of no other one that is alive.

* `Watches`: who is registered for, while weaved runs.
* `next_watches`: every event keeps it.
-/

namespace SystemWeaved

namespace ConnectSystem

variable {s t : ConnectSystem}

/-- A live client that is registered for has a service, and no client has two. -/
structure Listed (s : ConnectSystem) : Prop where
  service : ∀ client ∈ s.manager.deathNotifications, client ∉ s.dead → s.HasService client
  nodup : (s.manager.services.map Prod.fst).Nodup

theorem listed_congr (h : Listed s) (hdead : t.dead = s.dead)
    (hreports : t.manager.deathNotifications = s.manager.deathNotifications)
    (hservices : t.manager.services = s.manager.services) : Listed t := by
  constructor
  · intro c
    unfold HasService
    rw [hservices, hdead, hreports]
    exact h.service c
  · rw [hservices]
    exact h.nodup

theorem emplace_nodup {services : List (WeaveClient × BinderWeaveService)} (h : (services.map Prod.fst).Nodup)
    (client : WeaveClient) (service : BinderWeaveService) :
    ((Manager.emplace services client service).map Prod.fst).Nodup := by
  unfold Manager.emplace
  split
  · exact h
  · rename_i hnew
    rw [List.map_append]
    exact List.nodup_append.2 ⟨h, List.nodup_singleton client, by
      intro a ha b hb
      rw [List.mem_singleton.1 hb]
      rintro rfl
      exact hnew ha⟩

theorem resume_listed (hsub : Subscribed s) (h : Listed s) (hs : s.resume = some t) : Listed t := by
  cases resume_cases hs with
  | createDevice hframes hserve =>
    obtain ⟨hdead, hreports, hservices, -⟩ := createServicesForClients_frame hserve
    exact listed_congr h hdead hreports hservices
  | done hframes => exact ⟨h.service, h.nodup⟩
  | @serve client _ _ _ hframes hd =>
    refine ⟨fun c hc hdead => ?_, emplace_nodup h.nodup client _⟩
    exact (emplace_keys _ _ _ _).2 (.inr (h.service c hc hdead))
  | @register client _ _ hframes =>
    refine ⟨fun c hc hdead => ?_, h.nodup⟩
    by_cases hclient : c = client
    · -- it has got its service before it is registered for
      subst hclient
      refine hsub.connecting c ?_ hdead
      rw [connecting_cons hframes]
      exact List.mem_cons_self
    · have hold : c ∈ s.manager.deathNotifications := by
        unfold registerForDeathNotifications at hc
        dsimp only at hc
        split at hc
        · exact hc
        · exact (List.mem_append.1 hc).resolve_right fun hnew => hclient (List.mem_singleton.1 hnew)
      exact h.service c hold hdead

theorem next_listed {e : Event} (hsub : Subscribed s) (h : Listed s) (hn : s.next e = some t) : Listed t := by
  cases e with
  | connect client =>
    obtain ⟨-, hn⟩ := Option.ite_none_right_eq_some.1 hn
    obtain ⟨hdead, hreports, hservices, -⟩ := connect_frame hn
    exact listed_congr h hdead hreports hservices
  | createDevice =>
    obtain ⟨-, hn⟩ := Option.ite_none_right_eq_some.1 hn
    cases hn
    obtain ⟨hdead, hreports, hservices, -⟩ := createDevice_frame s
    exact listed_congr h hdead hreports hservices
  | resume => exact resume_listed hsub h hn
  | clientDies client =>
    cases hn
    exact ⟨fun c hc hd => h.service c hc fun hc => hd (List.mem_cons_of_mem _ hc), h.nodup⟩
  | onClientDisconnected client =>
    obtain ⟨⟨-, hdied, -⟩, hn⟩ := Option.ite_none_right_eq_some.1 hn
    cases hn
    refine ⟨fun c hc hd => ?_, ?_⟩
    · refine onClientDisconnected_hasService.2 ⟨h.service c (List.mem_of_mem_erase hc) hd, ?_⟩
      rintro rfl
      exact hd hdied
    · exact h.nodup.sublist (List.filter_sublist.map Prod.fst)

end ConnectSystem

namespace Shutdown

variable {s t : Shutdown}

/-- Who is registered for while weaved runs: the live listeners that it notifies, and the
clients as in `Subscribed` and `Listed`. -/
structure Watches (s : Shutdown) : Prop where
  subscribed : ConnectSystem.Subscribed s.clients
  listed : ConnectSystem.Listed s.clients
  nodup : s.manager.notificationListeners.Nodup
  listener : ∀ listener ∉ s.deadListeners,
    listener ∈ s.manager.notificationListeners ↔ listener ∈ s.deathNotifications

theorem start_watches : Watches {} where
  subscribed := ⟨fun _ hc => (by cases hc), fun _ hc => (by cases hc)⟩
  listed := ⟨fun _ hc => (by cases hc), List.nodup_nil⟩
  nodup := List.nodup_nil
  listener _ _ := Iff.rfl

/-- The connecting clients do not touch the listeners. -/
theorem connecting_listeners {u v : ConnectSystem} {event : ConnectSystem.Event} (h : u.next event = some v) :
    v.manager.notificationListeners = u.manager.notificationListeners := by
  cases event with
  | connect client =>
    obtain ⟨-, h⟩ := Option.ite_none_right_eq_some.1 h
    unfold ConnectSystem.connect at h
    dsimp only at h
    split at h
    · obtain ⟨-, rfl⟩ := ConnectSystem.createServicesForClients_cases h
      rfl
    · cases h
      rfl
  | createDevice =>
    obtain ⟨-, h⟩ := Option.ite_none_right_eq_some.1 h
    cases h
    unfold ConnectSystem.createDevice
    split <;> rfl
  | resume =>
    cases ConnectSystem.resume_cases h with
    | createDevice hframes hserve =>
      obtain ⟨-, rfl⟩ := ConnectSystem.createServicesForClients_cases hserve
      rfl
    | done hframes => rfl
    | serve hframes hd => rfl
    | register hframes => rfl
  | clientDies client => cases h; rfl
  | onClientDisconnected client =>
    obtain ⟨-, h⟩ := Option.ite_none_right_eq_some.1 h
    cases h
    rfl

theorem registerNotificationListener_watches (h : Watches s) (listener : NotificationListener) :
    Watches (s.registerNotificationListener listener) where
  subscribed := ConnectSystem.subscribed_congr h.subscribed ⟨rfl, rfl, rfl, rfl⟩
  listed := ConnectSystem.listed_congr h.listed rfl rfl rfl
  nodup := h.nodup.insert
  listener other hlive := by
    show other ∈ s.manager.notificationListeners.insert listener ↔
      other ∈ (if listener ∈ s.deadListeners then s.deathNotifications else s.deathNotifications ++ [listener])
    rw [List.mem_insert_iff, h.listener other hlive]
    by_cases hother : other = listener
    · subst hother
      have hlive : other ∉ s.deadListeners := hlive
      rw [if_neg hlive]
      exact iff_of_true (.inl rfl) (List.mem_append_right _ (List.mem_singleton_self _))
    · split
      · exact or_iff_right hother
      · rw [List.mem_append, List.mem_singleton, or_comm]

theorem onNotificationListenerDestroyed_watches (h : Watches s) {listener : NotificationListener}
    (hdied : listener ∈ s.deadListeners) : Watches (s.onNotificationListenerDestroyed listener) where
  subscribed := ConnectSystem.subscribed_congr h.subscribed ⟨rfl, rfl, rfl, rfl⟩
  listed := ConnectSystem.listed_congr h.listed rfl rfl rfl
  nodup := h.nodup.erase listener
  listener other hlive := by
    have hother : other ≠ listener := by
      rintro rfl
      exact hlive hdied
    show other ∈ s.manager.notificationListeners.erase listener ↔ other ∈ s.deathNotifications.erase listener
    rw [List.mem_erase_of_ne hother, List.mem_erase_of_ne hother]
    exact h.listener other hlive

/-- Every event but the destructor keeps it. -/
theorem next_watches {e : Event} (h : Watches s) (hn : s.next e = some t) : Watches t := by
  cases e with
  | connecting event =>
    obtain ⟨-, hn⟩ := Option.ite_none_left_eq_some.1 hn
    obtain ⟨clients, hclients, rfl⟩ := Option.map_eq_some_iff.1 hn
    have hlisteners := connecting_listeners hclients
    constructor
    case subscribed => exact ConnectSystem.next_subscribed h.subscribed hclients
    case listed => exact ConnectSystem.next_listed h.subscribed h.listed hclients
    case nodup =>
      show clients.manager.notificationListeners.Nodup
      rw [hlisteners]
      exact h.nodup
    case listener =>
      intro listener hlive
      show listener ∈ clients.manager.notificationListeners ↔ _
      rw [hlisteners]
      exact h.listener listener hlive
  | registerNotificationListener listener =>
    obtain ⟨-, hn⟩ := Option.ite_none_right_eq_some.1 hn
    cases hn
    exact registerNotificationListener_watches h listener
  | listenerDies listener =>
    cases hn
    exact ⟨h.subscribed, h.listed, h.nodup, fun other hlive =>
      h.listener other fun hmem => hlive (List.mem_cons_of_mem _ hmem)⟩
  | onNotificationListenerDestroyed listener =>
    obtain ⟨⟨-, -, hdied, -⟩, hn⟩ := Option.ite_none_right_eq_some.1 hn
    cases hn
    exact onNotificationListenerDestroyed_watches h hdied
  | destroyManager =>
    obtain ⟨-, hn⟩ := Option.ite_none_right_eq_some.1 hn
    cases hn
    exact ⟨h.subscribed, h.listed, h.nodup, h.listener⟩

theorem reach_watches (h : machine.Reach s) : Watches s := by
  refine Machine.ReachIf.invariant (P := Watches) ?_ ?_ h
  · rintro s rfl
    exact start_watches
  · intro s e t _ hs _ hn
    exact next_watches hs hn

/-- Nobody is unregistered before the destructor runs. -/
theorem unregistered_before (h : machine.Reach s) : s.gone = false → s.unregistered = [] := by
  refine Machine.ReachIf.invariant (P := fun s : Shutdown => s.gone = false → s.unregistered = []) ?_ ?_ h
  · rintro s rfl _
    rfl
  · intro s e t _ hs _ hn hgone
    cases e with
    | connecting event =>
      obtain ⟨-, hn⟩ := Option.ite_none_left_eq_some.1 hn
      obtain ⟨clients, -, rfl⟩ := Option.map_eq_some_iff.1 hn
      exact hs hgone
    | registerNotificationListener listener =>
      obtain ⟨-, hn⟩ := Option.ite_none_right_eq_some.1 hn
      cases hn
      exact hs hgone
    | listenerDies listener =>
      cases hn
      exact hs hgone
    | onNotificationListenerDestroyed listener =>
      obtain ⟨-, hn⟩ := Option.ite_none_right_eq_some.1 hn
      cases hn
      exact hs hgone
    | destroyManager =>
      obtain ⟨-, hn⟩ := Option.ite_none_right_eq_some.1 hn
      cases hn
      cases hgone

/-- What the destructor unregisters. -/
theorem destroyManager_cases (h : machine.Reach s) (hn : s.next .destroyManager = some t) :
    s.clients.frames = [] ∧ t.clients = s.clients ∧ t.deadListeners = s.deadListeners ∧
      t.deathNotifications = s.deathNotifications ∧
      t.unregistered = s.manager.notificationListeners.map .listener ++
        (s.manager.services.map Prod.fst).map .client := by
  obtain ⟨⟨hgone, hframes⟩, hn⟩ := Option.ite_none_right_eq_some.1 hn
  cases hn
  refine ⟨hframes, rfl, rfl, rfl, ?_⟩
  show s.unregistered ++ _ ++ _ = _
  rw [unregistered_before h hgone, List.nil_append, List.map_map]
  rfl

theorem client_mem_unregistered {listeners : List NotificationListener} {clients : List WeaveClient}
    {client : WeaveClient} :
    .client client ∈ listeners.map WatchedBinder.listener ++ clients.map WatchedBinder.client ↔
      client ∈ clients := by
  rw [List.mem_append]
  constructor
  · rintro (h | h)
    · obtain ⟨_, -, hc⟩ := List.mem_map.1 h
      cases hc
    · obtain ⟨c, hmem, hc⟩ := List.mem_map.1 h
      cases hc
      exact hmem
  · exact fun h => .inr (List.mem_map_of_mem h)

theorem listener_mem_unregistered {listeners : List NotificationListener} {clients : List WeaveClient}
    {listener : NotificationListener} :
    .listener listener ∈ listeners.map WatchedBinder.listener ++ clients.map WatchedBinder.client ↔
      listener ∈ listeners := by
  rw [List.mem_append]
  constructor
  · rintro (h | h)
    · obtain ⟨l, hmem, hl⟩ := List.mem_map.1 h
      cases hl
      exact hmem
    · obtain ⟨_, -, hl⟩ := List.mem_map.1 h
      cases hl
  · exact fun h => .inl (List.mem_map_of_mem h)

/-- **The destructor takes back what there is to take back.** In every run, when the `Manager` is
destroyed no binder is unregistered twice, and one that is alive is unregistered if and only if
its death is watched. -/
theorem unregistered_exactly (h : machine.Reach s) (hn : s.next .destroyManager = some t) :
    t.unregistered.Nodup ∧
    (∀ client ∉ t.clients.dead, .client client ∈ t.unregistered ↔
      client ∈ t.clients.manager.deathNotifications) ∧
    ∀ listener ∉ t.deadListeners, .listener listener ∈ t.unregistered ↔ listener ∈ t.deathNotifications := by
  obtain ⟨hframes, hclients, hdead, hreports, hunregistered⟩ := destroyManager_cases h hn
  have hwatches := reach_watches h
  rw [hclients, hdead, hreports, hunregistered]
  refine ⟨?_, fun client hlive => ?_, fun listener hlive => ?_⟩
  · refine List.nodup_append.2 ⟨?_, ?_, ?_⟩
    · exact hwatches.nodup.map fun a b hab => by injection hab
    · exact hwatches.listed.nodup.map fun a b hab => by injection hab
    · intro a ha b hb hab
      obtain ⟨_, -, rfl⟩ := List.mem_map.1 ha
      obtain ⟨_, -, rfl⟩ := List.mem_map.1 hb
      cases hab
  · rw [client_mem_unregistered]
    refine ⟨fun hservice => ?_, fun hreport => hwatches.listed.service client hreport hlive⟩
    -- no client is halfway through its connection
    refine (hwatches.subscribed.service client hservice hlive).resolve_right fun hconnecting => ?_
    unfold ConnectSystem.connecting at hconnecting
    rw [hframes] at hconnecting
    cases hconnecting
  · rw [listener_mem_unregistered]
    exact hwatches.listener listener hlive

/-! ## A run -/

def client : WeaveClient := ⟨0, 0, 0⟩

/-- One listener dies and is forgotten, another one and a client are there to the end. -/
def endingRun : List Event :=
  [.registerNotificationListener ⟨0, 0⟩, .connecting .createDevice, .connecting .resume, .connecting .resume,
    .connecting (.connect client), .connecting .resume, .connecting .resume, .connecting .resume,
    .registerNotificationListener ⟨1, 0⟩, .listenerDies ⟨0, 0⟩, .onNotificationListenerDestroyed ⟨0, 0⟩]

def endingState : Shutdown := (machine.run {} endingRun).get rfl

theorem endingRun_ends : machine.run {} endingRun = some endingState := (Option.some_get _).symm

def endedState : Shutdown := (endingState.next .destroyManager).get rfl

theorem endedState_eq : endingState.next .destroyManager = some endedState := (Option.some_get _).symm

theorem unregistered_exactly_test :
    endedState.unregistered.Nodup ∧
    (∀ client ∉ endedState.clients.dead, .client client ∈ endedState.unregistered ↔
      client ∈ endedState.clients.manager.deathNotifications) ∧
    ∀ listener ∉ endedState.deadListeners, .listener listener ∈ endedState.unregistered ↔
      listener ∈ endedState.deathNotifications :=
  unregistered_exactly (Machine.run_reach (.start rfl) endingRun_ends) endedState_eq

example : endedState.unregistered = [.listener ⟨1, 0⟩, .client client] := by decide

end Shutdown

end SystemWeaved
