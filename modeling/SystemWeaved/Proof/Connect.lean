import SystemWeaved.Spec.Connect

/-!
# Connecting clients are served once, and forgotten when they die

* `served_once`: each call of `connect` is answered by one `onServiceConnected`, or still
  waits, at every point and for any nesting.
* `serveAll`: without nested calls, this is the loop of `Manager.connect`.
* `dead_forgotten_iff`: dead clients neither wait nor have a service once their deaths have been
  reported, exactly if each step of the run is `Noticed`: no client dies between `connect` and
  the registration for its death, and none comes back after it. `died_waiting` is a run
  without this.
-/

namespace SystemWeaved

/-- The client whose `onServiceConnected` is under way. -/
def ConnectFrame.current : ConnectFrame → List WeaveClient
  | .onServiceConnected client _ => [client]
  | .createDevice | .nextClient _ => []

namespace ConnectSystem

variable {s t : ConnectSystem}

/-- What `resume` does, by the function that goes on. -/
inductive Resumed (s : ConnectSystem) : ConnectSystem → Prop
  | createDevice {frames : List ConnectFrame} {t : ConnectSystem} (hframes : s.frames = .createDevice :: frames)
      (hserve : ({ s with frames }).createServicesForClients = some t) : Resumed s t
  | done {frames : List ConnectFrame} (hframes : s.frames = .nextClient [] :: frames) :
      Resumed s { s with frames }
  | serve {client : WeaveClient} {clients : List WeaveClient} {frames : List ConnectFrame} {device : Device}
      (hframes : s.frames = .nextClient (client :: clients) :: frames) (hd : s.manager.device = some device) :
      Resumed s { s with
        manager := makeService s.manager device client
        served := s.served ++ [client]
        frames := .onServiceConnected client clients :: frames }
  | register {client : WeaveClient} {clients : List WeaveClient} {frames : List ConnectFrame}
      (hframes : s.frames = .onServiceConnected client clients :: frames) :
      Resumed s { s with
        manager := registerForDeathNotifications s.manager s.dead client
        frames := .nextClient clients :: frames }

theorem resume_cases (hs : s.resume = some t) : Resumed s t := by
  unfold resume at hs
  split at hs
  · cases hs
  · rename_i frames hframes
    exact .createDevice hframes hs
  · rename_i frames hframes
    cases hs
    exact .done hframes
  · rename_i client clients frames hframes
    obtain ⟨device, hd, rfl⟩ := Option.map_eq_some_iff.1 hs
    exact .serve hframes hd
  · rename_i client clients frames hframes
    cases hs
    exact .register hframes

theorem createServicesForClients_eq {device : Device} (h : s.manager.device = some device) :
    s.createServicesForClients = some { s with
      manager := { s.manager with pendingClients := [] }
      frames := .nextClient s.manager.pendingClients :: s.frames } := by
  unfold createServicesForClients
  rw [h]

/-- `CHECK(device_)` has not failed. -/
theorem createServicesForClients_cases (hs : s.createServicesForClients = some t) :
    s.manager.device ≠ none ∧ t = { s with
      manager := { s.manager with pendingClients := [] }
      frames := .nextClient s.manager.pendingClients :: s.frames } := by
  cases hd : s.manager.device with
  | none =>
    unfold createServicesForClients at hs
    rw [hd] at hs
    cases hs
  | some device =>
    rw [createServicesForClients_eq hd] at hs
    cases hs
    exact ⟨Option.some_ne_none _, rfl⟩

/-! ## Every connect is answered once -/

/-- How often a client still waits: in `pending_clients_`, and in the batches. -/
def waits (s : ConnectSystem) (client : WeaveClient) : ℕ :=
  s.manager.pendingClients.count client + (s.frames.flatMap ConnectFrame.batch).count client

/-- What holds between any two steps. -/
structure Balanced (s : ConnectSystem) : Prop where
  count : ∀ client, s.served.count client + s.waits client = s.connects.count client
  served : s.manager.device = none → s.served = []
  device : s.frames ≠ [] → s.manager.device ≠ none
  pending : s.manager.pendingClients = [] ∨ s.manager.device = none ∨ s.frames.head? = some .createDevice

theorem waits_cons {frame : ConnectFrame} {frames : List ConnectFrame} (h : s.frames = frame :: frames)
    (client : WeaveClient) :
    s.waits client = s.manager.pendingClients.count client +
      (frame.batch.count client + (frames.flatMap ConnectFrame.batch).count client) := by
  unfold waits
  rw [h, List.flatMap_cons, List.count_append]

/-- The batch is taken out of `pending_clients_`: nobody is lost or doubled. -/
theorem createServicesForClients_waits (hs : s.createServicesForClients = some t) (client : WeaveClient) :
    t.waits client = s.waits client := by
  obtain ⟨-, rfl⟩ := createServicesForClients_cases hs
  rw [waits_cons rfl]
  show 0 + _ = s.waits client
  rw [Nat.zero_add]
  rfl

theorem connect_waits {client : WeaveClient} (hs : s.connect client = some t) (c : WeaveClient) :
    t.waits c = s.waits c + [client].count c := by
  have hwaits : (s.manager.pendingClients ++ [client]).count c + (s.frames.flatMap ConnectFrame.batch).count c =
      s.waits c + [client].count c := by
    unfold waits
    rw [List.count_append]
    omega
  unfold connect at hs
  dsimp only at hs
  split at hs
  · rw [createServicesForClients_waits hs]
    exact hwaits
  · cases hs
    exact hwaits

/-- A client that no longer waits has been served. -/
theorem resume_waits (hs : s.resume = some t) (c : WeaveClient) :
    t.served.count c + t.waits c = s.served.count c + s.waits c := by
  cases resume_cases hs with
  | createDevice hframes hserve =>
    rw [createServicesForClients_waits hserve, waits_cons hframes]
    obtain ⟨-, rfl⟩ := createServicesForClients_cases hserve
    simp only [waits, ConnectFrame.batch, List.count_nil, Nat.zero_add]
  | done hframes =>
    rw [waits_cons hframes]
    simp only [waits, ConnectFrame.batch, List.count_nil, Nat.zero_add]
  | serve hframes hd =>
    rw [waits_cons hframes, waits_cons rfl]
    simp only [ConnectFrame.batch, List.count_append, List.count_cons, List.count_nil, makeService]
    omega
  | register hframes =>
    rw [waits_cons hframes, waits_cons rfl]
    rfl

theorem createServicesForClients_balanced
    (hcount : ∀ client, s.served.count client + s.waits client = s.connects.count client)
    (hs : s.createServicesForClients = some t) : Balanced t := by
  have hwaits := createServicesForClients_waits hs
  obtain ⟨hdevice, rfl⟩ := createServicesForClients_cases hs
  constructor
  case count =>
    intro client
    rw [hwaits]
    exact hcount client
  case served => exact fun hnone => absurd hnone hdevice
  case device => exact fun _ => hdevice
  case pending => exact .inl rfl

theorem connect_balanced (h : Balanced s) {client : WeaveClient} (hs : s.connect client = some t) :
    Balanced t := by
  have hcount : ∀ c, s.served.count c + t.waits c = (s.connects ++ [client]).count c := by
    intro c
    rw [connect_waits hs, List.count_append, ← h.count c, Nat.add_assoc]
  unfold connect at hs
  dsimp only at hs
  split at hs
  · refine createServicesForClients_balanced (fun c => ?_) hs
    rw [← createServicesForClients_waits hs]
    exact hcount c
  · rename_i hd
    cases hs
    exact ⟨hcount, fun _ => h.served hd, fun hframes => absurd hd (h.device hframes), .inr (.inl hd)⟩

theorem createDevice_balanced (h : Balanced s) : Balanced s.createDevice := by
  unfold createDevice
  cases hd : s.manager.device with
  | some device => exact h
  | none =>
    exact ⟨h.count, fun hnone => (by cases hnone), fun _ hnone => (by cases hnone), .inr (.inr rfl)⟩

theorem resume_balanced (h : Balanced s) (hs : s.resume = some t) : Balanced t := by
  have hwaits := resume_waits hs
  have hpending : s.frames.head? ≠ some .createDevice →
      s.manager.pendingClients = [] ∨ s.manager.device = none :=
    fun hhead => h.pending.imp_right fun hor => hor.resolve_right hhead
  cases resume_cases hs with
  | createDevice hframes hserve =>
    refine createServicesForClients_balanced (fun client => ?_) hserve
    have hold := h.count client
    rw [waits_cons hframes] at hold
    simp only [ConnectFrame.batch, List.count_nil, Nat.zero_add] at hold
    exact hold
  | done hframes =>
    constructor
    case count => exact fun client => (hwaits client).trans (h.count client)
    case served => exact h.served
    case device => exact fun _ => h.device (by rw [hframes]; exact List.cons_ne_nil _ _)
    case pending => exact (hpending (by rw [hframes]; exact nofun)).imp_right .inl
  | serve hframes hd =>
    constructor
    case count => exact fun client => (hwaits client).trans (h.count client)
    case served => exact fun hnone => absurd (hd.symm.trans hnone) (Option.some_ne_none _)
    case device => exact fun _ hnone => absurd (hd.symm.trans hnone) (Option.some_ne_none _)
    case pending => exact (hpending (by rw [hframes]; exact nofun)).imp_right .inl
  | register hframes =>
    constructor
    case count => exact fun client => (hwaits client).trans (h.count client)
    case served => exact h.served
    case device => exact fun _ => h.device (by rw [hframes]; exact List.cons_ne_nil _ _)
    case pending => exact (hpending (by rw [hframes]; exact nofun)).imp_right .inl

theorem next_balanced {e : Event} (h : Balanced s) (hn : s.next e = some t) : Balanced t := by
  cases e with
  | connect client =>
    obtain ⟨-, hn⟩ := Option.ite_none_right_eq_some.1 hn
    exact connect_balanced h hn
  | createDevice =>
    obtain ⟨-, hn⟩ := Option.ite_none_right_eq_some.1 hn
    cases hn
    exact createDevice_balanced h
  | resume => exact resume_balanced h hn
  | clientDies client =>
    cases hn
    exact ⟨h.count, h.served, h.device, h.pending⟩
  | onClientDisconnected client =>
    obtain ⟨-, hn⟩ := Option.ite_none_right_eq_some.1 hn
    cases hn
    exact ⟨h.count, h.served, h.device, h.pending⟩

theorem reach_balanced (h : machine.Reach s) : Balanced s := by
  refine Machine.ReachIf.invariant (P := Balanced) ?_ ?_ h
  · rintro s rfl
    exact ⟨fun _ => rfl, fun _ => rfl, fun hne => absurd rfl hne, .inl rfl⟩
  · intro s e t _ hs _ hn
    exact next_balanced hs hn

/-- **Every connecting client is served exactly once per connect**, at every point: calls of
`onServiceConnected` and clients that wait add up to the calls of `connect`, nobody is served
without a device, and nobody is left waiting with one. -/
theorem served_once (h : machine.Reach s) :
    (∀ client, s.served.count client + (s.manager.pendingClients.count client +
      (s.frames.flatMap ConnectFrame.batch).count client) = s.connects.count client) ∧
    (s.manager.device = none → s.served = []) ∧
    (s.frames = [] → s.manager.device ≠ none → s.manager.pendingClients = []) := by
  have hbalanced := reach_balanced h
  refine ⟨hbalanced.count, hbalanced.served, fun hframes hdevice => ?_⟩
  rcases hbalanced.pending with hnil | hnone | hhead
  · exact hnil
  · exact absurd hnone hdevice
  · rw [hframes] at hhead
    cases hhead

def client : WeaveClient := ⟨0, 0, 0⟩

/-- A client waits for the device, and connects once more while it is served. -/
def nestedRun : List Event := [.connect client, .createDevice, .resume, .resume, .connect client, .resume]

def nestedState : ConnectSystem := (machine.run {} nestedRun).get rfl

theorem nestedRun_ends : machine.run {} nestedRun = some nestedState := (Option.some_get _).symm

theorem served_once_test :
    (∀ c, nestedState.served.count c + (nestedState.manager.pendingClients.count c +
      (nestedState.frames.flatMap ConnectFrame.batch).count c) = nestedState.connects.count c) ∧
    (nestedState.manager.device = none → nestedState.served = []) ∧
    (nestedState.frames = [] → nestedState.manager.device ≠ none → nestedState.manager.pendingClients = []) :=
  served_once (Machine.run_reach (.start rfl) nestedRun_ends)

/-- The nested call has been served while the first batch is still under way. -/
example : nestedState.served = [client, client] := by decide

/-! ## Without nested calls -/

/-- A round of the loop is a round of the loop of `Manager`. -/
theorem createService_eq {S : Strings} (m : Manager) (device : Device) (dead : List WeaveClient)
    (client : WeaveClient) :
    (m.createService (S := S) device (fun c => decide (c ∉ dead)) client).1 =
      registerForDeathNotifications (makeService m device client) dead client := by
  unfold Manager.createService registerForDeathNotifications makeService
  by_cases h : client ∈ dead
  · simp [h]
  · simp [h]

/-- **Without nested calls, `CreateServicesForClients` is the loop of `Manager`.** -/
theorem serveAll {S : Strings} {device : Device} (clients : List WeaveClient) :
    ∀ (s : ConnectSystem) (frames : List ConnectFrame), s.manager.device = some device →
      s.frames = .nextClient clients :: frames →
      ∃ served, machine.run s (List.replicate (2 * clients.length + 1) .resume) = some { s with
        manager := (Manager.createServices (S := S) device (fun c => decide (c ∉ s.dead)) s.manager clients).1
        frames
        served } := by
  induction clients with
  | nil =>
    intro s frames _ hframes
    refine ⟨s.served, ?_⟩
    show (s.resume).bind _ = _
    unfold resume
    rw [hframes]
    rfl
  | cons client clients ih =>
    intro s frames hd hframes
    have hserve : s.resume = some { s with
        manager := makeService s.manager device client
        served := s.served ++ [client]
        frames := .onServiceConnected client clients :: frames } := by
      unfold resume
      rw [hframes]
      dsimp only
      rw [hd]
      rfl
    obtain ⟨served, hrun⟩ := ih { s with
      manager := (s.manager.createService (S := S) device (fun c => decide (c ∉ s.dead)) client).1
      served := s.served ++ [client]
      frames := .nextClient clients :: frames } frames hd rfl
    refine ⟨served, ?_⟩
    have hlength : 2 * (client :: clients).length + 1 = (2 * clients.length + 1) + 1 + 1 := by
      rw [List.length_cons]
      omega
    rw [hlength, List.replicate_succ, List.replicate_succ, Machine.run_cons hserve]
    rw [createService_eq] at hrun
    rw [show Manager.createServices (S := S) device (fun c => decide (c ∉ s.dead)) s.manager (client :: clients) =
      ((Manager.createServices device (fun c => decide (c ∉ s.dead))
          (s.manager.createService (S := S) device (fun c => decide (c ∉ s.dead)) client).1 clients).1,
        (s.manager.createService (S := S) device (fun c => decide (c ∉ s.dead)) client).2 ::
          (Manager.createServices device (fun c => decide (c ∉ s.dead))
            (s.manager.createService (S := S) device (fun c => decide (c ∉ s.dead)) client).1 clients).2) from rfl]
    rw [createService_eq]
    exact hrun

/-! ## Dead clients are forgotten -/

/-- The client is a key of `services_`. -/
def HasService (s : ConnectSystem) (client : WeaveClient) : Prop := client ∈ s.manager.services.map Prod.fst

/-- The clients whose `onServiceConnected` is under way. -/
def connecting (s : ConnectSystem) : List WeaveClient := s.frames.flatMap ConnectFrame.current

/-- A dead client is neither in `pending_clients_` nor a key of `services_` once its deaths
have been reported. -/
def Forgotten (s : ConnectSystem) : Prop :=
  ∀ client ∈ s.dead, client ∉ s.manager.deathNotifications →
    client ∉ s.manager.pendingClients ∧ ¬s.HasService client

/-- No client dies between `connect` and the registration for its death, nor does one connect
or wait after its last death report. -/
def Noticed (s : ConnectSystem) : Event → Prop
  | .clientDies client => client ∈ s.dead ∨ client ∈ s.manager.deathNotifications ∨
      (s.waits client = 0 ∧ client ∉ s.connecting)
  | .connect client => client ∈ s.dead → client ∈ s.manager.deathNotifications
  | .onClientDisconnected client => s.waits client = 0 ∨ client ∈ s.manager.deathNotifications.erase client
  | .createDevice | .resume => True

/-- weaved waits to serve the client, or has a service for it. -/
def Kept (s : ConnectSystem) (client : WeaveClient) : Prop := s.waits client ≠ 0 ∨ s.HasService client

/-- weaved keeps no dead client whose deaths have all been reported. -/
def NoneLost (s : ConnectSystem) : Prop :=
  ∀ client ∈ s.dead, client ∉ s.manager.deathNotifications → ¬s.Kept client

/-- A live client with a service is registered for, or about to be. -/
structure Subscribed (s : ConnectSystem) : Prop where
  service : ∀ client, s.HasService client → client ∉ s.dead →
    client ∈ s.manager.deathNotifications ∨ client ∈ s.connecting
  connecting : ∀ client ∈ s.connecting, client ∉ s.dead → s.HasService client

theorem emplace_keys (services : List (WeaveClient × BinderWeaveService)) (client c : WeaveClient)
    (service : BinderWeaveService) :
    c ∈ (Manager.emplace services client service).map Prod.fst ↔ c = client ∨ c ∈ services.map Prod.fst := by
  unfold Manager.emplace
  split
  · rename_i hmem
    refine ⟨.inr, ?_⟩
    rintro (rfl | hc)
    · exact hmem
    · exact hc
  · rw [List.map_append, List.mem_append, or_comm]
    exact or_congr_left List.mem_singleton

theorem connecting_cons {frame : ConnectFrame} {frames : List ConnectFrame} (h : s.frames = frame :: frames) :
    s.connecting = frame.current ++ frames.flatMap ConnectFrame.current := by
  unfold connecting
  rw [h, List.flatMap_cons]

/-- What `CreateServicesForClients` leaves as it is. -/
theorem createServicesForClients_frame (hs : s.createServicesForClients = some t) :
    t.dead = s.dead ∧ t.manager.deathNotifications = s.manager.deathNotifications ∧
      t.manager.services = s.manager.services ∧ t.connecting = s.connecting := by
  obtain ⟨-, rfl⟩ := createServicesForClients_cases hs
  exact ⟨rfl, rfl, rfl, rfl⟩

theorem connect_frame {client : WeaveClient} (hs : s.connect client = some t) :
    t.dead = s.dead ∧ t.manager.deathNotifications = s.manager.deathNotifications ∧
      t.manager.services = s.manager.services ∧ t.connecting = s.connecting := by
  unfold connect at hs
  dsimp only at hs
  split at hs
  · have hframe := createServicesForClients_frame hs
    exact hframe
  · cases hs
    exact ⟨rfl, rfl, rfl, rfl⟩

theorem createDevice_frame (s : ConnectSystem) :
    s.createDevice.dead = s.dead ∧
      s.createDevice.manager.deathNotifications = s.manager.deathNotifications ∧
      s.createDevice.manager.services = s.manager.services ∧ s.createDevice.connecting = s.connecting := by
  unfold createDevice
  split
  · exact ⟨rfl, rfl, rfl, rfl⟩
  · exact ⟨rfl, rfl, rfl, rfl⟩

theorem createDevice_waits (s : ConnectSystem) (client : WeaveClient) :
    s.createDevice.waits client = s.waits client := by
  unfold createDevice
  split
  · rfl
  · rw [waits_cons rfl]
    show s.manager.pendingClients.count client + (0 + _) = s.waits client
    rw [Nat.zero_add]
    rfl

/-- Nothing about services and deaths changes. -/
theorem subscribed_congr (h : Subscribed s) (hf : t.dead = s.dead ∧
    t.manager.deathNotifications = s.manager.deathNotifications ∧
    t.manager.services = s.manager.services ∧ t.connecting = s.connecting) : Subscribed t := by
  obtain ⟨hdead, hreports, hservices, hconnecting⟩ := hf
  constructor
  · intro c
    unfold HasService
    rw [hservices, hdead, hreports, hconnecting]
    exact h.service c
  · intro c
    unfold HasService
    rw [hservices, hdead, hconnecting]
    exact h.connecting c

/-- A function returns in which no client is being connected. -/
theorem return_subscribed (h : Subscribed s) {frame : ConnectFrame} {frames : List ConnectFrame}
    (hframes : s.frames = frame :: frames) (hcurrent : frame.current = []) : Subscribed { s with frames } := by
  have hconnecting : s.connecting = ({ s with frames }).connecting := by
    rw [connecting_cons hframes, hcurrent]
    rfl
  exact subscribed_congr h ⟨rfl, rfl, rfl, hconnecting.symm⟩

theorem resume_subscribed (h : Subscribed s) (hs : s.resume = some t) : Subscribed t := by
  cases resume_cases hs with
  | createDevice hframes hserve =>
    exact subscribed_congr (return_subscribed h hframes rfl) (createServicesForClients_frame hserve)
  | done hframes => exact return_subscribed h hframes rfl
  | @serve client _ _ _ hframes hd =>
    have hconnecting := connecting_cons hframes
    refine ⟨fun c hc hdead => ?_, fun c hc hdead => ?_⟩
    · rw [connecting_cons rfl]
      rcases (emplace_keys _ _ _ _).1 hc with rfl | hc
      · exact .inr (List.mem_cons_self ..)
      · refine (h.service c hc hdead).imp_right fun hc => List.mem_cons_of_mem _ ?_
        rw [hconnecting] at hc
        exact hc
    · rw [connecting_cons rfl] at hc
      refine (emplace_keys _ _ _ _).2 ?_
      rcases List.mem_cons.1 hc with rfl | hc
      · exact .inl rfl
      · refine .inr (h.connecting c ?_ hdead)
        rw [hconnecting]
        exact hc
  | @register client _ _ hframes =>
    have hconnecting := connecting_cons hframes
    refine ⟨fun c hc hdead => ?_, fun c hc hdead => ?_⟩
    · rw [connecting_cons rfl]
      unfold registerForDeathNotifications
      by_cases hclient : c = client
      · -- it is alive, so the registration succeeds
        subst hclient
        refine .inl ?_
        dsimp only
        rw [if_neg hdead]
        exact List.mem_append_right _ (List.mem_singleton_self _)
      · have hold := h.service c hc hdead
        rw [hconnecting] at hold
        refine hold.imp (fun hc => ?_) fun hc => (List.mem_cons.1 hc).resolve_left hclient
        dsimp only
        split
        · exact hc
        · exact List.mem_append_left _ hc
    · refine h.connecting c ?_ hdead
      rw [hconnecting]
      rw [connecting_cons rfl] at hc
      exact List.mem_cons_of_mem _ hc

theorem onClientDisconnected_hasService {client c : WeaveClient} :
    (s.onClientDisconnected client).HasService c ↔ s.HasService c ∧ c ≠ client := by
  show c ∈ (s.manager.services.filter _).map Prod.fst ↔ c ∈ s.manager.services.map Prod.fst ∧ _
  constructor
  · intro hc
    obtain ⟨entry, hentry, rfl⟩ := List.mem_map.1 hc
    obtain ⟨hmem, hne⟩ := List.mem_filter.1 hentry
    exact ⟨List.mem_map_of_mem hmem, of_decide_eq_true hne⟩
  · rintro ⟨hc, hne⟩
    obtain ⟨entry, hentry, rfl⟩ := List.mem_map.1 hc
    exact List.mem_map_of_mem (List.mem_filter.2 ⟨hentry, decide_eq_true hne⟩)

theorem next_subscribed {e : Event} (h : Subscribed s) (hn : s.next e = some t) : Subscribed t := by
  cases e with
  | connect client =>
    obtain ⟨-, hn⟩ := Option.ite_none_right_eq_some.1 hn
    exact subscribed_congr h (connect_frame hn)
  | createDevice =>
    obtain ⟨-, hn⟩ := Option.ite_none_right_eq_some.1 hn
    cases hn
    exact subscribed_congr h (createDevice_frame s)
  | resume => exact resume_subscribed h hn
  | clientDies client =>
    cases hn
    exact ⟨fun c hc hd => h.service c hc fun hc => hd (List.mem_cons_of_mem _ hc),
      fun c hc hd => h.connecting c hc fun hc => hd (List.mem_cons_of_mem _ hc)⟩
  | onClientDisconnected client =>
    obtain ⟨⟨-, hdied, -⟩, hn⟩ := Option.ite_none_right_eq_some.1 hn
    cases hn
    -- only a dead client is reported
    refine ⟨fun c hc hd => ?_, fun c hc hd => ?_⟩
    · obtain ⟨hc, hne⟩ := onClientDisconnected_hasService.1 hc
      refine (h.service c hc hd).imp_left fun hc => ?_
      exact (List.mem_erase_of_ne hne).2 hc
    · refine onClientDisconnected_hasService.2 ⟨h.connecting c hc hd, ?_⟩
      rintro rfl
      exact hd hdied

theorem resume_kept (hs : s.resume = some t) (c : WeaveClient) : t.Kept c ↔ s.Kept c := by
  have hwaits := resume_waits hs c
  unfold Kept
  cases resume_cases hs with
  | createDevice hframes hserve =>
    obtain ⟨-, -, hservices, -⟩ := createServicesForClients_frame hserve
    obtain ⟨-, rfl⟩ := createServicesForClients_cases hserve
    rw [Nat.add_left_cancel hwaits]
    rfl
  | done hframes =>
    rw [Nat.add_left_cancel hwaits]
    rfl
  | @serve client _ _ device hframes hd =>
    have hservice : c ∈ (makeService s.manager device client).services.map Prod.fst ↔ c = client ∨ s.HasService c :=
      emplace_keys _ _ _ _
    by_cases hc : c = client
    · -- the client that is served was waiting, and has a service now
      subst hc
      refine iff_of_true (.inr (hservice.2 (.inl rfl))) (.inl ?_)
      rw [waits_cons hframes]
      simp only [ConnectFrame.batch, List.count_cons_self]
      omega
    · have hcount : [client].count c = 0 := List.count_eq_zero.2 fun hmem => hc (List.mem_singleton.1 hmem)
      dsimp only at hwaits
      rw [List.count_append, hcount, Nat.add_zero] at hwaits
      refine or_congr (not_congr (by rw [Nat.add_left_cancel hwaits])) ?_
      exact hservice.trans (or_iff_right hc)
  | register hframes =>
    rw [Nat.add_left_cancel hwaits]
    rfl

/-- Only live clients are registered for. -/
theorem resume_deaths (hs : s.resume = some t) :
    t.dead = s.dead ∧
      ∀ c ∈ s.dead, c ∈ t.manager.deathNotifications ↔ c ∈ s.manager.deathNotifications := by
  cases resume_cases hs with
  | createDevice hframes hserve =>
    obtain ⟨hdead, hreports, -⟩ := createServicesForClients_frame hserve
    exact ⟨hdead, fun c _ => by rw [hreports]⟩
  | done hframes => exact ⟨rfl, fun _ _ => Iff.rfl⟩
  | serve hframes hd => exact ⟨rfl, fun _ _ => Iff.rfl⟩
  | @register client _ _ hframes =>
    refine ⟨rfl, fun c hc => ?_⟩
    unfold registerForDeathNotifications
    dsimp only
    split
    · exact Iff.rfl
    · rename_i hlives
      rw [List.mem_append, or_iff_left]
      intro hmem
      rw [List.mem_singleton.1 hmem] at hc
      exact hlives hc

/-- With a device the client is in a new batch, without one in `pending_clients_`. -/
theorem connect_noneLost_iff {client : WeaveClient} (hn : s.next (.connect client) = some t) :
    NoneLost t ↔ NoneLost s ∧ Noticed s (.connect client) := by
  obtain ⟨-, hn⟩ := Option.ite_none_right_eq_some.1 hn
  obtain ⟨hdead, hreports, hservices, -⟩ := connect_frame hn
  have hkept : ∀ c, t.Kept c ↔ s.Kept c ∨ c = client := by
    intro c
    unfold Kept HasService
    rw [connect_waits hn, hservices, or_right_comm]
    refine or_congr_left ?_
    rw [List.count_singleton]
    by_cases hc : c = client
    · simp [hc]
    · simp [hc, Ne.symm hc]
  unfold NoneLost
  rw [hdead, hreports]
  constructor
  · intro hnone
    refine ⟨fun c hc hr hk => hnone c hc hr ((hkept c).2 (.inl hk)), fun hc => ?_⟩
    by_contra hr
    exact hnone client hc hr ((hkept client).2 (.inr rfl))
  · rintro ⟨hnone, hnoticed⟩ c hc hr hk
    rcases (hkept c).1 hk with hk | rfl
    · exact hnone c hc hr hk
    · exact hr (hnoticed hc)

/-- A client that dies is lost if nobody watches it. -/
theorem clientDies_noneLost_iff {client : WeaveClient} (h : Subscribed s) (hn : s.next (.clientDies client) = some t) :
    NoneLost t ↔ NoneLost s ∧ Noticed s (.clientDies client) := by
  cases hn
  constructor
  · intro hnone
    refine ⟨fun c hc => hnone c (List.mem_cons_of_mem _ hc), ?_⟩
    -- a live client that is being connected has a service already
    by_contra hnot
    obtain ⟨hlives, hnot⟩ := not_or.1 hnot
    obtain ⟨hr, hnot⟩ := not_or.1 hnot
    refine hnone client (List.mem_cons_self ..) hr ?_
    rcases not_and_or.1 hnot with hwaits | hconnecting
    · exact .inl hwaits
    · exact .inr (h.connecting client (not_not.1 hconnecting) hlives)
  · rintro ⟨hnone, hnoticed⟩ c hc hr hk
    by_cases hold : c ∈ s.dead
    · exact hnone c hold hr hk
    · -- the client that has just died
      obtain rfl := (List.mem_cons.1 hc).resolve_right hold
      obtain ⟨hwaits, hconnecting⟩ := (hnoticed.resolve_left hold).resolve_left hr
      rcases hk with hk | hk
      · exact hk hwaits
      · exact hconnecting ((h.service c hk hold).resolve_left hr)

/-- A client that has been reported is lost if it is still being connected. -/
theorem onClientDisconnected_noneLost_iff {client : WeaveClient} (hn : s.next (.onClientDisconnected client) = some t) :
    NoneLost t ↔ NoneLost s ∧ Noticed s (.onClientDisconnected client) := by
  obtain ⟨⟨-, hdied, hreport⟩, hn⟩ := Option.ite_none_right_eq_some.1 hn
  cases hn
  have hkept : ∀ c, c ≠ client → ((s.onClientDisconnected client).Kept c ↔ s.Kept c) := fun c hne =>
    or_congr_right (onClientDisconnected_hasService.trans (and_iff_left hne))
  constructor
  · intro hnone
    refine ⟨fun c hc hr hk => ?_, ?_⟩
    · have hne : c ≠ client := fun heq => hr (heq ▸ hreport)
      exact hnone c hc (fun hr' => hr (List.mem_of_mem_erase hr')) ((hkept c hne).2 hk)
    · by_contra hnot
      obtain ⟨hwaits, hr⟩ := not_or.1 hnot
      exact hnone client hdied hr (.inl hwaits)
  · rintro ⟨hnone, hnoticed⟩ c hc hr hk
    by_cases hne : c = client
    · -- its entry of `services_` is erased, so it can only be waiting
      subst hne
      rcases hk with hk | hk
      · exact hr (hnoticed.resolve_left hk)
      · exact (onClientDisconnected_hasService.1 hk).2 rfl
    · exact hnone c hc (fun hr' => hr ((List.mem_erase_of_ne hne).2 hr')) ((hkept c hne).1 hk)

/-- **A step loses a client exactly if it is not `Noticed`**: a lost client stays lost. -/
theorem next_noneLost_iff {e : Event} (h : Subscribed s) (hn : s.next e = some t) :
    NoneLost t ↔ NoneLost s ∧ Noticed s e := by
  cases e with
  | connect client => exact connect_noneLost_iff hn
  | createDevice =>
    obtain ⟨-, hn⟩ := Option.ite_none_right_eq_some.1 hn
    cases hn
    obtain ⟨hdead, hreports, hservices, -⟩ := createDevice_frame s
    rw [and_iff_left (show Noticed s .createDevice from trivial)]
    unfold NoneLost Kept HasService
    simp only [hdead, hreports, hservices, createDevice_waits]
  | resume =>
    obtain ⟨hdead, hreports⟩ := resume_deaths hn
    rw [and_iff_left (show Noticed s .resume from trivial)]
    unfold NoneLost
    rw [hdead]
    refine forall₂_congr fun c hc => ?_
    rw [hreports c hc, resume_kept hn]
  | clientDies client => exact clientDies_noneLost_iff h hn
  | onClientDisconnected client => exact onClientDisconnected_noneLost_iff hn

theorem run_noneLost_iff {es : List Event} (h : machine.run {} es = some s) :
    NoneLost s ↔ machine.Meets Noticed {} es := by
  have hnone : NoneLost {} := fun _ hc => by cases hc
  have hsubscribed : Subscribed {} := ⟨fun _ hc => (by cases hc), fun _ hc => (by cases hc)⟩
  rw [Machine.run_iff_meets (M := machine) (P := Subscribed) (fun _ _ _ hs hn => next_subscribed hs hn)
    (fun _ _ _ hs hn => next_noneLost_iff hs hn) hsubscribed h]
  exact and_iff_right hnone

/-- **Dead clients are forgotten** in every run whose steps are `Noticed`; and where they are
forgotten after a run that is back in the message loop, its steps were. -/
theorem dead_forgotten_iff {es : List Event} (h : machine.run {} es = some s) :
    (machine.Meets Noticed {} es → s.Forgotten) ∧
      (s.frames = [] → s.Forgotten → machine.Meets Noticed {} es) := by
  rw [← run_noneLost_iff h]
  refine ⟨fun hnone c hc hr => ?_, fun hframes hforgotten c hc hr hk => ?_⟩
  · obtain ⟨hwaits, hservice⟩ := not_or.1 (hnone c hc hr)
    refine ⟨fun hmem => hwaits ?_, hservice⟩
    have hcount := List.count_pos_iff.2 hmem
    unfold waits
    omega
  · obtain ⟨hpending, hservice⟩ := hforgotten c hc hr
    rcases hk with hk | hk
    · refine hk ?_
      unfold waits
      rw [hframes, List.count_eq_zero.2 hpending]
      rfl
    · exact hservice hk

/-- A client dies after it has been registered for, and its death is reported. -/
def reportedRun : List Event :=
  [.createDevice, .resume, .resume, .connect client, .resume, .resume, .resume, .clientDies client,
    .onClientDisconnected client]

def reportedState : ConnectSystem := (machine.run {} reportedRun).get rfl

theorem dead_forgotten_iff_test :
    (machine.Meets Noticed {} reportedRun → reportedState.Forgotten) ∧
      (reportedState.frames = [] → reportedState.Forgotten → machine.Meets Noticed {} reportedRun) :=
  dead_forgotten_iff (Option.some_get _).symm

/-- A client that dies before the device is there is never forgotten. -/
def waitingRun : List Event := [.connect client, .clientDies client]

def waitingState : ConnectSystem := (machine.run {} waitingRun).get rfl

theorem died_waiting : ¬∀ s, machine.Reach s → s.Forgotten := by
  intro hall
  have hrun : machine.run {} waitingRun = some waitingState := (Option.some_get _).symm
  have hforgotten := hall waitingState (Machine.run_reach (.start rfl) hrun)
  exact (hforgotten client (List.mem_singleton_self _) List.not_mem_nil).1 (List.mem_singleton_self _)

end ConnectSystem

end SystemWeaved
