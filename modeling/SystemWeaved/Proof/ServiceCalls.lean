import SystemWeaved.Proof.ClientSteps
import SystemWeaved.Proof.Command
import SystemWeaved.Proof.Subscription
import SystemWeaved.Spec.ServiceCalls

/-!
# When a `CHECK` ends a client

The methods of `ServiceImpl` trust that a service that can be locked has its `weave_service_`,
and they are right: it is there from the connection callback until the object is destroyed.
`AddCommandHandler` trusts that its binder call succeeds, too, which ends the client if weaved
has died and the reconnection is still to come.

* `next_sameRunning`: an event ends no client unless the client exits or a `CHECK` fails.
* `no_check_fails_iff`: no client is ended by a `CHECK` exactly if each command handler is
  registered with a weaved that is still running; a failed call is reported in any case.
-/

namespace SystemWeaved

namespace Client

variable {S : Strings} {k : Client S}

/-! ## What ends a client -/

theorem onWeaveServiceDisconnected_running (k : Client S) (impl : ℕ) :
    (k.onWeaveServiceDisconnected impl).running = k.running := by
  unfold onWeaveServiceDisconnected
  split <;> rfl

theorem reconnectOnServiceDisconnection_running (k : Client S) (impl : ℕ) :
    (k.reconnectOnServiceDisconnection impl).running = k.running := by
  unfold reconnectOnServiceDisconnection
  split <;> rfl

theorem tryConnecting_running (k : Client S) (impl : ℕ) (binder : Option ℕ) :
    (k.tryConnecting impl binder).running = k.running := by
  unfold tryConnecting
  split
  · rfl
  · split <;> rfl

theorem registerForDeathNotifications_running (k : Client S) (impl weaved : ℕ) (success : Bool) :
    (k.registerForDeathNotifications impl weaved success).running = k.running := by
  unfold registerForDeathNotifications
  split
  · exact onWeaveServiceDisconnected_running _ _
  · rfl

theorem connectManager_running (k : Client S) (client impl weaved : ℕ) :
    (k.connectManager client impl weaved).running = k.running := by
  unfold connectManager
  split <;> rfl

theorem onServiceConnected_running (k : Client S) (client : WeaveClient) (service : WeaveService) :
    (k.onServiceConnected client service).running = k.running := by
  unfold onServiceConnected
  split <;> rfl

theorem onCommand_running (k : Client S) (client : WeaveClient) (componentName commandName : S.String16)
    (command : ℕ) : (k.onCommand client componentName commandName command).running = k.running := by
  unfold onCommand
  split
  · split <;> rfl
  · rfl

/-- The names of a command handler are not empty, and its service is there. -/
theorem addCommandHandler_running {k' : Client S} {component traitName commandName : String} {callback : ℕ}
    (hk : Connecting k) (hnames : component ≠ "" ∧ commandName ≠ "")
    (h : k.addCommandHandler component traitName commandName callback = some k') : k'.running = k.running := by
  unfold addCommandHandler at h
  split at h
  · cases h
  · rename_i impl howned
    split at h
    · cases h
    · rename_i hcallback
      -- the callback has been run for the object, so its service is there
      rw [if_neg (by simpa using hnames)] at h
      have hcalled : k.called impl.id ≠ 0 := by
        unfold called
        rw [Ne, List.countP_eq_zero]
        intro hnone
        exact hnone _ (not_not.1 hcallback) (by simp [ClientEffect.calls])
      obtain ⟨service, hservice⟩ := Option.isSome_iff_exists.1 (hk.handed impl howned hcalled)
      rw [hservice] at h
      cases h
      rfl

end Client

namespace System

variable {S : Strings} {s t : System S} {e : Event S}

/-- No client ends. -/
def SameRunning (s t : System S) : Prop := ∀ c, (t.clients c).running = (s.clients c).running

theorem setClient_sameRunning {c : ℕ} {k : Client S} (h : k.running = (s.clients c).running) :
    SameRunning s (s.setClient c k) := by
  intro d
  by_cases hd : d = c
  · rw [hd, setClient_self, h]
  · rw [setClient_ne hd]

/-- The client is in the binder call of `AddCommandHandler`, and weaved is gone. -/
def RegistersWithDead (s : System S) (c : ℕ) : Prop :=
  ∃ service component command, (s.clients c).frame = .registering service component command ∧
    s.alive service.weaved = false

/-- `CHECK(status.isOk())` fails. -/
theorem resume_dead {c : ℕ} {success : Bool} (hdead : RegistersWithDead s c)
    (h : s.next (.resume c success) = some t) : (s.clients c).running = true ∧ (t.clients c).running = false := by
  obtain ⟨service, component, command, hframe, halive⟩ := hdead
  rcases next_client h c with ⟨hactor, -⟩ | ⟨hrun, hstep⟩
  · exact absurd rfl hactor
  refine ⟨hrun, ?_⟩
  generalize t.clients c = k at hstep ⊢
  cases hstep with
  | registerForDeathNotifications impl weaved success hframe' =>
    rw [hframe] at hframe'
    cases hframe'
  | connectManager impl weaved success hframe' =>
    rw [hframe] at hframe'
    cases hframe'
  | registerNotificationListener impl weaved success hframe' =>
    rw [hframe] at hframe'
    cases hframe'
  | commandHandlerAdded service' component' command' success hframe' =>
    rw [hframe] at hframe'
    cases hframe'
    rw [halive]
    rfl

/-- A client that has ended does nothing. -/
theorem next_ended (h : s.next e = some t) {c : ℕ} (hended : (s.clients c).running = false) :
    (t.clients c).running = false := by
  rcases next_client h c with ⟨-, heq⟩ | ⟨hrun, -⟩
  · rw [heq]
    exact hended
  · rw [hended] at hrun
    cases hrun

/-- The events that end no client. -/
def Event.endsNone (s : System S) : Event S → Prop
  | .exit _ => False
  | .resume c _ => ¬ RegistersWithDead s c
  | .addCommandHandler _ component _ commandName _ => component ≠ "" ∧ commandName ≠ ""
  | _ => True

/-- **An event ends no client** unless the client exits or a `CHECK` fails. -/
theorem next_sameRunning (hc : ∀ c, Client.Connecting (s.clients c)) (he : e.endsNone s) (h : s.next e = some t) :
    SameRunning s t := by
  intro c
  rcases next_client h c with ⟨-, heq⟩ | ⟨-, hstep⟩
  · rw [heq]
  generalize t.clients c = k at hstep ⊢
  cases hstep with
  | serviceConnect hloop hsub => rfl
  | destroySubscription hloop => rfl
  | exit => exact he.elim
  | tryConnecting impl found binder hloop htask => exact Client.tryConnecting_running _ _ _
  | reconnectOnServiceDisconnection impl found hloop htask =>
    exact Client.reconnectOnServiceDisconnection_running _ _
  | registerForDeathNotifications impl weaved success hframe =>
    exact Client.registerForDeathNotifications_running _ _ _ _
  | connectManager impl weaved success hframe => exact Client.connectManager_running _ _ _ _
  | registerNotificationListener impl weaved success hframe => rfl
  | commandHandlerAdded service component command success hframe =>
    -- `CHECK(status.isOk())`
    cases halive : s.alive service.weaved with
    | true => rfl
    | false => exact absurd ⟨service, component, command, hframe, halive⟩ he
  | deathNotice notification hn => exact Client.onWeaveServiceDisconnected_running _ _
  | addCommandHandler component traitName commandName callback k hloop hk =>
    exact Client.addCommandHandler_running (hc c) he hk
  | onServiceConnected client service watch hclient hloop => exact Client.onServiceConnected_running _ _ _
  | onCommand client componentName commandName command watch hclient hloop =>
    exact Client.onCommand_running _ _ _ _ _

end System

namespace ServiceSystem

variable {S : Strings} {B : ByteStrings} {J : JsonPaths} {s t : ServiceSystem S} {e : Event S B J}

/-- The components and commands that clients name are not empty. -/
def Event.Named : Event S B J → Prop
  | .system (.addCommandHandler _ component _ commandName _) => component ≠ "" ∧ commandName ≠ ""
  | .method _ (.addComponent component _) _ _ => component ≠ ""
  | .method _ (.setStateProperties component _) _ _ => component ≠ ""
  | .method _ (.setStateProperty component _ _ _) _ _ => component ≠ ""
  | _ => True

/-- **No `CHECK` has failed.** -/
def NoCheckFailed (s : ServiceSystem S) : Prop := ∀ c, (s.system.clients c).running = false → c ∈ s.exited

/-- A call that has failed is reported to the client. -/
def FailuresReported (s : ServiceSystem S) : Prop :=
  ∀ reply ∈ s.replies, reply.status.isOk = false → reply.result = false ∧ reply.error.isSome

/-- A binder call of `AddCommandHandler` is made to a weaved that is running. -/
def RegistersAlive (s : ServiceSystem S) : Event S B J → Prop
  | .system (.resume c _) => ¬ s.system.RegistersWithDead c
  | _ => True

/-! ## The other methods -/

theorem lockService_eq_some {k : Client S} {impl : ServiceImpl} :
    k.lockService = some impl ↔ k.owned = some impl ∧ .connectionCallback impl.id ∈ k.log := by
  unfold Client.lockService
  rw [Option.filter_eq_some_iff, decide_eq_true_eq]

/-- A service that can be locked has its `weave_service_`. -/
theorem lockService_weaveService {k : Client S} {impl : ServiceImpl} (hk : Client.Connecting k)
    (h : k.lockService = some impl) : ∃ service, impl.weaveService = some service := by
  obtain ⟨howned, hcallback⟩ := lockService_eq_some.1 h
  refine Option.isSome_iff_exists.1 (hk.handed impl howned ?_)
  unfold Client.called
  rw [Ne, List.countP_eq_zero]
  intro hnone
  exact hnone _ hcallback (by simp [ClientEffect.calls])

theorem setStateProperties_isSome {impl : ServiceImpl} {service : WeaveService}
    (himpl : impl.weaveService = some service) {component : String} (hnamed : component ≠ "")
    (dict : J.Dictionary) : ∃ call, impl.setStateProperties S component dict = some (service, call) := by
  refine ⟨.updateState (S.ToString16 component) (J.ToString16 S dict), ?_⟩
  unfold ServiceImpl.setStateProperties
  rw [if_neg hnamed, himpl]
  rfl

/-- So its methods get to their binder calls. -/
theorem call_isSome {impl : ServiceImpl} {service : WeaveService} (himpl : impl.weaveService = some service)
    {c : ℕ} {method : ServiceMethod J} {status : Status} {error : ErrorPtr BrilloError}
    (hnamed : (Event.method c method status error : Event S B J).Named) :
    ∃ call, impl.call S method = some (service, call) := by
  cases method with
  | addComponent component traits =>
    refine ⟨.addComponent (S.ToString16 component) (traits.map S.ToString16), ?_⟩
    unfold ServiceImpl.call ServiceImpl.addComponent
    rw [himpl]
    rfl
  | setStateProperties component dict =>
    exact setStateProperties_isSome himpl hnamed dict
  | setStateProperty component traitName propertyName value =>
    exact setStateProperties_isSome himpl hnamed _

theorem statusToError_reported {status : Status} (h : status.isOk = false) (error : ErrorPtr BrilloError) :
    (statusToError status error).1 = false ∧ (statusToError status error).2.isSome := by
  unfold statusToError
  rw [h]
  exact ⟨rfl, addTo_isSome _ _⟩

theorem withService_cases {c : ℕ} {service : Option ServiceImpl} {f : ServiceImpl → Option (ServiceSystem S)}
    (h : s.withService c service f = some t) : ∃ impl, service = some impl ∧ f impl = some t := by
  unfold withService at h
  split at h
  · exact Option.bind_eq_some_iff.1 h
  · cases h

/-- What an event that is not one of the system does. -/
theorem runMethod_cases {c : ℕ} {method : ServiceMethod J} {status : Status} {error : ErrorPtr BrilloError}
    {impl : ServiceImpl} (hk : Client.Connecting (s.system.clients c))
    (hlock : (s.system.clients c).lockService = some impl)
    (hnamed : (Event.method c method status error : Event S B J).Named)
    (h : s.runMethod c method status error impl = some t) :
    ∃ reply : ServiceReply S, t = { s with replies := reply :: s.replies } ∧
      (reply.status.isOk = false → reply.result = false ∧ reply.error.isSome) := by
  obtain ⟨service, hservice⟩ := lockService_weaveService hk hlock
  obtain ⟨call, hcall⟩ := call_isSome (S := S) hservice hnamed
  unfold runMethod at h
  rw [hcall] at h
  dsimp only at h
  split at h
  · cases h
  · cases h
    exact ⟨_, rfl, fun hfailed => statusToError_reported hfailed error⟩

/-! ## Runs -/

/-- The invariant: the system is in a state of its own runs, and who has exited is gone. -/
structure Sound (s : ServiceSystem S) : Prop where
  reach : (System.machine S).Reach s.system
  exited : ∀ c ∈ s.exited, (s.system.clients c).running = false
  reported : FailuresReported s

theorem Sound.connecting (h : Sound s) (c : ℕ) : Client.Connecting (s.system.clients c) :=
  (System.reach_connecting h.reach).1 c

theorem exitedAfter_eq {e : System.Event S} (he : ∀ c, e ≠ .exit c) : s.exitedAfter e = s.exited := by
  cases e with
  | exit c => exact absurd rfl (he c)
  | _ => rfl

/-- Who has exited is gone. -/
theorem exitedAfter_ended (hs : Sound s) {e : System.Event S} {system : System S}
    (hn : s.system.next e = some system) : ∀ c ∈ s.exitedAfter e, (system.clients c).running = false := by
  intro c hc
  unfold exitedAfter at hc
  split at hc
  · rename_i d
    split at hc
    · rcases List.mem_cons.1 hc with rfl | hc
      · cases hn
        rw [System.setClient_self]
        rfl
      · exact System.next_ended hn (hs.exited c hc)
    · exact System.next_ended hn (hs.exited c hc)
  · exact System.next_ended hn (hs.exited c hc)

theorem sameRunning_noCheckFailed {system : System S} (hsame : System.SameRunning s.system system) :
    NoCheckFailed { s with system } ↔ NoCheckFailed s := by
  refine forall_congr' fun c => ?_
  show (system.clients c).running = false → _ ↔ _
  rw [hsame c]

/-- A client that exits has failed no `CHECK`. -/
theorem exit_noCheckFailed {c : ℕ} {system : System S} (hn : s.system.next (.exit c) = some system) :
    NoCheckFailed { s with system, exited := s.exitedAfter (.exit c) } ↔ NoCheckFailed s := by
  cases hn
  have hother : ∀ d, d ≠ c → (s.system.setClient c (s.system.clients c).exit).clients d = s.system.clients d :=
    fun d hd => System.setClient_ne hd _
  dsimp only [exitedAfter]
  cases hrun : (s.system.clients c).running with
  | true =>
    rw [if_pos rfl]
    constructor
    · intro h d hd
      have hdc : d ≠ c := by
        rintro rfl
        rw [hrun] at hd
        cases hd
      refine (List.mem_cons.1 (h d ?_)).resolve_left hdc
      rw [hother d hdc]
      exact hd
    · intro h d hd
      by_cases hdc : d = c
      · exact List.mem_cons.2 (.inl hdc)
      · rw [hother d hdc] at hd
        exact List.mem_cons_of_mem _ (h d hd)
  | false =>
    rw [if_neg Bool.false_ne_true]
    exact sameRunning_noCheckFailed (System.setClient_sameRunning hrun.symm)

/-- An event of the system fails a `CHECK` if it registers a handler with a weaved that is dead. -/
theorem system_noCheckFailed (hs : Sound s) {e : System.Event S} {system : System S}
    (hnamed : (Event.system e : Event S B J).Named) (hn : s.system.next e = some system) :
    NoCheckFailed { s with system, exited := s.exitedAfter e } ↔
      NoCheckFailed s ∧ RegistersAlive s (.system e : Event S B J) := by
  by_cases hends : e.endsNone s.system
  · have halive : RegistersAlive s (.system e : Event S B J) := by
      cases e with
      | resume c success => exact hends
      | _ => trivial
    rw [exitedAfter_eq (by rintro c rfl; exact hends), and_iff_left halive]
    exact sameRunning_noCheckFailed (System.next_sameRunning hs.connecting hends hn)
  · cases e with
    | exit c => exact (exit_noCheckFailed hn).trans (and_iff_left trivial).symm
    | resume c success =>
      -- the client is ended, and is not among those that have exited
      have hdead : s.system.RegistersWithDead c := not_not.1 hends
      obtain ⟨hrun, hended⟩ := System.resume_dead hdead hn
      refine iff_of_false (fun h => ?_) fun h => h.2 hdead
      rw [hs.exited c (h c hended)] at hrun
      cases hrun
    | addCommandHandler c component traitName commandName callback => exact absurd hnamed hends
    | _ => exact absurd trivial hends

/-- What one event preserves, and when it fails no `CHECK`. -/
theorem next_sound (hs : Sound s) (hnamed : e.Named) (h : s.next e = some t) :
    Sound t ∧ (NoCheckFailed t ↔ NoCheckFailed s ∧ RegistersAlive s e) := by
  cases e with
  | system e =>
    obtain ⟨system, hn, rfl⟩ := Option.map_eq_some_iff.1 h
    exact ⟨⟨hs.reach.step trivial hn, exitedAfter_ended hs hn, hs.reported⟩, system_noCheckFailed hs hnamed hn⟩
  | method c method status error =>
    obtain ⟨impl, hlock, h⟩ := withService_cases h
    obtain ⟨reply, rfl, hreply⟩ := runMethod_cases (hs.connecting c) hlock hnamed h
    refine ⟨⟨hs.reach, hs.exited, List.forall_mem_cons.2 ⟨hreply, hs.reported⟩⟩, ?_⟩
    exact (and_iff_left trivial).symm
  | setPairingInfoListener c callback =>
    obtain ⟨impl, hlock, h⟩ := withService_cases h
    cases h
    exact ⟨⟨hs.reach, hs.exited, hs.reported⟩, (and_iff_left trivial).symm⟩
  | onNotification c impl ids =>
    obtain ⟨impl, hlock, h⟩ := withService_cases h
    cases h
    exact ⟨⟨hs.reach, hs.exited, hs.reported⟩, (and_iff_left trivial).symm⟩

theorem start_sound : Sound ({} : ServiceSystem S) := by
  refine ⟨.start rfl, fun c hc => ?_, fun reply hreply => ?_⟩
  · cases hc
  · cases hreply

theorem run_sound {es : List (Event S B J)} (hnamed : ∀ e ∈ es, e.Named)
    (hrun : (machine S B J).run {} es = some s) : Sound s := by
  refine Machine.ReachIf.invariant (P := Sound) ?_ ?_ (Machine.run_reachIf (.start rfl) hnamed hrun)
  · rintro s rfl
    exact start_sound
  · rintro s e t - hs he hn
    exact (next_sound hs he hn).1

/-- **No `CHECK` takes a client down** exactly if every command handler is registered with a
weaved that is running, in any run; a call that fails is reported in any case. -/
theorem no_check_fails_iff {es : List (Event S B J)} (hnamed : ∀ e ∈ es, e.Named)
    (hrun : (machine S B J).run {} es = some s) :
    (NoCheckFailed s ↔ (machine S B J).Meets RegistersAlive {} es) ∧ FailuresReported s := by
  have hnone : NoCheckFailed ({} : ServiceSystem S) := fun c hc => by cases hc
  have hiff := Machine.run_iff_meets_of (M := machine S B J) (P := Sound) (Q := NoCheckFailed) (G := RegistersAlive)
    (fun _ _ _ hs he hn => (next_sound hs he hn).1) (fun _ _ _ hs he hn => (next_sound hs he hn).2)
    start_sound hnamed hrun
  exact ⟨hiff.trans (and_iff_right hnone), (run_sound hnamed hrun).reported⟩

/-- JSON with one dictionary. -/
def emptyPaths : JsonPaths := { Json.empties with set := fun _ _ _ => () }

/-- A client connects, registers a handler, and sets its state when weaved has died. -/
def outageRun : List (Event Strings.plain ByteStrings.plain emptyPaths) :=
  System.connectedRun.map .system ++ [.method 0 (.addComponent "lock" ["lock"]) .ok none,
    .system (.addCommandHandler 0 "lock" "lock" "setConfig" 7), .system (.resume 0 true), .system .weavedDies,
    .method 0 (.setStateProperties "lock" ()) ⟨-129, -32, ""⟩ none, .system (.deathNotice 0 ⟨1, 0⟩),
    .system (.runTask 0 (.reconnectOnServiceDisconnection 0) false)]

theorem outageRun_named : ∀ e ∈ outageRun, e.Named := by
  simp only [outageRun, System.connectedRun, List.map_cons, List.map_nil, List.cons_append, List.nil_append,
    List.forall_mem_cons, Event.Named, List.not_mem_nil, false_imp_iff, implies_true, and_true, true_and]
  decide

theorem no_check_fails_iff_test :
    ∃ s, (machine Strings.plain ByteStrings.plain emptyPaths).run {} outageRun = some s ∧
    (NoCheckFailed s ↔ (machine Strings.plain ByteStrings.plain emptyPaths).Meets RegistersAlive {} outageRun) ∧
    FailuresReported s := by
  have hrun : ((machine Strings.plain ByteStrings.plain emptyPaths).run {} outageRun).isSome := rfl
  obtain ⟨s, hs⟩ := Option.isSome_iff_exists.1 hrun
  exact ⟨s, hs, no_check_fails_iff outageRun_named hs⟩

/-- A client connects, weaved dies, and the client registers a handler before it is told. -/
def deadRun : List (Event Strings.plain ByteStrings.plain emptyPaths) :=
  System.connectedRun.map .system ++ [.system .weavedDies,
    .system (.addCommandHandler 0 "lock" "lock" "setConfig" 7), .system (.resume 0 true)]

/-- **A death of weaved takes a client down**, with a service that it has just locked. -/
theorem dead_weaved_ends_client :
    ∃ s, (machine Strings.plain ByteStrings.plain emptyPaths).run {} deadRun = some s ∧
    (∀ e ∈ deadRun, e.Named) ∧ ¬ NoCheckFailed s := by
  have hnamed : ∀ e ∈ deadRun, e.Named := by
    simp only [deadRun, System.connectedRun, List.map_cons, List.map_nil, List.cons_append, List.nil_append,
      List.forall_mem_cons, Event.Named, List.not_mem_nil, false_imp_iff, implies_true, and_true, true_and]
    decide
  refine ⟨_, rfl, hnamed, fun h => ?_⟩
  have hexited := h 0 rfl
  cases hexited

end ServiceSystem

end SystemWeaved
