import SystemWeaved.Proof.ApManager

/-!
# The access point that is started

* `accessPoint`: the service that is there for all the client has done and been told, with its
  config and its SSID once it has got them.
* `Told`: the client knows of the same service; every event keeps it (`Step.told`).
* `started_as_asked`: a service is started exactly when it is there and the SSID is reported
  set, and it has got the SSID of a `Start` since the last `Stop`.
* `starts_again`: a client that is not destroyed can start any access point, whatever happened.
-/

namespace SystemWeaved

open apmanager

namespace ApManagerClient

variable {s t : ApManagerClient}

/-- The service that `CreateService` has returned last, unless it is gone, with its config and
the SSID that it has got. -/
def accessPoint : List ApEffect → Option (ValidPath × Option (ObjectPath × String))
  | [] => none
  | .createService _ (some path) :: _ => some (path, none)
  | .setSsid config ssid :: log => (accessPoint log).map fun ap => (ap.1, some (config, ssid))
  | .removeService _ path :: log => (accessPoint log).filter fun ap => ap.1.val ≠ path
  | .serviceRemoved path :: log => (accessPoint log).filter fun ap => ap.1 ≠ path
  | .managerRemoved _ :: _ => none
  | _ :: log => accessPoint log

/-- What the client knows of its access point. -/
inductive Told (s : ApManagerClient) : Prop
  | idle (hlog : accessPoint s.log = none) (hpath : s.servicePath = ⟨""⟩) (hproxy : s.serviceProxy = none)
  | created (path : ValidPath) (hlog : accessPoint s.log = some (path, none)) (hpath : s.servicePath = path.val)
      (hproxy : s.serviceProxy = none) (hended : s.ended = false)
  | ready (service : apmanager.ServiceProxy)
      (hlog : accessPoint s.log = some (service.path, some (service.config, s.ssid)))
      (hpath : s.servicePath = service.path.val) (hproxy : s.serviceProxy = some service) (hended : s.ended = false)

/-- Nothing changes but what is not told. -/
theorem Told.congr (h : Told s) (hlog : accessPoint t.log = accessPoint s.log) (hpath : t.servicePath = s.servicePath)
    (hproxy : t.serviceProxy = s.serviceProxy) (hssid : t.ssid = s.ssid) (hended : t.ended = s.ended) : Told t := by
  rcases h with ⟨hl, hp, hx⟩ | ⟨path, hl, hp, hx, he⟩ | ⟨service, hl, hp, hx, he⟩
  · exact .idle (hlog.trans hl) (hpath.trans hp) (hproxy.trans hx)
  · exact .created path (hlog.trans hl) (hpath.trans hp) (hproxy.trans hx) (hended.trans he)
  · refine .ready service ?_ (hpath.trans hp) (hproxy.trans hx) (hended.trans he)
    rw [hlog, hl, hssid]

theorem Told.of_invalid (h : Told s) (hinvalid : ¬s.servicePath.isValid) :
    accessPoint s.log = none ∧ s.servicePath = ⟨""⟩ ∧ s.serviceProxy = none := by
  rcases h with ⟨hl, hp, hx⟩ | ⟨path, -, hp, -, -⟩ | ⟨service, -, hp, -, -⟩
  · exact ⟨hl, hp, hx⟩
  · rw [hp] at hinvalid
    exact absurd path.property hinvalid
  · rw [hp] at hinvalid
    exact absurd service.path.property hinvalid

/-- The access point is at the service path. -/
theorem Told.path_eq (h : Told s) {ap : ValidPath × Option (ObjectPath × String)} (hap : accessPoint s.log = some ap) :
    ap.1.val = s.servicePath := by
  rcases h with ⟨hl, -, -⟩ | ⟨path, hl, hp, -, -⟩ | ⟨service, hl, hp, -, -⟩
  · rw [hl] at hap
    cases hap
  · rw [hl] at hap
    cases hap
    exact hp.symm
  · rw [hl] at hap
    cases hap
    exact hp.symm

/-- The access point is kept when another service goes. -/
theorem Told.filter_other (h : Told s) {p : ValidPath × Option (ObjectPath × String) → Bool}
    (hp : ∀ ap, ap.1.val = s.servicePath → p ap = true) : (accessPoint s.log).filter p = accessPoint s.log := by
  cases hap : accessPoint s.log with
  | none => rfl
  | some ap => exact Option.filter_some_pos (hp ap (h.path_eq hap))

/-- It is gone with its own service. -/
theorem Told.filter_own (h : Told s) {p : ValidPath × Option (ObjectPath × String) → Bool}
    (hp : ∀ ap, ap.1.val = s.servicePath → p ap = false) : (accessPoint s.log).filter p = none := by
  cases hap : accessPoint s.log with
  | none => rfl
  | some ap => exact Option.filter_some_neg (hp ap (h.path_eq hap))

/-- A client with a service calls its manager through a pointer that is good. -/
theorem good_of_valid (howned : Owned s) (hvalid : s.servicePath.isValid) :
    ManagerUse.Good ⟨s.managerProxy, s.objectManagerProxy⟩ := by
  obtain ⟨manager, hm, ho⟩ := howned hvalid
  exact ⟨manager, hm, ho⟩

theorem removeService_ended (hgood : ManagerUse.Good ⟨s.managerProxy, s.objectManagerProxy⟩) (path : ObjectPath) :
    (s.removeService path).ended = s.ended := by
  show (s.ended || !decide (ManagerUse.Good ⟨s.managerProxy, s.objectManagerProxy⟩)) = s.ended
  rw [decide_eq_true hgood, Bool.not_true, Bool.or_false]

/-- `Stop` with a service removes it. -/
theorem stop_of_valid (howned : Owned s) (hvalid : s.servicePath.isValid) :
    s.stop.log = .removeService ⟨s.managerProxy, s.objectManagerProxy⟩ s.servicePath :: s.log ∧
      s.stop.ended = s.ended := by
  obtain ⟨manager, hm, -⟩ := howned hvalid
  have hcall : (s.managerProxy.isSome && s.servicePath.isValid) = true := by rw [hm, hvalid]; rfl
  simp only [stop, hcall, if_true]
  exact ⟨rfl, removeService_ended (good_of_valid howned hvalid) s.servicePath⟩

theorem stop_of_invalid (hinvalid : ¬s.servicePath.isValid) : s.stop.log = s.log ∧ s.stop.ended = s.ended := by
  unfold stop
  rw [Bool.eq_false_iff.2 hinvalid, Bool.and_false]
  exact ⟨rfl, rfl⟩

/-- A client that stops is not ended by it. -/
theorem stop_ended (howned : Owned s) : s.stop.ended = s.ended := by
  by_cases hvalid : s.servicePath.isValid
  · exact (stop_of_valid howned hvalid).2
  · exact (stop_of_invalid hvalid).2

theorem stop_accessPoint (howned : Owned s) (h : Told s) : accessPoint s.stop.log = none := by
  by_cases hvalid : s.servicePath.isValid
  · rw [(stop_of_valid howned hvalid).1]
    exact h.filter_own fun ap hap => decide_eq_false (not_not.2 hap)
  · rw [(stop_of_invalid hvalid).1]
    exact (h.of_invalid hvalid).1

theorem start_told (h : Told s) (ssid : String) : Told (s.start ssid) := by
  unfold start
  split
  · exact h
  · rename_i hinvalid
    obtain ⟨hlog, hpath, hproxy⟩ := h.of_invalid hinvalid
    exact .idle hlog hpath hproxy

theorem onManagerAdded_told (h : Told s) (hended : s.ended = false) (manager : ManagerProxy)
    (reply : Option ValidPath) : Told (s.onManagerAdded manager reply) := by
  unfold onManagerAdded
  dsimp only
  split
  · exact h.congr rfl rfl rfl rfl rfl
  · rename_i hinvalid
    obtain ⟨hlog, hpath, hproxy⟩ := h.of_invalid hinvalid
    cases reply with
    | none => exact .idle hlog hpath hproxy
    | some path => exact .created path rfl rfl hproxy hended

theorem onServiceAdded_told (howned : Owned s) (h : Told s) (service : apmanager.ServiceProxy) :
    Told (s.onServiceAdded service) := by
  unfold onServiceAdded
  dsimp only
  split
  · -- a leftover service is removed, and the client's own one is another
    rename_i hother
    have hother : service.path.val ≠ s.servicePath := hother
    have hfilter : accessPoint (.removeService ⟨s.managerProxy, s.objectManagerProxy⟩ service.path.val ::
        .serviceAdded service.path :: s.log) = accessPoint s.log :=
      h.filter_other fun ap hap => decide_eq_true (hap ▸ hother.symm)
    by_cases hvalid : s.servicePath.isValid
    · refine h.congr hfilter rfl rfl rfl ?_
      exact removeService_ended (s := s.emit _) (good_of_valid howned hvalid) _
    · obtain ⟨hlog, hpath, hproxy⟩ := h.of_invalid hvalid
      exact .idle (hfilter.trans hlog) hpath hproxy
  · rename_i hown
    have hown : service.path.val = s.servicePath := not_not.1 hown
    have hready : ∀ setup, s.ended = false → accessPoint s.log = some (service.path, setup) →
        Told { (s.emit (.serviceAdded service.path)).emit
          (.setSsid service.config (s.emit (.serviceAdded service.path)).ssid) with serviceProxy := some service } := by
      intro setup hended hlog
      refine .ready service ?_ hown.symm rfl hended
      show (accessPoint s.log).map _ = _
      rw [hlog]
      rfl
    rcases h with ⟨-, hpath, -⟩ | ⟨path, hlog, hpath, -, hended⟩ | ⟨old, hlog, hpath, -, hended⟩
    · -- there is no service of the client's own
      have hvalid := service.path.property
      rw [hown, hpath, empty_invalid] at hvalid
      cases hvalid
    · have hsame : path = service.path := Subtype.ext (hpath.symm.trans hown.symm)
      exact hready none hended (hsame ▸ hlog)
    · have hsame : old.path = service.path := Subtype.ext (hpath.symm.trans hown.symm)
      exact hready _ hended (hsame ▸ hlog)

theorem onServiceRemoved_told (h : Told s) (path : ValidPath) : Told (s.onServiceRemoved path) := by
  by_cases hown : path.val = s.servicePath
  · rw [onServiceRemoved_own hown]
    refine .idle ?_ rfl rfl
    refine h.filter_own fun ap hap => decide_eq_false (not_not.2 ?_)
    exact Subtype.ext (hap.trans hown.symm)
  · rw [onServiceRemoved_other hown]
    refine h.congr ?_ rfl rfl rfl rfl
    refine h.filter_other fun ap hap => decide_eq_true ?_
    rintro rfl
    exact hown hap

theorem onSsidSet_told (h : Told s) (success : Bool) : Told (s.onSsidSet success) := by
  unfold onSsidSet
  split
  · exact h.congr rfl rfl rfl rfl rfl
  · exact h

/-- Every event keeps it. -/
theorem Step.told {e : Event} (h : Step s e t) (hended : s.ended = false) (howned : Owned s) (hs : Told s) :
    Told t := by
  cases h with
  | start ssid => exact start_told hs ssid
  | stop => exact .idle (stop_accessPoint howned hs) rfl rfl
  | managerAdded owner howner path reply => exact onManagerAdded_told hs hended _ reply
  | serviceAdded service => exact onServiceAdded_told howned hs service
  | ssidSet success => exact onSsidSet_told hs success
  | serviceRemoved path => exact onServiceRemoved_told hs path
  | managerRemoved path => exact .idle rfl rfl rfl
  | destroy => exact .idle (stop_accessPoint howned hs) rfl rfl

theorem next_ended {e : Event} (hn : s.next e = some t) : s.ended = false := by
  unfold next at hn
  split at hn
  · cases hn
  · rename_i h
    exact Bool.eq_false_iff.2 h

theorem start_owned : Owned ({} : ApManagerClient) := by
  intro h
  rw [empty_invalid] at h
  cases h

theorem reach_told (h : machine.Reach s) : Owned s ∧ Told s := by
  refine Machine.ReachIf.invariant (P := fun s => Owned s ∧ Told s) ?_ ?_ h
  · rintro s rfl
    exact ⟨start_owned, .idle rfl rfl rfl⟩
  · rintro s e t - ⟨howned, htold⟩ - hn
    exact ⟨(next_step hn).owned howned, (next_step hn).told (next_ended hn) howned htold⟩

/-! ## What has been asked for -/

/-- The SSIDs of the calls of `Start` since the last end of a session. -/
def askedBy (ssids : List String) : Event → List String
  | .start ssid => ssid :: ssids
  | .stop | .managerRemoved _ | .destroy => []
  | .managerAdded _ _ | .serviceAdded _ | .ssidSet _ | .serviceRemoved _ => ssids

def asked (es : List Event) : List String := es.foldl askedBy []

/-- In a session the SSID is one that has been asked for. -/
def Asked (s : ApManagerClient) (ssids : List String) : Prop := s.objectManagerProxy ≠ none → s.ssid ∈ ssids

theorem Asked.congr {ssids : List String} (h : Asked s ssids) (hobject : t.objectManagerProxy = s.objectManagerProxy)
    (hssid : t.ssid = s.ssid) : Asked t ssids := by
  intro hsession
  rw [hobject] at hsession
  rw [hssid]
  exact h hsession

theorem Step.asked {e : Event} (h : Step s e t) {ssids : List String} (hs : Asked s ssids) :
    Asked t (askedBy ssids e) := by
  cases h with
  | start ssid =>
    intro hsession
    by_cases hvalid : s.servicePath.isValid
    · have hsame : s.start ssid = s := if_pos hvalid
      rw [hsame] at hsession ⊢
      exact List.mem_cons_of_mem _ (hs hsession)
    · have hssid : (s.start ssid).ssid = ssid := by
        unfold ApManagerClient.start
        rw [if_neg hvalid]
      rw [hssid]
      exact List.mem_cons_self
  | stop | managerRemoved path | destroy => exact fun hsession => absurd rfl hsession
  | managerAdded owner howner path reply =>
    refine hs.congr ?_ ?_
    all_goals
      unfold onManagerAdded
      dsimp only
      split <;> rfl
  | serviceAdded service =>
    refine hs.congr ?_ ?_
    all_goals
      unfold onServiceAdded
      dsimp only
      split <;> rfl
  | ssidSet success =>
    refine hs.congr (onSsidSet_same s success).2.2.1 ?_
    unfold onSsidSet
    split <;> rfl
  | serviceRemoved path =>
    refine hs.congr ?_ ?_
    all_goals
      unfold onServiceRemoved
      dsimp only
      split <;> rfl

theorem run_asked {es : List Event} {ssids : List String} (hs : Asked s ssids) (h : machine.run s es = some t) :
    Asked t (es.foldl askedBy ssids) := by
  induction es generalizing s ssids with
  | nil =>
    cases h
    exact hs
  | cons e es ih =>
    obtain ⟨u, hu, h⟩ := Option.bind_eq_some_iff.1 h
    exact ih ((next_step hu).asked hs) h

/-! ## Results -/

theorem stop_not_started (howned : Owned s) (path : ValidPath) : s.stop.log ≠ .startService path :: s.log := by
  intro hlog
  by_cases hvalid : s.servicePath.isValid
  · rw [(stop_of_valid howned hvalid).1] at hlog
    cases hlog
  · rw [(stop_of_invalid hvalid).1] at hlog
    exact List.cons_ne_self _ _ hlog.symm

/-- An event that starts a service is a report that the SSID is set. -/
theorem Step.started {e : Event} (h : Step s e t) (howned : Owned s) {path : ValidPath}
    (hlog : t.log = .startService path :: s.log) :
    e = .ssidSet true ∧ ∃ service, s.serviceProxy = some service ∧ service.path = path := by
  cases h with
  | start ssid =>
    rw [start_log] at hlog
    exact absurd hlog.symm (List.cons_ne_self _ _)
  | stop => exact absurd hlog (stop_not_started howned path)
  | destroy => exact absurd hlog (stop_not_started howned path)
  | managerAdded owner howner manager reply =>
    rw [onManagerAdded_log] at hlog
    split at hlog <;> cases hlog
  | serviceAdded service =>
    unfold onServiceAdded at hlog
    dsimp only at hlog
    split at hlog <;> cases hlog
  | ssidSet success =>
    unfold onSsidSet at hlog
    split at hlog
    · rename_i service hproxy
      cases hlog
      exact ⟨rfl, service, hproxy, rfl⟩
    · exact absurd hlog.symm (List.cons_ne_self _ _)
  | serviceRemoved path =>
    rw [onServiceRemoved_log] at hlog
    cases hlog
  | managerRemoved path => cases hlog

/-- The service that is there is started when its SSID is reported set. -/
theorem next_started (h : Told s) {path : ValidPath} {setup : ObjectPath × String}
    (hap : accessPoint s.log = some (path, some setup)) :
    setup.2 = s.ssid ∧ ∃ t, s.next (.ssidSet true) = some t ∧ t.log = .startService path :: s.log := by
  rcases h with ⟨hl, -, -⟩ | ⟨path, hl, -, -, -⟩ | ⟨service, hl, -, hproxy, hended⟩
  · rw [hl] at hap
    cases hap
  · rw [hl] at hap
    cases hap
  · rw [hl] at hap
    cases hap
    refine ⟨rfl, s.onSsidSet true, ?_, ?_⟩
    · unfold next
      rw [hended]
      rfl
    · unfold onSsidSet
      rw [hproxy]
      rfl

/-- **An access point is started as it has been asked for.** The service that an event starts is
the last one that has been created, it is still there, and it has got the SSID of the client,
which is that of a `Start` since the last end of a session. A service with its SSID is started
when that is reported set. -/
theorem started_as_asked {es : List Event} (h : machine.run {} es = some s) :
    (∀ e t path, s.next e = some t → t.log = .startService path :: s.log →
      e = .ssidSet true ∧ ∃ config, accessPoint s.log = some (path, some (config, s.ssid)) ∧ s.ssid ∈ asked es) ∧
    ∀ path config ssid, accessPoint s.log = some (path, some (config, ssid)) →
      ssid = s.ssid ∧ ∃ t, s.next (.ssidSet true) = some t ∧ t.log = .startService path :: s.log := by
  obtain ⟨howned, htold⟩ := reach_told (Machine.run_reach (.start rfl) h)
  refine ⟨fun e t path hn hlog => ?_, fun path config ssid hap => next_started htold hap⟩
  obtain ⟨he, service, hservice, hpath⟩ := (next_step hn).started howned hlog
  refine ⟨he, ?_⟩
  rcases htold with ⟨-, -, hnone⟩ | ⟨-, -, -, hnone, -⟩ | ⟨service', hl, hvalid, hproxy, -⟩
  · rw [hnone] at hservice
    cases hservice
  · rw [hnone] at hservice
    cases hservice
  · rw [hproxy] at hservice
    cases hservice
    refine ⟨service.config, hpath ▸ hl, ?_⟩
    refine run_asked (fun hnone => absurd rfl hnone) h ?_
    obtain ⟨manager, -, ho⟩ := howned (hvalid ▸ service.path.property)
    rw [ho]
    exact Option.some_ne_none _

/-- The events of a session from its start to its access point. -/
def session (ssid : String) (manager path : ValidPath) (config : ObjectPath) : List Event :=
  [.start ssid, .managerAdded manager (some path), .serviceAdded ⟨path, config⟩, .ssidSet true]

/-- A client without a session can start an access point. -/
theorem session_run (hended : s.ended = false) (hpath : s.servicePath = ⟨""⟩) (ssid : String)
    (manager path : ValidPath) (config : ObjectPath) : ∃ t, machine.run s (session ssid manager path config) = some t ∧
      t.log.head? = some (.startService path) ∧ accessPoint t.log = some (path, some (config, ssid)) := by
  -- a session begins
  let a : ApManagerClient :=
    { s with ssid := ssid, objectManagerProxy := some s.objectManagers, objectManagers := s.objectManagers + 1 }
  have ha : machine.next s (.start ssid) = some a := by
    have hbegun : s.start ssid = a := by
      unfold ApManagerClient.start
      refine if_neg ?_
      rw [hpath, empty_invalid]
      exact Bool.false_ne_true
    show (if s.ended then none else some (s.start ssid)) = some a
    rw [hbegun]
    exact if_neg (Bool.eq_false_iff.1 hended)
  -- its manager makes a service
  let proxy : ManagerProxy := ⟨s.objectManagers, manager⟩
  let b : ApManagerClient := { a with
    managerProxy := some proxy
    servicePath := path.val
    log := .createService ⟨some proxy, a.objectManagerProxy⟩ (some path) :: .managerAdded manager :: a.log }
  have hb : machine.next a (.managerAdded manager (some path)) = some b := by
    have hadded : a.onManagerAdded proxy (some path) = b := by
      unfold onManagerAdded
      have hinvalid : ¬({ a.emit (.managerAdded proxy.path) with
          managerProxy := some proxy } : ApManagerClient).servicePath.isValid := by
        show ¬s.servicePath.isValid
        rw [hpath, empty_invalid]
        exact Bool.false_ne_true
      dsimp only
      rw [if_neg hinvalid]
      rfl
    show (if a.ended then none else some (a.onManagerAdded proxy (some path))) = some b
    rw [hadded]
    exact if_neg (Bool.eq_false_iff.1 hended)
  -- the service gets the SSID
  let c : ApManagerClient := { b with
    serviceProxy := some ⟨path, config⟩
    log := .setSsid config ssid :: .serviceAdded path :: b.log }
  have hc : machine.next b (.serviceAdded ⟨path, config⟩) = some c := by
    have hadded : b.onServiceAdded ⟨path, config⟩ = c := by
      unfold onServiceAdded
      exact if_neg (not_not.2 rfl)
    show (if b.ended then none else some (b.onServiceAdded ⟨path, config⟩)) = some c
    rw [hadded]
    exact if_neg (Bool.eq_false_iff.1 hended)
  have hd : machine.next c (.ssidSet true) = some (c.emit (.startService path)) :=
    if_neg (Bool.eq_false_iff.1 hended)
  refine ⟨c.emit (.startService path), ?_, rfl, rfl⟩
  unfold session
  rw [Machine.run_cons ha, Machine.run_cons hb, Machine.run_cons hc, Machine.run_cons hd]
  rfl

/-- **A client that is not destroyed can start any access point**: after a `Stop` the answers
of apmanager lead to it. -/
theorem starts_again (h : machine.Reach s) (hended : s.ended = false) (ssid : String) (manager path : ValidPath)
    (config : ObjectPath) : ∃ t, machine.run s (.stop :: session ssid manager path config) = some t ∧
      t.log.head? = some (.startService path) ∧ accessPoint t.log = some (path, some (config, ssid)) := by
  have hstop : machine.next s .stop = some s.stop := by
    show s.next .stop = _
    unfold next
    rw [hended]
    rfl
  rw [Machine.run_cons hstop]
  exact session_run ((stop_ended (reach_told h).1).trans hended) rfl ssid manager path config

/-- A service has been made and reported, and its SSID is on the way. -/
def pendingRun : List Event :=
  [.start "first", .stop, .start "weave", .managerAdded apManager (some firstService),
    .serviceAdded ⟨firstService, ⟨"/manager/services/0/config"⟩⟩]

def pendingState : ApManagerClient := (machine.run {} pendingRun).get rfl

theorem started_as_asked_test :
    (∀ e t path, pendingState.next e = some t → t.log = .startService path :: pendingState.log →
      e = .ssidSet true ∧ ∃ config, accessPoint pendingState.log = some (path, some (config, pendingState.ssid)) ∧
        pendingState.ssid ∈ asked pendingRun) ∧
    ∀ path config ssid, accessPoint pendingState.log = some (path, some (config, ssid)) →
      ssid = pendingState.ssid ∧
        ∃ t, pendingState.next (.ssidSet true) = some t ∧ t.log = .startService path :: pendingState.log :=
  started_as_asked (Option.some_get _).symm

/-- Only the SSID of the second session can be started. -/
example : asked pendingRun = ["weave"] ∧
    accessPoint pendingState.log = some (firstService, some (⟨"/manager/services/0/config"⟩, "weave")) := by
  decide +kernel

theorem starts_again_test : ∃ t, machine.run pendingState (.stop :: session "again" apManager firstService ⟨"/c"⟩) =
    some t ∧ t.log.head? = some (.startService firstService) ∧
      accessPoint t.log = some (firstService, some (⟨"/c"⟩, "again")) :=
  starts_again (Machine.run_reach (.start rfl) (Option.some_get _).symm) rfl "again" apManager firstService ⟨"/c"⟩

end ApManagerClient

end SystemWeaved
