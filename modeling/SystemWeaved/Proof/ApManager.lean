import SystemWeaved.Lib.Simulation
import SystemWeaved.Spec.ApManager

/-!
# The soft-AP client's manager and service

* `Owned`: while the client has a service path, its manager is one of the object manager held.
  So `Stop` and `OnManagerAdded` call through a good pointer.
* `uses_good_iff`: all calls of a run go through a good pointer exactly if leftover services are
  reported only while there is such a manager. `OnServiceAdded` does not check for it, and
  `Start` replaces the object manager without clearing the pointer.
* `outstanding`: the created services that have neither been removed nor been reported removed,
  by themselves or with their manager.
* `balanced_along_iff`: only the current service is outstanding exactly if no manager is reported
  removed but that of the current service. `OnManagerRemoved` does not look at its path.
-/

namespace SystemWeaved

open apmanager

namespace ApManagerClient

variable {s t : ApManagerClient}

theorem empty_invalid : (⟨""⟩ : ObjectPath).isValid = false := by decide +kernel

/-- What an event does, with the object manager its callback comes from. -/
inductive Step (s : ApManagerClient) : Event → ApManagerClient → Prop
  | start (ssid : String) : Step s (.start ssid) (s.start ssid)
  | stop : Step s .stop s.stop
  | managerAdded (owner : ℕ) (howner : s.objectManagerProxy = some owner) (path : ValidPath)
      (reply : Option ValidPath) : Step s (.managerAdded path reply) (s.onManagerAdded ⟨owner, path⟩ reply)
  | serviceAdded (service : apmanager.ServiceProxy) : Step s (.serviceAdded service) (s.onServiceAdded service)
  | ssidSet (success : Bool) : Step s (.ssidSet success) (s.onSsidSet success)
  | serviceRemoved (path : ValidPath) : Step s (.serviceRemoved path) (s.onServiceRemoved path)
  | managerRemoved (path : ValidPath) : Step s (.managerRemoved path) (s.onManagerRemoved path)
  | destroy : Step s .destroy s.destroy

theorem next_step {e : Event} (h : s.next e = some t) : Step s e t := by
  unfold next at h
  split at h
  · cases h
  · cases howner : s.objectManagerProxy with
    | none =>
      rw [howner] at h
      cases e <;> cases h <;> constructor
    | some owner =>
      rw [howner] at h
      cases e <;> cases h <;> constructor
      exact howner

/-! ## The manager -/

/-- A client with a service path has a manager of the object manager it holds. -/
def Owned (s : ApManagerClient) : Prop :=
  s.servicePath.isValid → ∃ manager, s.managerProxy = some manager ∧ s.objectManagerProxy = some manager.owner

/-- The use of its pointer that an effect makes. -/
def use : ApEffect → Option ManagerUse
  | .createService use _ | .removeService use _ => some use
  | _ => none

/-- All calls so far have gone through a pointer to a manager of the object manager held. -/
def UsesGood (s : ApManagerClient) : Prop := ∀ e ∈ s.log, ∀ u, use e = some u → u.Good

/-- A service that is not the client's own is reported only while the client has a manager of
the object manager held. -/
def ReportedToManager (s : ApManagerClient) : Event → Prop
  | .serviceAdded service => service.path.val = s.servicePath ∨
    ∃ manager, s.managerProxy = some manager ∧ s.objectManagerProxy = some manager.owner
  | _ => True

theorem usesGood_cons {e : ApEffect} (h : t.log = e :: s.log) :
    UsesGood t ↔ UsesGood s ∧ ∀ u, use e = some u → u.Good := by
  unfold UsesGood
  rw [h, List.forall_mem_cons, and_comm]

theorem usesGood_quiet {e : ApEffect} (h : t.log = e :: s.log) (he : use e = none) : UsesGood t ↔ UsesGood s := by
  rw [usesGood_cons h, he]
  simp

theorem usesGood_congr (h : t.log = s.log) : UsesGood t ↔ UsesGood s := by
  unfold UsesGood
  rw [h]

theorem removeService_usesGood (s : ApManagerClient) (path : ObjectPath) :
    UsesGood (s.removeService path) ↔ UsesGood s ∧ ManagerUse.Good ⟨s.managerProxy, s.objectManagerProxy⟩ := by
  have h := usesGood_cons (s := s) (t := s.removeService path) rfl
  simpa [use] using h

/-- The client stops before it could call through a bad pointer. -/
theorem stop_usesGood (hs : Owned s) : UsesGood s.stop ↔ UsesGood s := by
  unfold stop
  dsimp only
  split
  · rename_i h
    rw [Bool.and_eq_true] at h
    refine (usesGood_congr (s := s.removeService s.servicePath) rfl).trans ?_
    rw [removeService_usesGood]
    exact and_iff_left (hs h.2)
  · exact usesGood_congr rfl

theorem stop_owned (s : ApManagerClient) : Owned s.stop := by
  intro h
  rw [stop, empty_invalid] at h
  cases h

theorem onManagerRemoved_usesGood (s : ApManagerClient) (path : ValidPath) :
    UsesGood (s.onManagerRemoved path) ↔ UsesGood s := by
  -- without a manager `Stop` makes no call
  have hlog : (s.onManagerRemoved path).log = .managerRemoved path :: s.log := rfl
  exact usesGood_quiet hlog rfl

theorem onManagerAdded_log (s : ApManagerClient) (manager : ManagerProxy) (reply : Option ValidPath) :
    (s.onManagerAdded manager reply).log =
      if s.servicePath.isValid then .managerAdded manager.path :: s.log
      else .createService ⟨some manager, s.objectManagerProxy⟩ reply :: .managerAdded manager.path :: s.log := by
  unfold onManagerAdded
  dsimp only
  split
  · rename_i h
    have h : s.servicePath.isValid = true := h
    rw [h]
    rfl
  · rename_i h
    have h : ¬s.servicePath.isValid = true := h
    rw [if_neg h]
    rfl

theorem onManagerAdded_usesGood {manager : ManagerProxy} (reply : Option ValidPath)
    (hm : s.objectManagerProxy = some manager.owner) : UsesGood (s.onManagerAdded manager reply) ↔ UsesGood s := by
  have hlog := onManagerAdded_log s manager reply
  have hadded : UsesGood (s.emit (.managerAdded manager.path)) ↔ UsesGood s := usesGood_quiet rfl rfl
  split at hlog
  · exact usesGood_quiet hlog rfl
  · refine (usesGood_cons (s := s.emit (.managerAdded manager.path)) hlog).trans ?_
    rw [hadded]
    refine and_iff_left ?_
    rintro u ⟨rfl⟩
    exact ⟨manager, rfl, hm⟩

/-- A leftover service is removed through whatever pointer there is. -/
theorem onServiceAdded_usesGood (s : ApManagerClient) (service : apmanager.ServiceProxy) :
    UsesGood (s.onServiceAdded service) ↔ UsesGood s ∧ ReportedToManager s (.serviceAdded service) := by
  have hadded : UsesGood (s.emit (.serviceAdded service.path)) ↔ UsesGood s := usesGood_quiet rfl rfl
  unfold onServiceAdded
  dsimp only
  split
  · rename_i h
    have h : service.path.val ≠ s.servicePath := h
    rw [removeService_usesGood, hadded]
    refine and_congr_right fun _ => ?_
    exact (or_iff_right h).symm
  · rename_i h
    have h : service.path.val = s.servicePath := not_not.1 h
    have hset : UsesGood { (s.emit (.serviceAdded service.path)).emit
        (.setSsid service.config (s.emit (.serviceAdded service.path)).ssid) with serviceProxy := some service } ↔
        UsesGood (s.emit (.serviceAdded service.path)) := usesGood_quiet rfl rfl
    rw [hset, hadded]
    exact (and_iff_left (.inl h)).symm

theorem start_cases (s : ApManagerClient) (ssid : String) : s.start ssid = s ∨
    ¬s.servicePath.isValid ∧ (s.start ssid).servicePath = s.servicePath ∧ (s.start ssid).serviceProxy = s.serviceProxy ∧
      (s.start ssid).objectManagerProxy ≠ none ∧ (s.start ssid).log = s.log := by
  unfold start
  split
  · exact .inl rfl
  · exact .inr ⟨‹_›, rfl, rfl, by simp, rfl⟩

theorem start_log (s : ApManagerClient) (ssid : String) : (s.start ssid).log = s.log := by
  rcases start_cases s ssid with h | ⟨-, -, -, -, h⟩
  · rw [h]
  · exact h

theorem onServiceRemoved_own {path : ValidPath} (h : path.val = s.servicePath) :
    s.onServiceRemoved path =
      { s.emit (.serviceRemoved path) with servicePath := ⟨""⟩, serviceProxy := none } := by
  unfold onServiceRemoved
  exact if_neg (not_not.2 h)

theorem onServiceRemoved_other {path : ValidPath} (h : path.val ≠ s.servicePath) :
    s.onServiceRemoved path = s.emit (.serviceRemoved path) := by
  unfold onServiceRemoved
  exact if_pos h

theorem onServiceRemoved_log (s : ApManagerClient) (path : ValidPath) :
    (s.onServiceRemoved path).log = .serviceRemoved path :: s.log := by
  unfold onServiceRemoved
  dsimp only
  split <;> rfl

theorem onSsidSet_same (s : ApManagerClient) (success : Bool) :
    (s.onSsidSet success).servicePath = s.servicePath ∧ (s.onSsidSet success).managerProxy = s.managerProxy ∧
      (s.onSsidSet success).objectManagerProxy = s.objectManagerProxy ∧
      (s.onSsidSet success).serviceProxy = s.serviceProxy := by
  unfold onSsidSet
  split <;> exact ⟨rfl, rfl, rfl, rfl⟩

theorem onSsidSet_usesGood (s : ApManagerClient) (success : Bool) :
    UsesGood (s.onSsidSet success) ↔ UsesGood s := by
  unfold onSsidSet
  split
  · exact usesGood_quiet rfl rfl
  · exact Iff.rfl

theorem Owned.congr (hs : Owned s) (hpath : t.servicePath = s.servicePath) (hm : t.managerProxy = s.managerProxy)
    (ho : t.objectManagerProxy = s.objectManagerProxy) : Owned t := by
  unfold Owned
  rw [hpath, hm, ho]
  exact hs

theorem Step.owned {e : Event} (h : Step s e t) (hs : Owned s) : Owned t := by
  cases h with
  | start ssid =>
    rcases start_cases s ssid with h | ⟨hinvalid, hpath, -, -, -⟩
    · rwa [h]
    · intro hvalid
      rw [hpath] at hvalid
      exact absurd hvalid hinvalid
  | stop => exact stop_owned s
  | managerAdded owner howner path reply =>
    -- the new manager is one of the object manager held
    intro _
    unfold onManagerAdded
    dsimp only
    split
    · exact ⟨_, rfl, howner⟩
    · exact ⟨_, rfl, howner⟩
  | serviceAdded service =>
    unfold onServiceAdded
    dsimp only
    split
    · exact hs.congr rfl rfl rfl
    · exact hs.congr rfl rfl rfl
  | ssidSet success =>
    obtain ⟨hpath, hm, ho, -⟩ := onSsidSet_same s success
    exact hs.congr hpath hm ho
  | serviceRemoved path =>
    unfold onServiceRemoved
    dsimp only
    split
    · exact hs.congr rfl rfl rfl
    · intro h
      rw [empty_invalid] at h
      cases h
  | managerRemoved path => exact stop_owned _
  | destroy => exact (stop_owned s).congr rfl rfl rfl

/-- **One event makes good calls only, exactly if it is reported to a manager.** -/
theorem Step.usesGood_iff {e : Event} (h : Step s e t) (hs : Owned s) :
    UsesGood t ↔ UsesGood s ∧ ReportedToManager s e := by
  cases h with
  | serviceAdded service => exact onServiceAdded_usesGood s service
  | start ssid => exact (usesGood_congr (start_log s ssid)).trans (and_iff_left trivial).symm
  | stop => exact (stop_usesGood hs).trans (and_iff_left trivial).symm
  | managerAdded owner howner path reply =>
    exact (onManagerAdded_usesGood reply howner).trans (and_iff_left trivial).symm
  | ssidSet success => exact (onSsidSet_usesGood s success).trans (and_iff_left trivial).symm
  | serviceRemoved path =>
    exact (usesGood_quiet (onServiceRemoved_log s path) rfl).trans (and_iff_left trivial).symm
  | managerRemoved path => exact (onManagerRemoved_usesGood s path).trans (and_iff_left trivial).symm
  | destroy =>
    have hlog : s.destroy.log = s.stop.log := rfl
    exact ((usesGood_congr hlog).trans (stop_usesGood hs)).trans (and_iff_left trivial).symm

/-- **When all calls of a run go through a good pointer.** -/
theorem uses_good_iff {es : List Event} (h : machine.run {} es = some t) :
    UsesGood t ↔ machine.Meets ReportedToManager {} es := by
  have hstart : Owned ({} : ApManagerClient) := by
    intro h
    rw [empty_invalid] at h
    cases h
  have hiff := Machine.run_iff_meets (P := Owned) (Q := UsesGood) (G := ReportedToManager)
    (fun s e t hs hn => (next_step hn).owned hs) (fun s e t hs hn => (next_step hn).usesGood_iff hs) hstart h
  rw [hiff]
  exact and_iff_right fun e he => absurd he List.not_mem_nil

def apManager : ValidPath := ⟨⟨"/manager"⟩, by decide +kernel⟩

def firstService : ValidPath := ⟨⟨"/manager/services/0"⟩, by decide +kernel⟩

def leftoverService : apmanager.ServiceProxy := ⟨⟨⟨"/manager/services/1"⟩, by decide +kernel⟩, ⟨"/config"⟩⟩

/-- A manager makes a service, which is reported and configured. -/
def orderlyRun : List Event :=
  [.start "weave", .managerAdded apManager (some firstService),
   .serviceAdded ⟨firstService, ⟨"/manager/services/0/config"⟩⟩, .ssidSet true, .stop]

theorem uses_good_iff_test : UsesGood ((machine.run {} orderlyRun).get rfl) ↔
    machine.Meets ReportedToManager {} orderlyRun := uses_good_iff (Option.some_get _).symm

/-- A leftover service is reported before the manager. -/
theorem leftover_before_manager : ¬∀ es t, machine.run {} es = some t → UsesGood t := by
  intro hall
  have h := hall [.start "weave", .serviceAdded leftoverService] _ rfl
  obtain ⟨manager, hnone, -⟩ := h (.removeService ⟨none, some 0⟩ leftoverService.path.val) (by decide +kernel) _ rfl
  cases hnone

/-! ## The services -/

/-- The services that `CreateService` has returned and that are still there for all the client
has done and been told: each with the path of its manager. -/
def outstanding : List ApEffect → List (ValidPath × Option ValidPath)
  | [] => []
  | .createService use (some path) :: log => (path, use.proxy.map ManagerProxy.path) :: outstanding log
  | .removeService _ path :: log => (outstanding log).filter fun x => x.1.val ≠ path
  | .serviceRemoved path :: log => (outstanding log).filter fun x => x.1 ≠ path
  | .managerRemoved path :: log => (outstanding log).filter fun x => x.2 ≠ some path
  | _ :: log => outstanding log

/-- **No service is leaked or doubled**: only the current one is outstanding, none without an
object manager, and the proxy is that of the current one. -/
structure Balanced (s : ApManagerClient) : Prop where
  current : ∀ x ∈ outstanding s.log, x.1.val = s.servicePath
  one : (outstanding s.log).length ≤ 1
  stopped : s.objectManagerProxy = none → outstanding s.log = []
  proxy : ∀ service, s.serviceProxy = some service → service.path.val = s.servicePath

/-- A manager that is reported removed is the one of the outstanding service. -/
def RemovesOwn (s : ApManagerClient) : Event → Prop
  | .managerRemoved path => ∀ x ∈ outstanding s.log, x.2 = some path
  | _ => True

/-- Without a service path nothing is outstanding. -/
theorem Balanced.empty (hs : Balanced s) (h : ¬s.servicePath.isValid) : outstanding s.log = [] := by
  refine List.eq_nil_iff_forall_not_mem.2 fun x hx => h ?_
  rw [← hs.current x hx]
  exact x.1.property

theorem Balanced.of_empty (h : outstanding t.log = []) (hproxy : t.serviceProxy = none) : Balanced t where
  current x hx := by simp [h] at hx
  one := by simp [h]
  stopped _ := h
  proxy service hs := by simp [hproxy] at hs

/-- Fewer outstanding services, with the same service path and proxy. -/
theorem Balanced.filter (hs : Balanced s) {p : ValidPath × Option ValidPath → Bool}
    (h : outstanding t.log = (outstanding s.log).filter p) (hpath : t.servicePath = s.servicePath)
    (hproxy : t.serviceProxy = s.serviceProxy) (hobject : t.objectManagerProxy = s.objectManagerProxy) :
    Balanced t where
  current x hx := by
    rw [hpath]
    exact hs.current x (List.mem_of_mem_filter (h ▸ hx))
  one := by
    rw [h]
    exact (List.length_filter_le _ _).trans hs.one
  stopped hnone := by
    rw [h, hs.stopped (hobject ▸ hnone)]
    rfl
  proxy := by
    rw [hproxy, hpath]
    exact hs.proxy

/-- The outstanding services are the same, and there is an object manager. -/
theorem Balanced.congr (hs : Balanced s) (h : outstanding t.log = outstanding s.log)
    (hpath : t.servicePath = s.servicePath) (hproxy : t.serviceProxy = s.serviceProxy)
    (hobject : t.objectManagerProxy = none → s.objectManagerProxy = none) : Balanced t where
  current := by
    rw [h, hpath]
    exact hs.current
  one := by
    rw [h]
    exact hs.one
  stopped hnone := h.trans (hs.stopped (hobject hnone))
  proxy := by
    rw [hproxy, hpath]
    exact hs.proxy

/-- After `Stop` nothing is outstanding. -/
theorem stop_outstanding (howned : Owned s) (hs : Balanced s) : outstanding s.stop.log = [] := by
  by_cases hvalid : s.servicePath.isValid
  · -- the current service is removed
    obtain ⟨manager, hm, -⟩ := howned hvalid
    have hlog : s.stop.log = .removeService ⟨s.managerProxy, s.objectManagerProxy⟩ s.servicePath :: s.log := by
      have hcall : (s.managerProxy.isSome && s.servicePath.isValid) = true := by rw [hm, hvalid]; rfl
      simp only [stop, hcall, if_true]
      rfl
    rw [hlog, outstanding, List.filter_eq_nil_iff]
    intro x hx
    simp [hs.current x hx]
  · have hlog : s.stop.log = s.log := by
      unfold stop
      rw [Bool.eq_false_iff.2 hvalid, Bool.and_false]
      rfl
    rw [hlog]
    exact hs.empty hvalid

theorem onManagerAdded_balanced (hs : Balanced s) {manager : ManagerProxy} (reply : Option ValidPath)
    (ho : s.objectManagerProxy ≠ none) : Balanced (s.onManagerAdded manager reply) := by
  have hlog := onManagerAdded_log s manager reply
  by_cases hvalid : s.servicePath.isValid
  · rw [if_pos hvalid] at hlog
    have hsame : s.onManagerAdded manager reply =
        { s.emit (.managerAdded manager.path) with managerProxy := some manager } := by
      unfold onManagerAdded
      exact if_pos hvalid
    exact hs.congr (by rw [hlog]; rfl) (by rw [hsame]; rfl) (by rw [hsame]; rfl) (by rw [hsame]; exact id)
  · rw [if_neg hvalid] at hlog
    have hnone := hs.empty hvalid
    have hstate : (s.onManagerAdded manager reply).serviceProxy = s.serviceProxy ∧
        (s.onManagerAdded manager reply).objectManagerProxy = s.objectManagerProxy ∧
        (s.onManagerAdded manager reply).servicePath = reply.elim s.servicePath Subtype.val := by
      unfold onManagerAdded
      dsimp only
      rw [if_neg (show ¬(s.emit (.managerAdded manager.path)).servicePath.isValid from hvalid)]
      cases reply <;> exact ⟨rfl, rfl, rfl⟩
    obtain ⟨hproxy, hobject, hpath⟩ := hstate
    -- a proxy would have a valid path, and that of the client is none
    have hnoproxy : s.serviceProxy = none := by
      cases hp : s.serviceProxy with
      | none => rfl
      | some service => exact absurd (hs.proxy service hp ▸ service.path.property) hvalid
    cases reply with
    | none =>
      have hout : outstanding (s.onManagerAdded manager none).log = outstanding s.log := by
        rw [hlog]
        rfl
      exact .of_empty (hout.trans hnone) (hproxy.trans hnoproxy)
    | some path =>
      have hout : outstanding (s.onManagerAdded manager (some path)).log = [(path, some manager.path)] := by
        rw [hlog, ← hnone]
        rfl
      refine ⟨?_, by rw [hout]; rfl, fun h => absurd (hobject.symm.trans h) ho, ?_⟩
      · intro x hx
        rw [hout, List.mem_singleton] at hx
        rw [hx, hpath]
        rfl
      · intro service hservice
        rw [hproxy, hnoproxy] at hservice
        cases hservice

/-- **One event leaves the services balanced, exactly if no other manager is removed.** -/
theorem Step.balanced_iff {e : Event} (h : Step s e t) (howned : Owned s) (hs : Balanced s) :
    Balanced t ↔ RemovesOwn s e := by
  cases h with
  | start ssid =>
    refine iff_of_true ?_ trivial
    rcases start_cases s ssid with h | ⟨-, hpath, hproxy, hobject, hlog⟩
    · rwa [h]
    · exact hs.congr (by rw [hlog]) hpath hproxy fun h => absurd h hobject
  | stop => exact iff_of_true (.of_empty (stop_outstanding howned hs) rfl) trivial
  | destroy => exact iff_of_true (.of_empty (stop_outstanding howned hs) rfl) trivial
  | managerAdded owner howner path reply =>
    exact iff_of_true (onManagerAdded_balanced hs reply (by simp [howner])) trivial
  | serviceAdded service =>
    refine iff_of_true ?_ trivial
    unfold onServiceAdded
    dsimp only
    split
    · exact hs.filter rfl rfl rfl rfl
    · rename_i hown
      have hown : service.path.val = s.servicePath := not_not.1 hown
      refine ⟨hs.current, hs.one, hs.stopped, ?_⟩
      rintro service' ⟨rfl⟩
      exact hown
  | ssidSet success =>
    obtain ⟨hpath, -, hobject, hproxy⟩ := onSsidSet_same s success
    refine iff_of_true (hs.congr ?_ hpath hproxy (by rw [hobject]; exact id)) trivial
    unfold onSsidSet
    split
    · rfl
    · rfl
  | serviceRemoved path =>
    refine iff_of_true ?_ trivial
    have hout : outstanding (s.onServiceRemoved path).log = (outstanding s.log).filter fun x => x.1 ≠ path := by
      rw [onServiceRemoved_log]
      rfl
    by_cases hown : path.val = s.servicePath
    · refine .of_empty ?_ ?_
      · rw [hout, List.filter_eq_nil_iff]
        intro x hx
        simp [Subtype.ext_iff, hs.current x hx, hown]
      · rw [onServiceRemoved_own hown]
    · have hsame := onServiceRemoved_other hown
      exact hs.filter hout (by rw [hsame]; rfl) (by rw [hsame]; rfl) (by rw [hsame]; rfl)
  | managerRemoved path =>
    have hout : outstanding (s.onManagerRemoved path).log =
        (outstanding s.log).filter fun x => x.2 ≠ some path := rfl
    have hempty : outstanding (s.onManagerRemoved path).log = [] ↔ RemovesOwn s (.managerRemoved path) := by
      rw [hout, List.filter_eq_nil_iff]
      simp [RemovesOwn]
    rw [← hempty]
    constructor
    · exact fun h => h.empty (by rw [show (s.onManagerRemoved path).servicePath = ⟨""⟩ from rfl, empty_invalid]; simp)
    · exact fun h => .of_empty h rfl

/-- **When no service is leaked or doubled.** -/
theorem balanced_along_iff {es : List Event} (h : (machine.run {} es).isSome) :
    machine.Along Balanced {} es ↔ machine.Meets RemovesOwn {} es := by
  have hstart : Owned ({} : ApManagerClient) := by
    intro h
    rw [empty_invalid] at h
    cases h
  exact Machine.along_iff_meets (P := Owned) (fun s e t hs hn => (next_step hn).owned hs)
    (fun s e t ho hs hn => (next_step hn).balanced_iff ho hs) hstart (.of_empty rfl rfl) h

theorem balanced_along_iff_test :
    machine.Along Balanced {} orderlyRun ↔ machine.Meets RemovesOwn {} orderlyRun := balanced_along_iff rfl

/-- A second manager comes and goes, and the service of the first is forgotten. -/
theorem other_manager_leaks : ¬∀ es t, machine.run {} es = some t → Balanced t := by
  intro hall
  have h := hall [.start "weave", .managerAdded apManager (some firstService),
    .managerAdded ⟨⟨"/manager2"⟩, by decide +kernel⟩ none, .managerRemoved ⟨⟨"/manager2"⟩, by decide +kernel⟩] _ rfl
  have hnone := h.stopped rfl
  exact absurd hnone (by decide +kernel)

end ApManagerClient

end SystemWeaved
