import SystemWeaved.Proof.ShillFrame

/-!
# Connect attempts

Whatever an event does to the connect attempt is a sequence of five kinds of moves
(`Move`, `next_moves`), so an invariant of the attempt is one case analysis over them.

* `Linked`: the service, the callback and a queued timeout belong to one call.
* `callbacks_accounted`: unless shill's owner changes or the registration of the connecting
  service fails during an attempt, every callback is held, posted with an error, or run.
* `callback_dropped`: a change of owner during an attempt loses its callback.
* `attempts_honest`: callbacks are reported at most once and truthfully, and a timeout ends
  its own attempt only.
-/

namespace SystemWeaved

namespace ShillClient

variable {s t u : ShillClient} {keep : Prop} {ok : ℕ → Prop}

/-- The moves of the connect attempt. A callback is dropped only against `keep`, and call
`k` succeeds only if `ok k`. -/
inductive Move (keep : Prop) (ok : ℕ → Prop) : ShillClient → ShillClient → Prop
  | quiet {s t : ShillClient} (h : SameAttempt s t) : Move keep ok s t
  | connect (s : ShillClient) (c : ConnectCall) : Move keep ok s (s.connect c)
  | finish (s : ShillClient) (k : ℕ) (error : ErrorPtr WeaveError) (hk : s.connectDoneCallback = some k)
      (hok : error = none → ok k) : Move keep ok s (s.cleanupConnectingService.emit (.runDone k error))
  | clear (s : ShillClient) (hkeep : keep → s.connectDoneCallback = none) :
      Move keep ok s s.cleanupConnectingService
  | expire (s : ShillClient) (service : ServiceProxy) (h : s.connectingService ≠ some service) :
      Move keep ok s { s with timeouts := s.timeouts.erase service }

abbrev Moves (keep : Prop) (ok : ℕ → Prop) : ShillClient → ShillClient → Prop :=
  Relation.ReflTransGen (Move keep ok)

/-- The service, the callback and a queued timeout belong to one call. -/
structure Linked (s : ShillClient) : Prop where
  callback : s.connectDoneCallback.map ProxyId.connect = s.connectingService.map ServiceProxy.id
  timeout : ∀ p, s.connectingService = some p → p ∈ s.timeouts ∧ .postTimeout p ∈ s.log
  queued : ∀ p ∈ s.timeouts, ∃ j < s.calls, p.id = .connect j
  nodup : (s.timeouts.map ServiceProxy.id).Nodup

/-! ## Every event is made of moves -/

theorem foldl_connect_moves (reentry : List ConnectCall) : ∀ s, Moves keep ok s (reentry.foldl connect s) := by
  induction reentry with
  | nil => exact fun s => .refl
  | cons c cs ih => exact fun s => .head (.connect s c) (ih _)

theorem finish_moves (s : ShillClient) (error : ErrorPtr WeaveError) (reentry : List ConnectCall)
    (hok : ∀ k, s.connectDoneCallback = some k → error = none → ok k) :
    Moves keep ok s (s.finish error reentry) := by
  unfold finish runDone
  cases hk : s.connectDoneCallback with
  | none => exact .single (.clear s fun _ => hk)
  | some k => exact .head (.finish s k error hk (hok k hk)) (foldl_connect_moves reentry _)

theorem failure_ne (s : ShillClient) : s.failure ≠ none := by
  intro h
  simp [failure, addTo] at h

theorem onStateChangeForConnectingService_moves (s : ShillClient) (state : String)
    (reentry : List ConnectCall)
    (hok : ∀ k, s.connectDoneCallback = some k → shillServiceStateToNetworkState state = .online → ok k) :
    Moves keep ok s (s.onStateChangeForConnectingService state reentry) := by
  rw [onStateChangeForConnectingService_eq]
  cases hstate : shillServiceStateToNetworkState state with
  | online => exact finish_moves s none reentry fun k hk _ => hok k hk hstate
  | error =>
    dsimp only
    split
    · exact .refl
    · exact finish_moves s _ reentry fun k _ herror => absurd herror (failure_ne s)
  | offline => exact .refl
  | connecting => exact .refl

theorem onServicePropertyChange_moves (s : ShillClient) (path : ObjectPath) (name : String) (value : Any)
    (reentry : List ConnectCall)
    (hok : ∀ k, s.connectDoneCallback = some k → name = shill.kStateProperty → s.isConnecting path →
      shillServiceStateToNetworkState value.tryGetString = .online → ok k) :
    Moves keep ok s (s.onServicePropertyChange path name value reentry) := by
  unfold onServicePropertyChange
  dsimp only
  split
  · rename_i hname
    split
    · exact .refl
    · have hsel := onStateChangeForSelectedService_sameAttempt s path value.tryGetString
      split
      · rename_i hconn
        refine .head (.quiet hsel) (onStateChangeForConnectingService_moves _ _ _ ?_)
        intro k hk
        exact hok k (hsel.callback ▸ hk) hname hconn
      · exact .single (.quiet hsel)
  · split
    · split
      · exact .single (.quiet (onStrengthChangeForConnectingService_same s _).2)
      · exact .refl
    · split
      · split
        · exact .single (.quiet ⟨List.suffix_rfl, rfl, rfl, rfl⟩)
        · exact .refl
      · exact .refl

/-- The state an event tells of a service. -/
def Event.serviceState : Event → Option (ObjectPath × String)
  | .serviceProperty path name value _ =>
    if name = shill.kStateProperty then some (path, value.tryGetString) else none
  | .serviceRegistration path true replies _ =>
    replies.service.bind fun properties =>
      (properties shill.kStateProperty).map fun value => (path, value.tryGetString)
  | _ => none

/-- The event tells that the service of the attempt is online, and the attempt is that of
call `k`. -/
def OnlineFor (s : ShillClient) (e : Event) (k : ℕ) : Prop :=
  s.connectDoneCallback = some k ∧
    ∃ path state, e.serviceState = some (path, state) ∧ s.isConnecting path ∧
      shillServiceStateToNetworkState state = .online

/-- The event does not drop a callback: shill keeps its owner and the registration of the
connecting service does not fail while there is an attempt. -/
def NoDrop (s : ShillClient) : Event → Prop
  | .ownerChange _ _ => s.connectingService = none
  | .serviceRegistration path success _ _ => success ∨ ¬s.isConnecting path
  | _ => True

theorem onServicePropertyChangeRegistration_moves (s : ShillClient) (path : ObjectPath) (success : Bool)
    (replies : Replies) (reentry : List ConnectCall) :
    Moves (NoDrop s (.serviceRegistration path success replies reentry))
      (OnlineFor s (.serviceRegistration path success replies reentry)) s
      (s.onServicePropertyChangeRegistration path success replies reentry) := by
  have hcases := registration_cases s path success replies reentry
  generalize s.onServicePropertyChangeRegistration path success replies reentry = t at hcases ⊢
  cases hcases with
  | failed hconn => exact .single (.clear s fun hkeep => (hkeep.elim (by simp) (absurd hconn)))
  | ignored => exact .refl
  | @replayed properties hprops =>
    -- the state comes first, while the attempt is still that of `s`
    have hstate : Moves (NoDrop s (.serviceRegistration path true replies reentry))
        (OnlineFor s (.serviceRegistration path true replies reentry)) s
        (s.replayProperty path properties reentry shill.kStateProperty) := by
      unfold replayProperty
      cases hvalue : properties shill.kStateProperty with
      | none => exact .refl
      | some value =>
        refine onServicePropertyChange_moves _ _ _ _ _ fun k hk _ hconn honline => ?_
        exact ⟨hk, path, value.tryGetString, by simp [Event.serviceState, hprops, hvalue], hconn, honline⟩
    have hrest : ∀ s' name, name ≠ shill.kStateProperty →
        Moves (NoDrop s (.serviceRegistration path true replies reentry))
          (OnlineFor s (.serviceRegistration path true replies reentry)) s'
          (s'.replayProperty path properties reentry name) := by
      intro s' name hname
      unfold replayProperty
      cases properties name with
      | none => exact .refl
      | some value => exact onServicePropertyChange_moves _ _ _ _ _ fun k _ h => absurd h hname
    exact (hstate.trans (hrest _ _ (by decide))).trans (hrest _ _ (by decide))

theorem reset_moves (s : ShillClient) (hkeep : keep → s.connectDoneCallback = none) :
    Moves keep ok s s.reset :=
  .head (.clear s hkeep) (.single (.quiet ⟨List.suffix_rfl, rfl, rfl, rfl⟩))

theorem Linked.idle (hs : Linked s) (h : s.connectingService = none) : s.connectDoneCallback = none := by
  have := hs.callback
  rw [h] at this
  simpa using this

/-- A timeout leaves the queue; if it is that of the attempt, the attempt ends. -/
theorem timeout_moves (hs : Linked s) (service : ServiceProxy) (reentry : List ConnectCall) :
    Moves keep ok s
      (connectToServiceError { s with timeouts := s.timeouts.erase service } (some service) reentry) := by
  rw [connectToServiceError_eq]
  by_cases hcur : s.connectingService = some service
  · cases hk : s.connectDoneCallback with
    | none =>
      have := hs.callback
      simp [hcur, hk] at this
    | some k =>
      rw [if_neg (by simp [hcur])]
      -- the attempt may as well end first and the entry leave the queue then
      have hend : Moves keep ok s (s.cleanupConnectingService.emit (.runDone k s.failure)) :=
        .single (.finish s k _ hk fun herror => absurd herror (failure_ne s))
      have hqueue := hend.tail (.expire _ service (by simp [emit, cleanupConnectingService]))
      unfold finish runDone
      simp only
      exact hqueue.trans (foldl_connect_moves reentry _)
  · rw [if_pos (.inl (Ne.symm hcur))]
    exact .single (.expire s service hcur)

/-- **Every event is made of moves.** -/
theorem next_moves {e : Event} (hs : Linked s) (h : s.next e = some t) :
    Moves (NoDrop s e) (OnlineFor s e) s t := by
  cases e with
  | connect c => cases h; exact .single (.connect s c)
  | addConnectionChangedCallback l => cases h; exact .single (.quiet ⟨List.suffix_rfl, rfl, rfl, rfl⟩)
  | ownerChange newOwner replies =>
    refine .tail (reset_moves s fun hkeep => hs.idle hkeep) (.quiet ?_)
    exact (onShillServiceOwnerChange_reset h).sameAttempt
  | serviceRegistration path success replies reentry =>
    cases h
    exact onServicePropertyChangeRegistration_moves s _ _ _ _
  | serviceProperty path name value reentry =>
    cases h
    refine onServicePropertyChange_moves s _ _ _ _ fun k hk hname hconn honline => ?_
    exact ⟨hk, path, value.tryGetString, by simp [Event.serviceState, hname], hconn, honline⟩
  | timeout service reentry =>
    simp only [next] at h
    split at h
    · cases h; exact timeout_moves hs service reentry
    · cases h
  | notify => exact .single (.quiet (notifyConnectivityListeners_sameAttempt h))
  | _ => exact .single (.quiet (next_deviceMoves rfl h).sameAttempt)

/-! ## What one move preserves -/

theorem Linked.of_idle {s : ShillClient} (hservice : s.connectingService = none)
    (hcallback : s.connectDoneCallback = none) (hqueued : ∀ p ∈ s.timeouts, ∃ j < s.calls, p.id = .connect j)
    (hnodup : (s.timeouts.map ServiceProxy.id).Nodup) : Linked s where
  callback := by rw [hservice, hcallback]; rfl
  timeout p hp := by simp [hservice] at hp
  queued := hqueued
  nodup := hnodup

theorem connect_linked (hs : Linked s) (c : ConnectCall) : Linked (s.connect c) := by
  have hqueued : ∀ p ∈ s.timeouts, ∃ j < s.calls + 1, p.id = .connect j := by
    intro p hp
    obtain ⟨j, hj, hid⟩ := hs.queued p hp
    exact ⟨j, Nat.lt_succ_of_lt hj, hid⟩
  have h := connect_cases s c
  generalize s.connect c = t at h ⊢
  cases h with
  | busy _ =>
    exact ⟨hs.callback, fun p hp => (hs.timeout p hp).imp id (List.mem_cons_of_mem _), hqueued, hs.nodup⟩
  | failed hidle queries _ e _ => exact .of_idle hidle rfl hqueued hs.nodup
  | began hidle queries _ path _ =>
    refine ⟨rfl, ?_, ?_, ?_⟩
    · rintro p ⟨rfl⟩
      exact ⟨List.mem_append_right _ (List.mem_singleton.2 rfl), List.mem_cons_self⟩
    · intro p hp
      rcases List.mem_append.1 hp with hp | hp
      · exact hqueued p hp
      · rw [List.mem_singleton.1 hp]
        exact ⟨s.calls, Nat.lt_succ_self _, rfl⟩
    · -- the number of the call is new, and so is its proxy
      have hnew : ProxyId.connect s.calls ∉ s.timeouts.map ServiceProxy.id := by
        intro hmem
        obtain ⟨p, hp, hid⟩ := List.mem_map.1 hmem
        obtain ⟨j, hj, hid'⟩ := hs.queued p hp
        rw [hid, ProxyId.connect.injEq] at hid'
        omega
      have happend : (s.timeouts.map ServiceProxy.id ++ [ProxyId.connect s.calls]).Nodup :=
        List.nodup_append.2 ⟨hs.nodup, List.nodup_singleton _, by
          intro a ha b hb
          rw [List.mem_singleton.1 hb]
          rintro rfl
          exact hnew ha⟩
      simpa [beginAttempt, asked] using happend

theorem Move.linked (h : Move keep ok s t) (hs : Linked s) : Linked t := by
  cases h with
  | quiet h =>
    refine ⟨?_, ?_, ?_, ?_⟩
    · rw [h.callback, h.service, hs.callback]
    · intro p hp
      rw [h.service] at hp
      rw [h.timeouts]
      exact (hs.timeout p hp).imp id h.grows.mem
    · rw [h.timeouts, h.calls]
      exact hs.queued
    · rw [h.timeouts]
      exact hs.nodup
  | connect c => exact connect_linked hs c
  | finish k error _ _ => exact .of_idle rfl rfl hs.queued hs.nodup
  | clear _ => exact .of_idle rfl rfl hs.queued hs.nodup
  | expire service hne =>
    -- it is not the timeout of the attempt, which stays in the queue
    refine ⟨hs.callback, ?_, fun p hp => hs.queued p (List.mem_of_mem_erase hp), ?_⟩
    · intro p hp
      obtain ⟨hmem, hlog⟩ := hs.timeout p hp
      have hpne : p ≠ service := by
        rintro rfl
        exact hne hp
      exact ⟨(List.mem_erase_of_ne hpne).2 hmem, hlog⟩
    · exact hs.nodup.sublist (List.Sublist.map _ List.erase_sublist)

/-- `CleanupConnectingService` makes no report. -/
theorem cleanup_reports (s : ShillClient) : s.cleanupConnectingService.attempts.reports = s.attempts.reports := by
  simp only [attempts, cleanup_log, List.filterMap_append]
  cases s.connectingService <;> rfl

theorem asked_attempts (s : ShillClient) {queries : List Effect} (hq : ∀ x ∈ queries, x.isQuery) :
    (s.asked queries).attempts = ⟨s.calls + 1, none, s.attempts.reports⟩ := by
  simp only [attempts, asked, filterMap_queries report_of_isQuery hq]

theorem asked_reports (s : ShillClient) {queries : List Effect} (hq : ∀ x ∈ queries, x.isQuery) :
    (s.asked queries).attempts.reports = s.attempts.reports := by rw [asked_attempts s hq]

/-- A move serves the requests in order, except for a dropped callback. -/
theorem Move.kept_or_clear (h : Move keep ok s t) (hs : Linked s) :
    Attempts.Kept s.attempts t.attempts ∨ (¬keep ∧ t = s.cleanupConnectingService) := by
  cases h with
  | quiet h => exact .inl (h.attempts ▸ .refl)
  | connect c =>
    left
    have h := connect_cases s c
    generalize s.connect c = t at h ⊢
    cases h with
    | busy _ => exact .single (.refuse _ _ _ _)
    | failed hidle queries hq e _ =>
      have hrefuse := Attempts.KeptStep.refuse s.calls none s.attempts.reports
        (.posted (convertError e none))
      have hask := asked_attempts s hq
      simp only [attempts, Attempts.mk.injEq] at hask
      simp only [attempts, emit, List.filterMap_cons, Effect.report, hask, hs.idle hidle]
      exact .single hrefuse
    | began hidle queries hq path _ =>
      have hask := asked_attempts s hq
      simp only [attempts, Attempts.mk.injEq] at hask
      simp only [attempts, beginAttempt, List.filterMap_cons, Effect.report, hask, hs.idle hidle]
      exact .single (.accept _ _)
  | finish k error hk _ =>
    left
    have hreports := cleanup_reports s
    simp only [attempts] at hreports
    simp only [attempts, emit, List.filterMap_cons, Effect.report, hreports, hk]
    exact .single (.finish _ _ _ _)
  | clear hkeep =>
    by_cases hk : keep
    · left
      have hsame : s.cleanupConnectingService.attempts = s.attempts := by
        have hreports := cleanup_reports s
        simp only [attempts] at hreports ⊢
        rw [hreports, hkeep hk]
        rfl
      exact hsame ▸ .refl
    · exact .inr ⟨hk, rfl⟩
  | expire service _ => exact .inl .refl

theorem Move.steps (h : Move keep ok s t) (hs : Linked s) : Attempts.Steps s.attempts t.attempts := by
  rcases h.kept_or_clear hs with h | ⟨-, rfl⟩
  · exact h.steps
  · have hclear : s.cleanupConnectingService.attempts = ⟨s.calls, none, s.attempts.reports⟩ := by
      rw [← cleanup_reports]
      rfl
    rw [hclear]
    exact .single (.drop _ _ _)

/-- What a report may say: an error, or that call `k` succeeded if `ok k`. -/
def Fair (ok : ℕ → Prop) (k : ℕ) : Report → Prop
  | .posted error => error.isSome
  | .ran error => error = none → ok k

theorem Move.fair (h : Move keep ok s t) {k : ℕ} {r : Report} (hr : (k, r) ∈ t.attempts.reports) :
    (k, r) ∈ s.attempts.reports ∨ Fair ok k r := by
  cases h with
  | quiet h => exact .inl (h.attempts ▸ hr)
  | connect c =>
    have h := connect_cases s c
    generalize s.connect c = t at h hr
    cases h with
    | busy _ =>
      rcases List.mem_cons.1 hr with h | h
      · cases h
        exact .inr (addTo_isSome _ _)
      · exact .inl h
    | failed hidle queries hq e _ =>
      rcases List.mem_cons.1 hr with h | h
      · cases h
        exact .inr (convertError_isSome _ _)
      · exact .inl (asked_reports s hq ▸ h)
    | began hidle queries hq path _ => exact .inl (asked_reports s hq ▸ hr)
  | finish k' error hk hok =>
    rcases List.mem_cons.1 hr with h | h
    · cases h
      exact .inr hok
    · exact .inl (cleanup_reports s ▸ h)
  | clear _ => exact .inl (cleanup_reports s ▸ hr)
  | expire service _ => exact .inl hr

/-! ## What one event preserves -/

theorem Moves.linked (h : Moves keep ok s t) (hs : Linked s) : Linked t := by
  induction h with
  | refl => exact hs
  | tail _ hm ih => exact hm.linked ih

theorem Moves.steps (h : Moves keep ok s t) (hs : Linked s) : Attempts.Steps s.attempts t.attempts := by
  induction h with
  | refl => exact .refl
  | tail h hm ih => exact ih.trans (hm.steps (Moves.linked h hs))

theorem Moves.kept (hkeep : keep) (h : Moves keep ok s t) (hs : Linked s) :
    Attempts.Kept s.attempts t.attempts := by
  induction h with
  | refl => exact .refl
  | tail h hm ih =>
    rcases hm.kept_or_clear (Moves.linked h hs) with hk | ⟨hk, -⟩
    · exact ih.trans hk
    · exact absurd hkeep hk

theorem Moves.fair (h : Moves keep ok s t) {k : ℕ} {r : Report} (hr : (k, r) ∈ t.attempts.reports) :
    (k, r) ∈ s.attempts.reports ∨ Fair ok k r := by
  induction h with
  | refl => exact .inl hr
  | tail _ hm ih => exact (hm.fair hr).elim ih .inr

/-! ## What holds in every run -/

/-- The invariant of the attempts. -/
structure AttemptInv (s : ShillClient) : Prop where
  linked : Linked s
  tidy : s.attempts.Tidy
  posted : ∀ k error, (k, .posted error) ∈ s.attempts.reports → error.isSome

theorem AttemptInv.next (hs : AttemptInv s) {e : Event} (h : s.next e = some t) : AttemptInv t := by
  have hm := next_moves hs.linked h
  refine ⟨hm.linked hs.linked, (hm.steps hs.linked).tidy hs.tidy, ?_⟩
  intro k error hr
  rcases hm.fair hr with hr | hfair
  · exact hs.posted k error hr
  · exact hfair

/-- A new client has no attempt, no call and no report. -/
theorem create_attempts {deviceWhitelist : List String} {replies : Replies}
    (h : create deviceWhitelist replies = some s) :
    s.connectingService = none ∧ s.timeouts = [] ∧ s.attempts = ⟨0, none, []⟩ := by
  have hsame := (onManagerProperties_moves h).sameAttempt
  exact ⟨hsame.service, hsame.timeouts, hsame.attempts⟩

theorem create_attemptInv {deviceWhitelist : List String} {replies : Replies}
    (h : create deviceWhitelist replies = some s) : AttemptInv s := by
  obtain ⟨hservice, htimeouts, hattempts⟩ := create_attempts h
  refine ⟨.of_idle hservice (congrArg Attempts.current hattempts) ?_ ?_, ?_, ?_⟩
  · simp [htimeouts]
  · simp [htimeouts]
  · rw [hattempts]
    exact ⟨by simp, by simp, by simp⟩
  · simp [hattempts]

theorem reach_attemptInv (h : machine.Reach s) : AttemptInv s := by
  refine Machine.ReachIf.invariant ?_ ?_ h
  · rintro s ⟨deviceWhitelist, replies, hs⟩
    exact create_attemptInv hs
  · intro s e t _ ih _ hn
    exact ih.next hn

/-- The callback of call `k` is held for its attempt. -/
def Held (s : ShillClient) (k : ℕ) : Prop :=
  s.connectDoneCallback = some k ∧ ∃ path, s.connectingService = some ⟨.connect k, path⟩

/-- The callback of call `k` has been posted with an error. -/
def Posted (s : ShillClient) (k : ℕ) : Prop := ∃ error : ErrorChain WeaveError, .postDone k (some error) ∈ s.log

/-- The callback of call `k` has been run. -/
def Ran (s : ShillClient) (k : ℕ) : Prop := ∃ error, .runDone k error ∈ s.log

/-- The callback of call `k` is in exactly one of the three situations. -/
def AccountedFor (s : ShillClient) (k : ℕ) : Prop :=
  (Held s k ∧ ¬Posted s k ∧ ¬Ran s k) ∨ (¬Held s k ∧ Posted s k ∧ ¬Ran s k) ∨
    (¬Held s k ∧ ¬Posted s k ∧ Ran s k)

theorem mem_reports {k : ℕ} {r : Report} :
    (k, r) ∈ s.attempts.reports ↔ ∃ x ∈ s.log, Effect.report x = some (k, r) := List.mem_filterMap

theorem posted_mem {k : ℕ} (h : Posted s k) : ∃ error, (k, .posted error) ∈ s.attempts.reports :=
  h.elim fun error h => ⟨some error, mem_reports.2 ⟨_, h, rfl⟩⟩

theorem ran_mem {k : ℕ} (h : Ran s k) : ∃ error, (k, .ran error) ∈ s.attempts.reports :=
  h.elim fun error h => ⟨error, mem_reports.2 ⟨_, h, rfl⟩⟩

/-- A reported callback has been posted with an error or run, and not both. -/
theorem AttemptInv.reported (hs : AttemptInv s) {k : ℕ} (h : k ∈ s.attempts.reports.map Prod.fst) :
    ¬Held s k ∧ (Posted s k ∧ ¬Ran s k ∨ ¬Posted s k ∧ Ran s k) := by
  have hnot : ¬Held s k := fun hheld => (hs.tidy.current k hheld.1).2 h
  obtain ⟨⟨k', r⟩, hr, rfl⟩ := List.mem_map.1 h
  -- there is one report for a call, so what it says excludes the other case
  have honly : ∀ r', (k', r') ∈ s.attempts.reports → r' = r := fun r' hr' => hs.tidy.unique hr' hr
  refine ⟨hnot, ?_⟩
  obtain ⟨x, hx, hxr⟩ := mem_reports.1 hr
  cases x <;> simp only [Effect.report, Option.some.injEq, Prod.mk.injEq, reduceCtorEq] at hxr
  · rename_i error
    obtain ⟨rfl, rfl⟩ := hxr
    obtain ⟨e, he⟩ := Option.isSome_iff_exists.1 (hs.posted _ _ hr)
    refine .inl ⟨⟨e, he ▸ hx⟩, fun hran => ?_⟩
    obtain ⟨_, hran⟩ := ran_mem hran
    cases honly _ hran
  · obtain ⟨rfl, rfl⟩ := hxr
    refine .inr ⟨fun hposted => ?_, _, hx⟩
    obtain ⟨_, hposted⟩ := posted_mem hposted
    cases honly _ hposted

theorem Linked.current (hs : Linked s) {p : ServiceProxy} (h : s.connectingService = some p) :
    ∃ k, p.id = .connect k ∧ s.connectDoneCallback = some k := by
  have hc := hs.callback
  rw [h] at hc
  obtain ⟨k, hk, hid⟩ := Option.map_eq_some_iff.1 hc
  exact ⟨k, hid.symm, hk⟩

theorem Linked.held (hs : Linked s) {k : ℕ} (h : s.connectDoneCallback = some k) : Held s k := by
  have hc := hs.callback
  rw [h] at hc
  obtain ⟨⟨id, path⟩, hp, rfl⟩ := Option.map_eq_some_iff.1 hc.symm
  exact ⟨h, path, hp⟩

/-- A callback whose call is in progress or reported is accounted for. -/
theorem AttemptInv.accountedFor (hs : AttemptInv s) {k : ℕ}
    (h : s.attempts.current = some k ∨ k ∈ s.attempts.reports.map Prod.fst) : AccountedFor s k := by
  rcases h with h | h
  · have hnew := (hs.tidy.current k h).2
    refine .inl ⟨hs.linked.held h, fun hposted => ?_, fun hran => ?_⟩
    · obtain ⟨_, hr⟩ := posted_mem hposted
      exact hnew (List.mem_map_of_mem (f := Prod.fst) hr)
    · obtain ⟨_, hr⟩ := ran_mem hran
      exact hnew (List.mem_map_of_mem (f := Prod.fst) hr)
  · obtain ⟨hheld, hp | hr⟩ := hs.reported h
    · exact .inr (.inl ⟨hheld, hp⟩)
    · exact .inr (.inr ⟨hheld, hr⟩)

/-- Without a drop, every call is in progress or reported. -/
theorem reach_accounted (h : machine.ReachIf NoDrop s) : s.attempts.Accounted := by
  refine Machine.ReachIf.invariant (P := fun s => s.attempts.Accounted) ?_ ?_ h
  · rintro s ⟨deviceWhitelist, replies, hs⟩ k hk
    rw [(create_attempts hs).2.2] at hk
    simp at hk
  · intro s e t hr ih hg hn
    have hs := (reach_attemptInv hr.reach).linked
    exact ((next_moves hs hn).kept hg hs).accounted ih

/-- **No callback is lost**: in every run without a change of shill's owner and without a
failed registration of the connecting service during an attempt, the callback of every call
is held, has been posted with an error, or has been run. -/
theorem callbacks_accounted (h : machine.ReachIf NoDrop s) : ∀ k < s.calls, AccountedFor s k :=
  fun k hk => (reach_attemptInv h.reach).accountedFor (reach_accounted h k hk)

def homeService : ObjectPath := ⟨"/service/1"⟩

/-- Shill configures the service and scans for it. -/
def homeCall : ConnectCall := { ssid := "home", passphrase := "12345678", configureService := .ok homeService }

def homeOnline : Event := .serviceProperty homeService shill.kStateProperty (.string "online") []

theorem callbacks_accounted_test :
    AccountedFor ((idleClient.connect homeCall).onServicePropertyChange homeService shill.kStateProperty
      (.string "online") []) 0 :=
  callbacks_accounted (.step (.step (.start idleClient_start) (e := .connect homeCall) trivial rfl)
    (e := homeOnline) trivial rfl) 0 (by decide)

/-- Shill goes away during the attempt: the callback is neither held nor reported. -/
theorem callback_dropped : ¬∀ s, machine.Reach s → ∀ k < s.calls, AccountedFor s k := by
  intro hall
  have hreach : machine.Reach (idleClient.connect homeCall).reset :=
    .step (.step (.start idleClient_start) (e := .connect homeCall) trivial rfl)
      (e := .ownerChange "" {}) trivial rfl
  have hlog : (idleClient.connect homeCall).reset.log.filterMap Effect.report = [] := by decide
  rcases hall _ hreach 0 (by decide) with ⟨⟨h, -⟩, -, -⟩ | ⟨-, h, -⟩ | ⟨-, -, h⟩
  · cases h
  · obtain ⟨_, h⟩ := posted_mem h
    simp only [attempts, hlog, List.not_mem_nil] at h
  · obtain ⟨_, h⟩ := ran_mem h
    simp only [attempts, hlog, List.not_mem_nil] at h

/-- An event outside `NoDrop` clears the attempt without a report. -/
theorem drop_clears {e : Event} (hn : s.next e = some t) (hdrop : ¬NoDrop s e) :
    s.connectingService ≠ none ∧ t.attempts = ⟨s.calls, none, s.attempts.reports⟩ := by
  have hcleanup : s.cleanupConnectingService.attempts = ⟨s.calls, none, s.attempts.reports⟩ := by
    rw [← cleanup_reports]
    rfl
  cases e with
  | ownerChange newOwner replies =>
    refine ⟨hdrop, ?_⟩
    rw [(onShillServiceOwnerChange_reset hn).sameAttempt.attempts]
    exact hcleanup
  | serviceRegistration path success replies reentry =>
    obtain ⟨hfail, hconn⟩ := not_or.1 hdrop
    rw [not_not] at hconn
    rw [Bool.not_eq_true] at hfail
    obtain ⟨id, hservice⟩ := (isConnecting_iff s path).1 hconn
    cases hn
    simp only [onServicePropertyChangeRegistration, hfail, hconn]
    exact ⟨by simp [hservice], hcleanup⟩
  | _ => exact absurd trivial hdrop

/-- Every event outside `NoDrop` loses a callback. -/
theorem drop_unaccounted {e : Event} (h : machine.Reach s) (hn : s.next e = some t) (hdrop : ¬NoDrop s e) :
    ∃ k < t.calls, ¬AccountedFor t k := by
  have hs := reach_attemptInv h
  obtain ⟨hservice, hclear⟩ := drop_clears hn hdrop
  obtain ⟨p, hp⟩ := Option.ne_none_iff_exists'.1 hservice
  obtain ⟨k, -, hk⟩ := hs.linked.current hp
  obtain ⟨hlt, hnew⟩ := hs.tidy.current k hk
  have hcalls : t.calls = s.calls := congrArg Attempts.calls hclear
  have hreports : t.attempts.reports = s.attempts.reports := by rw [hclear]
  refine ⟨k, hcalls ▸ hlt, ?_⟩
  rintro (⟨⟨hheld, -⟩, -, -⟩ | ⟨-, hposted, -⟩ | ⟨-, -, hran⟩)
  · have hnone : t.connectDoneCallback = none := congrArg Attempts.current hclear
    simp [hnone] at hheld
  · obtain ⟨_, hr⟩ := posted_mem hposted
    exact hnew (List.mem_map_of_mem (hreports ▸ hr))
  · obtain ⟨_, hr⟩ := ran_mem hran
    exact hnew (List.mem_map_of_mem (hreports ▸ hr))

/-! ## Truthful reports -/

/-- What is asked of the connect attempts in one state. -/
structure Honest (s : ShillClient) : Prop where
  once : ∀ k, ((s.log.filterMap Effect.report).map Prod.fst).count k ≤ 1
  same : ∀ k, s.connectDoneCallback = some k ↔ ∃ path, s.connectingService = some ⟨.connect k, path⟩
  set : ∀ p, s.connectingService = some p → ∃ k, p.id = .connect k ∧ s.connectDoneCallback = some k
  queued : ∀ p, s.connectingService = some p → p ∈ s.timeouts
  posted : ∀ k, .postDone k none ∉ s.log

/-- What is asked of the connect attempts in one step. -/
structure HonestStep (s : ShillClient) (e : Event) (t : ShillClient) : Prop where
  /-- Success is the state of the service of the current, accepted attempt. -/
  success : ∀ k, .runDone k none ∈ t.log → .runDone k none ∉ s.log →
    ∃ path state, e.serviceState = some (path, state) ∧
      shillServiceStateToNetworkState state = .online ∧
      s.connectDoneCallback = some k ∧ s.connectingService = some ⟨.connect k, path⟩ ∧
      .postTimeout ⟨.connect k, path⟩ ∈ s.log
  /-- The timeout of another attempt only leaves the queue. -/
  stale : ∀ j path reentry, e = .timeout ⟨.connect j, path⟩ reentry → s.connectDoneCallback ≠ some j →
    t = { s with timeouts := s.timeouts.erase ⟨.connect j, path⟩ }
  /-- The timeout of the attempt ends it with an error. -/
  expired : ∀ k path reentry, e = .timeout ⟨.connect k, path⟩ reentry → s.connectDoneCallback = some k →
    t.connectDoneCallback ≠ some k ∧ ∃ error : ErrorChain WeaveError, .runDone k (some error) ∈ t.log

theorem AttemptInv.honest (hs : AttemptInv s) : Honest s where
  once := List.nodup_iff_count_le_one.1 hs.tidy.nodup
  same k := by
    constructor
    · exact fun h => (hs.linked.held h).2
    · rintro ⟨path, h⟩
      obtain ⟨k', hid, hk⟩ := hs.linked.current h
      rwa [← ProxyId.connect.inj hid] at hk
  set p h := hs.linked.current h
  queued p h := (hs.linked.timeout p h).1
  posted k h := by simpa using hs.posted k none (mem_reports.2 ⟨_, h, rfl⟩)

theorem runDone_mem {k : ℕ} {error : ErrorPtr WeaveError} :
    .runDone k error ∈ s.log ↔ (k, .ran error) ∈ s.attempts.reports := by
  refine ⟨fun h => mem_reports.2 ⟨_, h, rfl⟩, fun h => ?_⟩
  obtain ⟨x, hx, hxr⟩ := mem_reports.1 h
  cases x <;> simp only [Effect.report, Option.some.injEq, Prod.mk.injEq, reduceCtorEq, and_false,
    Report.ran.injEq] at hxr
  obtain ⟨rfl, rfl⟩ := hxr
  exact hx

theorem AttemptInv.success (hs : AttemptInv s) {e : Event} (hn : s.next e = some t) {k : ℕ}
    (ht : .runDone k none ∈ t.log) (hnew : .runDone k none ∉ s.log) :
    ∃ path state, e.serviceState = some (path, state) ∧
      shillServiceStateToNetworkState state = .online ∧
      s.connectDoneCallback = some k ∧ s.connectingService = some ⟨.connect k, path⟩ ∧
      .postTimeout ⟨.connect k, path⟩ ∈ s.log := by
  rcases (next_moves hs.linked hn).fair (runDone_mem.1 ht) with hold | hfair
  · exact absurd (runDone_mem.2 hold) hnew
  · obtain ⟨hk, path, state, hstate, hconn, honline⟩ := hfair rfl
    obtain ⟨id, hp⟩ := (isConnecting_iff s path).1 hconn
    obtain ⟨k', hid, hk'⟩ := hs.linked.current hp
    have hkk : k' = k := Option.some.inj (hk'.symm.trans hk)
    have hidk : id = .connect k := hkk ▸ hid
    rw [hidk] at hp
    exact ⟨path, state, hstate, honline, hk, hp, (hs.linked.timeout _ hp).2⟩

/-- The queued timeout of a call is that of its proxy. -/
theorem Linked.timeout_eq (hs : Linked s) {k : ℕ} {path : ObjectPath} (hk : s.connectDoneCallback = some k)
    (hmem : ⟨.connect k, path⟩ ∈ s.timeouts) : s.connectingService = some ⟨.connect k, path⟩ := by
  obtain ⟨-, path', hp⟩ := hs.held hk
  have heq := List.inj_on_of_nodup_map hs.nodup (hs.timeout _ hp).1 hmem rfl
  rw [hp, heq]

theorem timeout_next {service : ServiceProxy} {reentry : List ConnectCall}
    (hn : s.next (.timeout service reentry) = some t) : service ∈ s.timeouts ∧
      t = connectToServiceError { s with timeouts := s.timeouts.erase service } (some service) reentry := by
  simp only [next] at hn
  split at hn
  · exact ⟨‹_›, (Option.some.inj hn).symm⟩
  · cases hn

theorem AttemptInv.stale (hs : AttemptInv s) {j : ℕ} {path : ObjectPath} {reentry : List ConnectCall}
    (hn : s.next (.timeout ⟨.connect j, path⟩ reentry) = some t) (hj : s.connectDoneCallback ≠ some j) :
    t = { s with timeouts := s.timeouts.erase ⟨.connect j, path⟩ } := by
  obtain ⟨-, rfl⟩ := timeout_next hn
  have hother : some ⟨.connect j, path⟩ ≠ s.connectingService := by
    intro h
    obtain ⟨k, hid, hk⟩ := hs.linked.current h.symm
    exact hj (ProxyId.connect.inj hid ▸ hk)
  rw [connectToServiceError_eq, if_pos (.inl hother)]

theorem AttemptInv.expired (hs : AttemptInv s) {k : ℕ} {path : ObjectPath} {reentry : List ConnectCall}
    (hn : s.next (.timeout ⟨.connect k, path⟩ reentry) = some t) (hk : s.connectDoneCallback = some k) :
    t.connectDoneCallback ≠ some k ∧ ∃ error : ErrorChain WeaveError, .runDone k (some error) ∈ t.log := by
  have hran : ∃ error : ErrorChain WeaveError, .runDone k (some error) ∈ t.log := by
    obtain ⟨hmem, rfl⟩ := timeout_next hn
    have hp := hs.linked.timeout_eq hk hmem
    obtain ⟨error, herror⟩ := Option.ne_none_iff_exists'.1 (failure_ne s)
    refine ⟨error, ?_⟩
    rw [connectToServiceError_eq, if_neg (by simp [hp, hk])]
    simp only [finish, runDone, hk]
    refine (foldl_connect_sameNetwork reentry _).grows.mem ?_
    exact herror ▸ List.mem_cons_self
  obtain ⟨error, hlog⟩ := hran
  refine ⟨fun hcur => ?_, error, hlog⟩
  -- a callback that has been run is not held
  have ht := hs.next hn
  exact (ht.tidy.current k hcur).2 (List.mem_map_of_mem (runDone_mem.1 hlog))

/-- **Attempts report at most once, truthfully, and for themselves.** -/
theorem attempts_honest (h : machine.Reach s) :
    Honest s ∧ ∀ e t, s.next e = some t → HonestStep s e t := by
  have hs := reach_attemptInv h
  refine ⟨hs.honest, fun e t hn => ⟨fun k ht hnew => hs.success hn ht hnew, ?_, ?_⟩⟩
  · rintro j path reentry rfl hj
    exact hs.stale hn hj
  · rintro k path reentry rfl hk
    exact hs.expired hn hk

theorem attempts_honest_test :
    Honest (idleClient.connect homeCall) ∧
      HonestStep (idleClient.connect homeCall) homeOnline
        ((idleClient.connect homeCall).onServicePropertyChange homeService shill.kStateProperty
          (.string "online") []) :=
  have h := attempts_honest (.step (.start idleClient_start) (e := .connect homeCall) trivial rfl)
  ⟨h.1, h.2 _ _ rfl⟩

end ShillClient

end SystemWeaved
