import SystemWeaved.Lib.Custody
import SystemWeaved.Proof.ErrorConversion
import SystemWeaved.Spec.Network

/-!
# Every call is answered once, with what was reported

* `Step`: what an event does to the calls; `next_step` splits an event once for all proofs.
* `calls_accounted`: a call is with brillo, posted, answered, cancelled or ignored, and that once,
  if brillo keeps its laws. Without XMPP no socket is opened and no `OpenSslSocket` is answered.
* `answers_truthful`: each answer tells what was reported on its call, with the whole chain of an
  error (`Truthful`), and there is one report for each.
-/

namespace SystemWeaved

/-- The kind of call that the callback belongs to. -/
def CallReply.kind : CallReply → CallKind
  | read _ _ => .read
  | write _ => .write
  | openSslSocket _ _ => .openSslSocket
  | sendRequest _ _ => .sendRequest

/-- The error that the callback is given. -/
def CallReply.error : CallReply → ErrorPtr WeaveError
  | read _ error | write error | openSslSocket _ error | sendRequest _ error => error

/-- The callback is given nothing but the error. -/
def CallReply.isBlank : CallReply → Bool
  | read size _ => size = 0
  | write _ => true
  | openSslSocket stream _ => stream.isNone
  | sendRequest response _ => response.isNone

/-- The reply tells a call what was reported on it. -/
structure Truthful (call : ℕ) (kind : CallKind) (report : AsyncReport) (reply : CallReply) : Prop where
  kind : reply.kind = kind
  failed : ∀ error, report = .failed error →
    errors reply.error = error.toList.map (fun e => ⟨e.code, e.message⟩) ∧ reply.isBlank
  size : ∀ size, report = .read size → reply = .read size none
  written : report = .written → reply = .write none
  connected : report = .connected → reply = .openSslSocket (some call) none
  response : ∀ response, report = .response response → reply = .sendRequest (some response) none

theorem onError_truthful (call : ℕ) (kind : CallKind) (error : ErrorChain BrilloError) :
    Truthful call kind (.failed error) (onError kind error) := by
  have hkind : (onError kind error).kind = kind := by cases kind <;> rfl
  have herror : (onError kind error).error = convertError error none := by cases kind <;> rfl
  have hblank : (onError kind error).isBlank := by cases kind <;> rfl
  refine ⟨hkind, fun e he => ⟨?_, hblank⟩, ?_, ?_, ?_, ?_⟩
  · have heq : error = e := AsyncReport.failed.inj he
    rw [herror, convertError_eq, errors_convertChain, heq]
    exact List.append_nil _
  all_goals simp

/-- The report is on the kind of call that it can be on. -/
theorem onReport_truthful {call : ℕ} {kind : CallKind} {report : AsyncReport} {reply : CallReply}
    (h : onReport call kind report = some reply) : Truthful call kind report reply := by
  cases report with
  | failed error =>
    have hreply : onReport call kind (.failed error) = some (onError kind error) := by cases kind <;> rfl
    rw [← Option.some.inj (hreply.symm.trans h)]
    exact onError_truthful call kind error
  | read _ | written | connected | response _ =>
    cases kind <;> simp only [onReport, Option.some.injEq, reduceCtorEq] at h
    rw [← h]
    exact ⟨rfl, by simp, by simp, by simp, by simp, by simp⟩

namespace Network

variable {B : Brillo} {s t : Network B} {e : Event}

/-! ## The steps -/

/-- The state without what the accounting of the calls does not read. -/
def core (s : Network B) : Network B := { s with streams := [], requests := [], socketCalls := [] }

/-- What an event does to the calls. -/
inductive Step (s t : Network B) : Prop
  | takenUp (kind : CallKind) (stream : Option ℕ) (hxmpp : kind = .openSslSocket → s.disableXmpp = false)
      (h : t.core = (s.newCall.takeUp ⟨s.calls, kind, stream⟩).core)
  | refused (kind : CallKind) (error : ErrorChain BrilloError)
      (hxmpp : kind = .openSslSocket → s.disableXmpp = false)
      (h : t.core = (s.newCall.refuse s.calls kind error).core)
  | ignored (hxmpp : s.disableXmpp = true) (h : t.core = { s.newCall with ignored := s.calls :: s.ignored }.core)
  | cancelled (stream : ℕ) (h : t.core = (s.cancelPendingOperations stream).core)
  | reported (operation : AsyncOperation) (report : AsyncReport) (reply : CallReply) (brillo : B.State)
      (hreport : B.report s.brillo operation report = some brillo)
      (hreply : onReport operation.call operation.kind report = some reply)
      (h : t.core = { s with
        brillo
        answers := (operation.call, reply) :: s.answers
        reports := (operation.call, operation.kind, report) :: s.reports }.core)
  | ran (task : ℕ × CallReply) (hmem : task ∈ s.tasks) (h : t.core = (s.runTask task).core)

theorem beginAsync_step {kind : CallKind} (hkind : kind ≠ .openSslSocket) (stream : ℕ)
    (begun : Except (ErrorChain BrilloError) Unit) : Step s (s.beginAsync kind stream begun) := by
  rcases begun with error | u
  · exact .refused kind error (fun h => absurd h hkind) rfl
  · exact .takenUp kind (some stream) (fun h => absurd h hkind) rfl

theorem openSslSocket_step (host : String) (port : UInt16) (answers : ConnectAnswers) (errno : BrilloError) :
    Step s (s.openSslSocket host port answers errno) := by
  unfold openSslSocket
  dsimp only
  by_cases hxmpp : s.newCall.disableXmpp = true
  · rw [if_pos hxmpp]
    exact .ignored hxmpp rfl
  · rw [if_neg hxmpp]
    have hoff : s.disableXmpp = false := Bool.eq_false_iff.2 hxmpp
    rcases (SocketStream.connectBlocking answers host port).1 with _ | stream
    · exact .refused .openSslSocket (.last errno) (fun _ => hoff) rfl
    · exact .takenUp .openSslSocket none (fun _ => hoff) rfl

theorem sendRequest_step (method url : String) (headers : List (String × String)) (data : String)
    (addRequestBody : Except (ErrorChain BrilloError) Unit) :
    Step s (s.sendRequest method url headers data addRequestBody) := by
  have hkind : CallKind.sendRequest = .openSslSocket → s.disableXmpp = false := fun h => by cases h
  unfold sendRequest
  dsimp only
  by_cases hdata : data = ""
  · rw [if_pos hdata]
    exact .takenUp .sendRequest none hkind rfl
  · rw [if_neg hdata]
    rcases addRequestBody with error | u
    · exact .refused .sendRequest error hkind rfl
    · exact .takenUp .sendRequest none hkind rfl

/-- **What an event does**, once for all invariants. -/
theorem next_step (h : s.next e = some t) : Step s t := by
  cases e with
  | read stream readAsync =>
    obtain ⟨-, ht⟩ := Option.ite_none_right_eq_some.1 h
    rw [← Option.some.inj ht]
    exact beginAsync_step (by simp) stream readAsync
  | write stream writeAllAsync =>
    obtain ⟨-, ht⟩ := Option.ite_none_right_eq_some.1 h
    rw [← Option.some.inj ht]
    exact beginAsync_step (by simp) stream writeAllAsync
  | cancelPendingOperations stream =>
    obtain ⟨-, ht⟩ := Option.ite_none_right_eq_some.1 h
    rw [← Option.some.inj ht]
    exact .cancelled stream rfl
  | destroyStream stream =>
    obtain ⟨-, ht⟩ := Option.ite_none_right_eq_some.1 h
    rw [← Option.some.inj ht]
    exact .cancelled stream rfl
  | openSslSocket host port answers errno =>
    rw [← Option.some.inj h]
    exact openSslSocket_step host port answers errno
  | sendRequest method url headers data addRequestBody =>
    rw [← Option.some.inj h]
    exact sendRequest_step method url headers data addRequestBody
  | report operation report =>
    obtain ⟨brillo, hreport, ht⟩ := Option.bind_eq_some_iff.1 h
    obtain ⟨reply, hreply, ht⟩ := Option.map_eq_some_iff.1 ht
    rw [← ht]
    exact .reported operation report reply brillo hreport hreply rfl
  | runTask task =>
    obtain ⟨hmem, ht⟩ := Option.ite_none_right_eq_some.1 h
    rw [← Option.some.inj ht]
    exact .ran task hmem rfl

/-! ## Where the calls are -/

/-- The calls, wherever they are. -/
def held (s : Network B) : List ℕ :=
  s.operations.map AsyncOperation.call ++ s.tasks.map Prod.fst ++ s.answers.map Prod.fst ++ s.cancelled ++ s.ignored

/-- What is known of the calls in every state. -/
structure Tracked (s : Network B) : Prop where
  custody : Custody s.calls s.held
  /-- There is a report for each callback that is posted or has been run. -/
  reported : (s.reports.map Prod.fst).Perm (s.tasks.map Prod.fst ++ s.answers.map Prod.fst)
  told : ∀ p ∈ s.tasks ++ s.answers, ∃ kind report,
    (p.1, kind, report) ∈ s.reports ∧ onReport p.1 kind report = some p.2
  ignored : s.disableXmpp = false → s.ignored = []
  operations : s.disableXmpp = true → ∀ operation ∈ s.operations, operation.kind ≠ .openSslSocket
  reports : s.disableXmpp = true → ∀ r ∈ s.reports, r.2.1 ≠ .openSslSocket

/-- Only the core matters. -/
theorem Tracked.of_core (hcore : t.core = s.core) (h : Tracked s) : Tracked t := by
  have hs : Tracked s.core := ⟨h.custody, h.reported, h.told, h.ignored, h.operations, h.reports⟩
  rw [← hcore] at hs
  exact ⟨hs.custody, hs.reported, hs.told, hs.ignored, hs.operations, hs.reports⟩

theorem start_tracked (disableXmpp : Bool) : Tracked ({ disableXmpp } : Network B) where
  custody := by
    simp only [held, Network.operations, B.pending_start]
    exact .start
  reported := .refl _
  told p hp := by simp at hp
  ignored _ := rfl
  operations _ operation hoperation := by simp [Network.operations, B.pending_start] at hoperation
  reports _ r hr := by simp at hr

theorem Tracked.takeUp (h : Tracked s) {kind : CallKind} (stream : Option ℕ)
    (hxmpp : kind = .openSslSocket → s.disableXmpp = false) :
    Tracked (s.newCall.takeUp ⟨s.calls, kind, stream⟩) where
  custody := by
    refine h.custody.make_of_count fun k => ?_
    have hk := ((B.pending_takeUp s.brillo ⟨s.calls, kind, stream⟩).map AsyncOperation.call).count_eq k
    simp only [held, Network.operations, newCall, Network.takeUp, List.map_cons, List.count_append,
      List.count_cons] at hk ⊢
    omega
  reported := h.reported
  told := h.told
  ignored := h.ignored
  operations hoff operation hmem := by
    rcases List.mem_cons.1 ((B.pending_takeUp s.brillo _).mem_iff.1 hmem) with rfl | hold
    · intro hkind
      have hdisabled : s.disableXmpp = true := hoff
      simp [hxmpp hkind] at hdisabled
    · exact h.operations hoff operation hold
  reports := h.reports

theorem Tracked.refuse (h : Tracked s) {kind : CallKind} (error : ErrorChain BrilloError)
    (hxmpp : kind = .openSslSocket → s.disableXmpp = false) :
    Tracked (s.newCall.refuse s.calls kind error) where
  custody := by
    refine h.custody.make_of_count fun k => ?_
    simp only [held, Network.operations, newCall, Network.refuse, List.map_append, List.map_cons, List.map_nil, List.count_append,
      List.count_cons, List.count_nil]
    omega
  reported := by
    have hcount := fun k => h.reported.count_eq k
    rw [List.perm_iff_count]
    intro k
    have hk := hcount k
    simp only [newCall, Network.refuse, List.map_append, List.map_cons, List.map_nil, List.count_append,
      List.count_cons, List.count_nil] at hk ⊢
    omega
  told p hp := by
    have hcases : p ∈ s.tasks ++ s.answers ∨ p = (s.calls, onError kind error) := by
      simp only [newCall, Network.refuse, List.mem_append, List.mem_singleton] at hp ⊢
      tauto
    rcases hcases with hold | rfl
    · obtain ⟨kind', report, hmem, hreply⟩ := h.told p hold
      exact ⟨kind', report, List.mem_cons_of_mem _ hmem, hreply⟩
    · exact ⟨kind, .failed error, List.mem_cons_self, by cases kind <;> rfl⟩
  ignored := h.ignored
  operations := h.operations
  reports hoff r hmem := by
    rcases List.mem_cons.1 hmem with rfl | hold
    · intro hkind
      have hdisabled : s.disableXmpp = true := hoff
      simp [hxmpp hkind] at hdisabled
    · exact h.reports hoff r hold

theorem Tracked.ignore (h : Tracked s) (hxmpp : s.disableXmpp = true) :
    Tracked { s.newCall with ignored := s.calls :: s.ignored } where
  custody := by
    refine h.custody.make_of_count fun k => ?_
    simp only [held, Network.operations, newCall, List.count_append, List.count_cons]
    omega
  reported := h.reported
  told := h.told
  ignored hon := by
    have hoff : s.disableXmpp = false := hon
    rw [hxmpp] at hoff
    cases hoff
  operations := h.operations
  reports := h.reports

theorem Tracked.cancel (h : Tracked s) (stream : ℕ) : Tracked (s.cancelPendingOperations stream) where
  custody := by
    refine h.custody.move_of_count fun k => ?_
    have hsplit := (List.filter_append_perm (fun operation : AsyncOperation => decide (operation.stream = some stream))
      s.operations).map AsyncOperation.call
    have hk := hsplit.count_eq k
    have hleft := ((B.none_after_cancel s.brillo stream).map AsyncOperation.call).count_eq k
    simp only [held, Network.operations, cancelPendingOperations, List.map_append, List.count_append, ne_eq,
      decide_not] at hk hleft ⊢
    omega
  reported := h.reported
  told := h.told
  ignored := h.ignored
  operations hoff operation hmem :=
    h.operations hoff operation (List.mem_of_mem_filter ((B.none_after_cancel s.brillo stream).mem_iff.1 hmem))
  reports := h.reports

theorem Tracked.report (h : Tracked s) {operation : AsyncOperation} {report : AsyncReport} {reply : CallReply}
    {brillo : B.State} (hreport : B.report s.brillo operation report = some brillo)
    (hreply : onReport operation.call operation.kind report = some reply) :
    Tracked { s with
      brillo
      answers := (operation.call, reply) :: s.answers
      reports := (operation.call, operation.kind, report) :: s.reports } where
  custody := by
    refine h.custody.move_of_count fun k => ?_
    have hk := ((B.one_report _ _ _ _ hreport).map AsyncOperation.call).count_eq k
    simp only [held, Network.operations, List.map_cons, List.count_append, List.count_cons] at hk ⊢
    omega
  reported := by
    rw [List.perm_iff_count]
    intro k
    have hk := h.reported.count_eq k
    simp only [List.map_cons, List.count_append, List.count_cons] at hk ⊢
    omega
  told p hp := by
    have hcases : p ∈ s.tasks ++ s.answers ∨ p = (operation.call, reply) := by
      simp only [List.mem_append, List.mem_cons] at hp ⊢
      tauto
    rcases hcases with hold | rfl
    · obtain ⟨kind', report', hr, hreply'⟩ := h.told p hold
      exact ⟨kind', report', List.mem_cons_of_mem _ hr, hreply'⟩
    · exact ⟨operation.kind, report, List.mem_cons_self, hreply⟩
  ignored := h.ignored
  operations hoff operation' hmem' :=
    h.operations hoff operation' ((B.one_report _ _ _ _ hreport).mem_iff.1 (List.mem_cons_of_mem _ hmem'))
  reports hoff r hr := by
    rcases List.mem_cons.1 hr with rfl | hold
    · exact h.operations hoff operation ((B.one_report _ _ _ _ hreport).mem_iff.1 List.mem_cons_self)
    · exact h.reports hoff r hold

theorem Tracked.runTask (h : Tracked s) {task : ℕ × CallReply} (hmem : task ∈ s.tasks) : Tracked (s.runTask task) where
  custody := by
    refine h.custody.move_of_count fun k => ?_
    have hsplit := (List.perm_cons_erase hmem).map Prod.fst
    have hk := hsplit.count_eq k
    simp only [held, Network.operations, Network.runTask, List.map_cons, List.count_append, List.count_cons] at hk ⊢
    omega
  reported := by
    have hsplit := (List.perm_cons_erase hmem).map Prod.fst
    rw [List.perm_iff_count]
    intro k
    have hk := h.reported.count_eq k
    have hk' := hsplit.count_eq k
    simp only [Network.runTask, List.map_cons, List.count_append, List.count_cons] at hk hk' ⊢
    omega
  told p hp := by
    refine h.told p ?_
    simp only [Network.runTask, List.mem_append, List.mem_cons] at hp ⊢
    rcases hp with hold | rfl | hold
    · exact .inl (List.mem_of_mem_erase hold)
    · exact .inl hmem
    · exact .inr hold
  ignored := h.ignored
  operations := h.operations
  reports := h.reports

theorem Step.tracked (hstep : Step s t) (h : Tracked s) : Tracked t := by
  rcases hstep with ⟨kind, stream, hxmpp, hcore⟩ | ⟨kind, error, hxmpp, hcore⟩ | ⟨hxmpp, hcore⟩ | ⟨stream, hcore⟩ |
    ⟨operation, report, reply, brillo, hreport, hreply, hcore⟩ | ⟨task, hmem, hcore⟩
  · exact (h.takeUp stream hxmpp).of_core hcore
  · exact (h.refuse error hxmpp).of_core hcore
  · exact (h.ignore hxmpp).of_core hcore
  · exact (h.cancel stream).of_core hcore
  · exact (h.report hreport hreply).of_core hcore
  · exact (h.runTask hmem).of_core hcore

theorem reach_tracked (h : (machine B).Reach s) : Tracked s := by
  refine Machine.ReachIf.invariant (P := Tracked) ?_ (fun s e t _ hs _ hn => (next_step hn).tracked hs) h
  rintro s ⟨disableXmpp, rfl⟩
  exact start_tracked disableXmpp

/-! ## Results -/

/-- Only `OpenSslSocket` makes system calls, and only with XMPP. -/
theorem next_socketCalls (h : s.next e = some t) (hoff : s.disableXmpp = true) :
    t.disableXmpp = true ∧ t.socketCalls = s.socketCalls := by
  have hkeeps : ∀ kind stream begun, (s.beginAsync kind stream begun).disableXmpp = true ∧
      (s.beginAsync kind stream begun).socketCalls = s.socketCalls := by
    intro kind stream begun
    rcases begun with error | u <;> exact ⟨hoff, rfl⟩
  cases e with
  | read stream readAsync =>
    obtain ⟨-, ht⟩ := Option.ite_none_right_eq_some.1 h
    rw [← Option.some.inj ht]
    exact hkeeps .read stream readAsync
  | write stream writeAllAsync =>
    obtain ⟨-, ht⟩ := Option.ite_none_right_eq_some.1 h
    rw [← Option.some.inj ht]
    exact hkeeps .write stream writeAllAsync
  | cancelPendingOperations stream | destroyStream stream =>
    obtain ⟨-, ht⟩ := Option.ite_none_right_eq_some.1 h
    rw [← Option.some.inj ht]
    exact ⟨hoff, rfl⟩
  | openSslSocket host port answers errno =>
    rw [← Option.some.inj h]
    unfold openSslSocket
    have hcall : s.newCall.disableXmpp = true := hoff
    dsimp only
    rw [if_pos hcall]
    exact ⟨hoff, rfl⟩
  | sendRequest method url headers data addRequestBody =>
    rw [← Option.some.inj h]
    unfold sendRequest
    dsimp only
    by_cases hdata : data = ""
    · rw [if_pos hdata]
      exact ⟨hoff, rfl⟩
    · rw [if_neg hdata]
      rcases addRequestBody with error | u <;> exact ⟨hoff, rfl⟩
  | report operation report =>
    obtain ⟨brillo, -, ht⟩ := Option.bind_eq_some_iff.1 h
    obtain ⟨reply, -, ht⟩ := Option.map_eq_some_iff.1 ht
    rw [← ht]
    exact ⟨hoff, rfl⟩
  | runTask task =>
    obtain ⟨-, ht⟩ := Option.ite_none_right_eq_some.1 h
    rw [← Option.some.inj ht]
    exact ⟨hoff, rfl⟩

theorem reach_socketCalls (h : (machine B).Reach s) : s.disableXmpp = true → s.socketCalls = [] := by
  refine Machine.ReachIf.invariant (P := fun s => s.disableXmpp = true → s.socketCalls = []) ?_ ?_ h
  · rintro s ⟨disableXmpp, rfl⟩ -
    rfl
  · intro s e t hr hs _ hn hoff
    have hcore : t.disableXmpp = s.disableXmpp := by
      rcases next_step hn with ⟨_, _, _, h⟩ | ⟨_, _, _, h⟩ | ⟨_, h⟩ | ⟨_, h⟩ | ⟨_, _, _, _, _, _, h⟩ | ⟨_, _, h⟩
      all_goals
        have hxmpp := congrArg Network.disableXmpp h
        exact hxmpp
    rw [hcore] at hoff
    rw [(next_socketCalls hn hoff).2]
    exact hs hoff

/-- **Each call is in one place**: it waits for brillo, its callback is posted, it has been
answered, it has been cancelled, or it is an `OpenSslSocket` that is ignored without XMPP. That
it is not answered twice rests on the laws of brillo (`one_report`, `none_after_cancel`). -/
theorem calls_accounted (h : (machine B).Reach s) :
    (∀ k, (s.operations.map AsyncOperation.call).count k + (s.tasks.map Prod.fst).count k +
        (s.answers.map Prod.fst).count k + s.cancelled.count k + s.ignored.count k =
      if k < s.calls then 1 else 0) ∧
    (s.disableXmpp = false → s.ignored = []) ∧
    (s.disableXmpp = true → s.socketCalls = [] ∧ ∀ p ∈ s.answers, p.2.kind ≠ .openSslSocket) := by
  have htracked := reach_tracked h
  refine ⟨fun k => ?_, htracked.ignored, fun hoff => ⟨reach_socketCalls h hoff, fun p hp => ?_⟩⟩
  · have hcount := htracked.custody.count k
    simpa only [held, List.count_append] using hcount
  · obtain ⟨kind, report, hmem, hreply⟩ := htracked.told p (List.mem_append_right _ hp)
    rw [(onReport_truthful hreply).kind]
    exact htracked.reports hoff _ hmem

/-- **Each answer is what was reported**, and each report is answered or about to be. -/
theorem answers_truthful (h : (machine B).Reach s) :
    (s.reports.map Prod.fst).Nodup ∧
    (∀ r ∈ s.reports, r.1 ∈ s.tasks.map Prod.fst ∨ r.1 ∈ s.answers.map Prod.fst) ∧
    ∀ p ∈ s.answers, ∃ kind report, (p.1, kind, report) ∈ s.reports ∧ Truthful p.1 kind report p.2 := by
  have htracked := reach_tracked h
  have hnodup : (s.tasks.map Prod.fst ++ s.answers.map Prod.fst).Nodup := by
    have hall := htracked.custody.nodup
    unfold held at hall
    simp only [List.append_assoc] at hall
    have htail := (List.nodup_append.1 hall).2.1
    rw [← List.append_assoc] at htail
    exact (List.nodup_append.1 htail).1
  refine ⟨htracked.reported.nodup_iff.2 hnodup, fun r hr => ?_, fun p hp => ?_⟩
  · have hmem : r.1 ∈ s.reports.map Prod.fst := List.mem_map_of_mem hr
    exact List.mem_append.1 (htracked.reported.mem_iff.1 hmem)
  · obtain ⟨kind, report, hmem, hreply⟩ := htracked.told p (List.mem_append_right _ hp)
    exact ⟨kind, report, hmem, onReport_truthful hreply⟩

/-- A brillo that keeps the operations in a queue. -/
def queued : Brillo where
  State := List AsyncOperation
  start := []
  takeUp operations operation := operations ++ [operation]
  cancel operations stream := operations.filter fun operation => operation.stream ≠ some stream
  report operations operation _ := if operation ∈ operations then some (operations.erase operation) else none
  pending := id
  pending_start := rfl
  pending_takeUp operations operation := List.perm_append_singleton operation operations
  none_after_cancel _ _ := .refl _
  one_report operations operation _ brillo' h := by
    obtain ⟨hmem, hbrillo⟩ := Option.ite_none_right_eq_some.1 h
    rw [← Option.some.inj hbrillo]
    exact (List.perm_cons_erase hmem).symm

/-- A socket is opened, read and closed while a read is pending; a request is refused. -/
def networkRun : List Event :=
  [.openSslSocket "host" 443 ⟨some [⟨⟨2, 1, 6, [127, 0, 0, 1]⟩, 3, 0⟩], fun _ => true⟩ ⟨"system", "e", "m"⟩,
    .report ⟨0, .openSslSocket, none⟩ .connected, .read 0 (.ok ()), .report ⟨1, .read, some 0⟩ (.read 5),
    .read 0 (.ok ()), .destroyStream 0, .sendRequest "POST" "url" [] "data" (.error (.last ⟨"http", "c", "m"⟩))]

def networkEnd : Network queued :=
  ((machine queued).run { disableXmpp := false } networkRun).get (by decide +kernel)

theorem networkEnd_reach : (machine queued).Reach networkEnd :=
  Machine.run_reach (.start ⟨false, rfl⟩) (Option.some_get _).symm

example : networkEnd.answers = [(1, .read 5 none), (0, .openSslSocket (some 0) none)] ∧ networkEnd.cancelled = [2] ∧
    networkEnd.tasks = [(3, .sendRequest none (some (.last ⟨"c", "m"⟩)))] := by
  decide +kernel

theorem calls_accounted_test :
    (∀ k, (networkEnd.operations.map AsyncOperation.call).count k + (networkEnd.tasks.map Prod.fst).count k +
        (networkEnd.answers.map Prod.fst).count k + networkEnd.cancelled.count k + networkEnd.ignored.count k =
      if k < networkEnd.calls then 1 else 0) ∧
    (networkEnd.disableXmpp = false → networkEnd.ignored = []) ∧
    (networkEnd.disableXmpp = true →
      networkEnd.socketCalls = [] ∧ ∀ p ∈ networkEnd.answers, p.2.kind ≠ .openSslSocket) :=
  calls_accounted networkEnd_reach

theorem answers_truthful_test :
    (networkEnd.reports.map Prod.fst).Nodup ∧
    (∀ r ∈ networkEnd.reports,
      r.1 ∈ networkEnd.tasks.map Prod.fst ∨ r.1 ∈ networkEnd.answers.map Prod.fst) ∧
    ∀ p ∈ networkEnd.answers, ∃ kind report, (p.1, kind, report) ∈ networkEnd.reports ∧
      Truthful p.1 kind report p.2 :=
  answers_truthful networkEnd_reach

end Network

end SystemWeaved
