import SystemWeaved.Lib.Custody
import SystemWeaved.Spec.HttpServer

/-!
# Every local request is served once, and has one body

* `IsBody`: the bytes of a request up to the end of its stream or to a read that fails.
  `readLoop_eq`: the loop of `GetData` finds them, however they come.
* `requests_served`: each request is passed to one callback, once; all calls of `GetData` return
  its body as it came; a ping gets its one reply.
-/

namespace SystemWeaved

/-- The loop of `GetData` ends here. -/
def Stops : List ReadResult → Prop
  | [] | .failed :: _ | .read [] :: _ => True
  | .read (_ :: _) :: _ => False

/-- The data come in chunks, up to where the loop ends. -/
def ReadsAs (reads : List ReadResult) (data : List UInt8) : Prop :=
  ∃ (chunks : List (List UInt8)) (rest : List ReadResult),
    reads = chunks.map ReadResult.read ++ rest ∧ [] ∉ chunks ∧ Stops rest ∧ data = chunks.flatten

/-- The data are the body of the request. -/
def WebRequest.IsBody (request : WebRequest) (data : List UInt8) : Prop :=
  (request.dataStream = none ∧ data = []) ∨ ∃ reads, request.dataStream = some reads ∧ ReadsAs reads data

theorem ReadsAs.stop {reads : List ReadResult} (h : Stops reads) : ReadsAs reads [] :=
  ⟨[], reads, rfl, List.not_mem_nil, h, rfl⟩

theorem ReadsAs.chunk {reads : List ReadResult} {data : List UInt8} (h : ReadsAs reads data) (byte : UInt8)
    (bytes : List UInt8) : ReadsAs (.read (byte :: bytes) :: reads) (byte :: bytes ++ data) := by
  obtain ⟨chunks, rest, rfl, hne, hstops, rfl⟩ := h
  refine ⟨(byte :: bytes) :: chunks, rest, rfl, ?_, hstops, rfl⟩
  rw [List.mem_cons, not_or]
  exact ⟨(List.cons_ne_nil _ _).symm, hne⟩

namespace RequestImpl

/-- **The loop appends the body**, however it is cut into chunks. -/
theorem readLoop_eq (reads : List ReadResult) (requestData : List UInt8) :
    ∃ data, (readLoop reads requestData).1 = requestData ++ data ∧ ReadsAs reads data := by
  fun_induction readLoop reads requestData with
  | case1 requestData => exact ⟨[], (List.append_nil _).symm, .stop trivial⟩
  | case2 reads requestData => exact ⟨[], (List.append_nil _).symm, .stop trivial⟩
  | case3 reads requestData => exact ⟨[], (List.append_nil _).symm, .stop trivial⟩
  | case4 byte bytes reads requestData ih =>
    obtain ⟨data, heq, hreads⟩ := ih
    refine ⟨byte :: bytes ++ data, ?_, hreads.chunk byte bytes⟩
    rw [heq, List.append_assoc]

/-- There is no other body. -/
theorem readLoop_of_reads {chunks : List (List UInt8)} (hne : [] ∉ chunks) {rest : List ReadResult}
    (hstops : Stops rest) (requestData : List UInt8) :
    (readLoop (chunks.map ReadResult.read ++ rest) requestData).1 = requestData ++ chunks.flatten := by
  induction chunks generalizing requestData with
  | nil =>
    rw [List.map_nil, List.nil_append, List.flatten_nil, List.append_nil]
    rcases rest with _ | ⟨_ | _ | ⟨byte, bytes⟩, rest⟩
    · rfl
    · rfl
    · rfl
    · exact hstops.elim
  | cons chunk chunks ih =>
    rw [List.mem_cons, not_or] at hne
    obtain ⟨byte, bytes, rfl⟩ := List.exists_cons_of_ne_nil (Ne.symm hne.1)
    show (readLoop (chunks.map ReadResult.read ++ rest) (requestData ++ byte :: bytes)).1 = _
    rw [ih hne.2, List.flatten_cons, List.append_assoc]

theorem isBody_unique {request : WebRequest} {data data' : List UInt8} (h : request.IsBody data)
    (h' : request.IsBody data') : data = data' := by
  rcases h with ⟨hstream, rfl⟩ | ⟨reads, hstream, chunks, rest, rfl, hne, hstops, rfl⟩
  · rcases h' with ⟨-, rfl⟩ | ⟨reads', hstream', -⟩
    · rfl
    · rw [hstream] at hstream'
      cases hstream'
  · rcases h' with ⟨hstream', -⟩ | ⟨reads', hstream', chunks', rest', rfl, hne', hstops', rfl⟩
    · rw [hstream] at hstream'
      cases hstream'
    · have hreads := Option.some.inj (hstream.symm.trans hstream')
      have hloop := readLoop_of_reads hne hstops []
      rw [hreads, readLoop_of_reads hne' hstops' []] at hloop
      exact hloop.symm

/-- The request as it is kept: as it has come, or with its body. -/
def Keeps (r : RequestImpl) (request : WebRequest) : Prop :=
  (r.requestData = none ∧ r.request = request) ∨ ∃ data, r.requestData = some data ∧ request.IsBody data

/-- **`GetData` returns the body**, at every call. -/
theorem getData_keeps {r : RequestImpl} {request : WebRequest} (h : r.Keeps request) :
    request.IsBody r.getData.1 ∧ r.getData.2.Keeps request := by
  rcases h with ⟨hdata, rfl⟩ | ⟨data, hdata, hbody⟩
  · cases hstream : r.request.dataStream with
    | none =>
      have hget : r.getData = ([], { r with requestData := some [] }) := by
        unfold getData
        rw [hdata, hstream]
      have hbody : r.request.IsBody [] := .inl ⟨hstream, rfl⟩
      rw [hget]
      exact ⟨hbody, .inr ⟨[], rfl, hbody⟩⟩
    | some reads =>
      have hget : r.getData = ((readLoop reads []).1,
          ⟨{ r.request with dataStream := some (readLoop reads []).2 }, some (readLoop reads []).1⟩) := by
        unfold getData
        rw [hdata, hstream]
      obtain ⟨data, heq, hreads⟩ := readLoop_eq reads []
      have hbody : r.request.IsBody (readLoop reads []).1 := by
        rw [heq]
        exact .inr ⟨reads, hstream, hreads⟩
      rw [hget]
      exact ⟨hbody, .inr ⟨_, rfl, hbody⟩⟩
  · have hget : r.getData = (data, r) := by
      unfold getData
      rw [hdata]
    rw [hget]
    exact ⟨hbody, .inr ⟨data, hdata, hbody⟩⟩

end RequestImpl

namespace HttpServer

variable {s t : HttpServer} {e : Event}

/-- What holds between any two events. -/
structure Served (s : HttpServer) : Prop where
  runs : Custody s.arrived.length (s.runs.map Prod.snd)
  length : s.requests.length = s.arrived.length
  requests : ∀ (n : ℕ) (r : RequestImpl) (request : WebRequest),
    s.requests[n]? = some r → s.arrived[n]? = some request → r.Keeps request
  data : ∀ p ∈ s.data, ∃ request, s.arrived[p.1]? = some request ∧ request.IsBody p.2
  replies : ∀ p ∈ s.replies, p.1 < s.arrived.length
  pings : ∀ n, (.ping, n) ∈ s.runs → s.replies.filter (fun p => p.1 = n) = [(n, pingReply)]

theorem start_served (enablePing : Bool) : Served (restartWeave enablePing) := by
  cases enablePing <;>
    exact ⟨.start, rfl, by simp [restartWeave, addRequestHandler], by simp [restartWeave, addRequestHandler],
      by simp [restartWeave, addRequestHandler], by simp [restartWeave, addRequestHandler]⟩

/-- A request that has come is there when more have come. -/
theorem getElem?_arrived {n : ℕ} {request : WebRequest} (h : s.arrived[n]? = some request) (new : WebRequest) :
    (s.arrived ++ [new])[n]? = some request := by
  obtain ⟨hn, -⟩ := List.getElem?_eq_some_iff.1 h
  rw [List.getElem?_append_left hn]
  exact h

/-- A request is passed on, before its callback does anything. -/
theorem served_passOn (h : Served s) (callback : RequestHandlerCallback) (request : WebRequest)
    {replies : List (ℕ × TextReply)} (hold : ∀ n < s.arrived.length, replies.filter (fun p => p.1 = n) =
      s.replies.filter fun p => p.1 = n) (hreplies : ∀ p ∈ replies, p.1 < s.arrived.length + 1)
    (hping : callback = .ping → replies.filter (fun p => p.1 = s.arrived.length) = [(s.arrived.length, pingReply)]) :
    Served { s with
      requests := s.requests ++ [{ request }]
      arrived := s.arrived ++ [request]
      runs := (callback, s.requests.length) :: s.runs
      replies } where
  runs := by
    show Custody (s.arrived ++ [request]).length (s.requests.length :: s.runs.map Prod.snd)
    rw [List.length_append, List.length_singleton, h.length]
    exact h.runs.make (.refl _)
  length := by
    rw [List.length_append, List.length_append, h.length]
    rfl
  requests n r request' hr harrived := by
    by_cases hn : n < s.requests.length
    · rw [List.getElem?_append_left hn] at hr
      rw [List.getElem?_append_left (h.length ▸ hn)] at harrived
      exact h.requests n r request' hr harrived
    · -- the new request, with nothing read
      obtain ⟨hlt, -⟩ := List.getElem?_eq_some_iff.1 hr
      rw [List.length_append, List.length_singleton] at hlt
      have hlast : n = s.requests.length := by omega
      rw [hlast, List.getElem?_concat_length] at hr
      rw [hlast, h.length, List.getElem?_concat_length] at harrived
      cases hr
      cases harrived
      exact .inl ⟨rfl, rfl⟩
  data p hp := by
    obtain ⟨request', harrived, hbody⟩ := h.data p hp
    exact ⟨request', getElem?_arrived harrived request, hbody⟩
  replies p hp := by
    rw [List.length_append]
    exact hreplies p hp
  pings n hn := by
    rcases List.mem_cons.1 hn with heq | hmem
    · obtain ⟨hcallback, rfl⟩ := Prod.mk.inj heq
      rw [h.length]
      exact hping hcallback.symm
    · have hlt : n < s.arrived.length := h.runs.mem_iff.1 (List.mem_map_of_mem (f := Prod.snd) hmem)
      show replies.filter _ = _
      rw [hold n hlt]
      exact h.pings n hmem

theorem served_onRequest (h : Served s) (callback : RequestHandlerCallback) (request : WebRequest) :
    Served (s.onRequest callback request) := by
  cases callback with
  | ping =>
    refine served_passOn h .ping request (fun n hn => ?_) (fun p hp => ?_) fun _ => ?_
    · exact List.filter_cons_of_neg (by simpa [h.length] using (Nat.ne_of_lt hn).symm)
    · rcases List.mem_cons.1 hp with rfl | hold
      · exact h.length ▸ Nat.lt_succ_self _
      · exact Nat.lt_succ_of_lt (h.replies p hold)
    · have hnone : s.replies.filter (fun p => p.1 = s.arrived.length) = [] := by
        refine List.filter_eq_nil_iff.2 fun p hp => ?_
        have hlt := h.replies p hp
        simpa using Nat.ne_of_lt hlt
      rw [List.filter_cons_of_pos (by simp [h.length]), hnone, h.length]
  | weave callback =>
    refine served_passOn h (.weave callback) request (fun _ _ => rfl) (fun p hp => ?_) (fun hping => by cases hping)
    exact Nat.lt_succ_of_lt (h.replies p hp)

theorem served_getData (h : Served s) {number : ℕ} {r : RequestImpl} (hr : s.requests[number]? = some r) :
    Served (s.getData number r) := by
  obtain ⟨hnumber, -⟩ := List.getElem?_eq_some_iff.1 hr
  have hlt : number < s.arrived.length := h.length ▸ hnumber
  have harrived : s.arrived[number]? = some s.arrived[number] := List.getElem?_eq_getElem hlt
  obtain ⟨hbody, hkeeps⟩ := RequestImpl.getData_keeps (h.requests number r _ hr harrived)
  constructor
  case runs => exact h.runs
  case length => exact (List.length_set ..).trans h.length
  case requests =>
    intro n r' request hr' hrequest
    have hr' : (s.requests.set number r.getData.2)[n]? = some r' := hr'
    have hrequest : s.arrived[n]? = some request := hrequest
    by_cases hn : n = number
    · subst hn
      rw [List.getElem?_set_self hnumber] at hr'
      cases hr'
      cases harrived.symm.trans hrequest
      exact hkeeps
    · rw [List.getElem?_set_ne (Ne.symm hn)] at hr'
      exact h.requests n r' request hr' hrequest
  case data =>
    intro p hp
    rcases List.mem_cons.1 hp with rfl | hold
    · exact ⟨_, harrived, hbody⟩
    · exact h.data p hold
  case replies => exact h.replies
  case pings => exact h.pings

/-- libweave replies to its own requests. -/
theorem served_sendReply (h : Served s) {number : ℕ} (hweave : s.isWeaves number) (reply : TextReply) :
    Served (s.sendReply number reply) := by
  obtain ⟨run, hrun, hnumber⟩ := List.any_eq_true.1 hweave
  rw [Bool.and_eq_true, beq_iff_eq, bne_iff_ne] at hnumber
  obtain ⟨hnumber, hcallback⟩ := hnumber
  constructor
  case runs => exact h.runs
  case length => exact h.length
  case requests => exact h.requests
  case data => exact h.data
  case replies =>
    intro p hp
    rcases List.mem_cons.1 hp with rfl | hold
    · exact h.runs.mem_iff.1 (hnumber ▸ List.mem_map_of_mem hrun)
    · exact h.replies p hold
  case pings =>
    intro n hn
    have hother : ¬number = n := by
      intro heq
      have hsame := List.inj_on_of_nodup_map h.runs.nodup hrun hn (hnumber.trans heq)
      rw [hsame] at hcallback
      exact hcallback rfl
    show ((number, reply) :: s.replies).filter (fun p => p.1 = n) = _
    rw [List.filter_cons_of_neg (by simpa using hother)]
    exact h.pings n hn

/-- Every event keeps it. -/
theorem next_served (h : Served s) (hn : s.next e = some t) : Served t := by
  cases e with
  | addRequestHandler protocol path callback =>
    obtain ⟨-, hn⟩ := Option.ite_none_right_eq_some.1 hn
    cases hn
    exact ⟨h.runs, h.length, h.requests, h.data, h.replies, h.pings⟩
  | request handler request =>
    obtain ⟨-, hn⟩ := Option.ite_none_right_eq_some.1 hn
    cases hn
    exact served_onRequest h handler.callback request
  | getData number =>
    obtain ⟨-, hn⟩ := Option.ite_none_right_eq_some.1 hn
    obtain ⟨r, hr, rfl⟩ := Option.map_eq_some_iff.1 hn
    exact served_getData h hr
  | sendReply number reply =>
    obtain ⟨hweave, hn⟩ := Option.ite_none_right_eq_some.1 hn
    cases hn
    exact served_sendReply h hweave reply
  | stop =>
    obtain ⟨-, hn⟩ := Option.ite_none_right_eq_some.1 hn
    cases hn
    exact ⟨h.runs, h.length, h.requests, h.data, h.replies, h.pings⟩

theorem reach_served (h : machine.Reach s) : Served s := by
  refine Machine.ReachIf.invariant (P := Served) ?_ (fun s e t _ hs _ hn => next_served hs hn) h
  rintro s ⟨enablePing, rfl⟩
  exact start_served enablePing

/-- **Requests are served as they come.** Each is passed to one callback, once. All calls of
`GetData` on it return the same: its body as it has come. A request that is passed to the
handler for pings gets that handler's reply and no other. -/
theorem requests_served (h : machine.Reach s) :
    (∀ n, (s.runs.map Prod.snd).count n = if n < s.arrived.length then 1 else 0) ∧
    (∀ p ∈ s.data, ∃ request, s.arrived[p.1]? = some request ∧ request.IsBody p.2) ∧
    (∀ p ∈ s.data, ∀ p' ∈ s.data, p.1 = p'.1 → p = p') ∧
    ∀ n, (.ping, n) ∈ s.runs → s.replies.filter (fun p => p.1 = n) = [(n, pingReply)] := by
  have hserved := reach_served h
  refine ⟨hserved.runs.count, hserved.data, fun p hp p' hp' hsame => ?_, hserved.pings⟩
  obtain ⟨request, harrived, hbody⟩ := hserved.data p hp
  obtain ⟨request', harrived', hbody'⟩ := hserved.data p' hp'
  rw [hsame, harrived'] at harrived
  cases harrived
  exact Prod.ext hsame (RequestImpl.isBody_unique hbody hbody')

/-- A ping, and a request whose body comes in two chunks and is asked for twice. -/
def servingRun : List Event :=
  [.addRequestHandler .http "/privet/info" 0, .request ⟨.https, "/privet/ping", .ping⟩ ⟨"/privet/ping", [], none⟩,
    .request ⟨.http, "/privet/info", .weave 0⟩ ⟨"/privet/info", [], some [.read [1, 2], .read [3], .failed, .read [4]]⟩,
    .getData 1, .getData 1, .sendReply 1 ⟨200, "{}", "application/json"⟩, .stop]

def servingState : HttpServer := (machine.run (restartWeave true) servingRun).get rfl

theorem requests_served_test :
    (∀ n, (servingState.runs.map Prod.snd).count n = if n < servingState.arrived.length then 1 else 0) ∧
    (∀ p ∈ servingState.data, ∃ request, servingState.arrived[p.1]? = some request ∧ request.IsBody p.2) ∧
    (∀ p ∈ servingState.data, ∀ p' ∈ servingState.data, p.1 = p'.1 → p = p') ∧
    ∀ n, (.ping, n) ∈ servingState.runs → servingState.replies.filter (fun p => p.1 = n) = [(n, pingReply)] :=
  requests_served (Machine.run_reach (.start ⟨true, rfl⟩) (Option.some_get _).symm)

/-- The body ends where a read fails, and is the same at both calls. -/
example : servingState.data = [(1, [1, 2, 3]), (1, [1, 2, 3])] := by decide

end HttpServer

end SystemWeaved
