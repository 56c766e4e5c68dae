import SystemWeaved.Lib.Simulation
import SystemWeaved.Proof.Command
import SystemWeaved.Spec.Components

/-!
# Binder is transparent

* `onTransact_spec`: what a call does at its service, whichever it is.
* `binder_transparent`: the clients' methods have the device called as if they called it directly,
  in their order and with their texts up to a NUL; they return whether it has refused and why, and
  the `components_` of a service are the components that have been added through it. A call comes
  back unless a `CHECK` ends its client.
* `components_disjoint`: if the device refuses a name that it has, no component is listed twice,
  for one service or for two.
-/

namespace SystemWeaved

variable {S : Strings} {J : JsonPaths} {D : WeaveDevice}

/-! ## What the device is asked for -/

/-- The call for the state of a component. -/
def stateCall (component : String) (dict : J.Dictionary) : Option DeviceCall :=
  if component = "" then none
  else some (.setStatePropertiesFromJson (cStr component) (J.write (J.ofDictionary dict)))

/-- The call of the device that a method stands for. Its texts are C strings. -/
def ServiceMethod.deviceCall : ServiceMethod J → Option DeviceCall
  | .addComponent component traits => some (.addComponent (cStr component) (traits.map cStr))
  | .setStateProperties component dict => stateCall component dict
  | .setStateProperty component traitName propertyName value =>
    stateCall component (J.set J.empty (cStr traitName ++ "." ++ cStr propertyName) value)

/-- The call that the device gets for a call of its service. -/
def WeaveServiceCall.deviceCall : WeaveServiceCall S → DeviceCall
  | .addComponent name traits => .addComponent (S.ToString name) (traits.map S.ToString)
  | .updateState component state => .setStatePropertiesFromJson (S.ToString component) (S.ToString state)

/-- The component that a call of the device has added. -/
def DeviceCall.added (call : DeviceCall) (success : Bool) : List String :=
  match call with
  | .addComponent name _ => if success then [name] else []
  | .setStatePropertiesFromJson _ _ => []

namespace ComponentSystem

variable {s t : ComponentSystem D} {e : Event J}

/-- The call of the device that a client's call stands for, with the service it is made for. -/
def Event.direct (e : Event J) : Option (ℕ × DeviceCall) :=
  e.impl.weaveService.bind fun service => e.method.deviceCall.map fun call => (service.service.id, call)

theorem setStateProperties_direct (impl : ServiceImpl) (component : String) (dict : J.Dictionary) :
    ((impl.setStateProperties S component dict).map fun r => (r.1.service.id, r.2.deviceCall)) =
      impl.weaveService.bind fun service => (stateCall component dict).map fun call => (service.service.id, call) := by
  unfold ServiceImpl.setStateProperties stateCall
  by_cases hcomponent : component = ""
  · rw [if_pos hcomponent, if_pos hcomponent]
    rcases impl.weaveService with _ | service <;> rfl
  · rw [if_neg hcomponent, if_neg hcomponent]
    rcases impl.weaveService with _ | service
    · rfl
    · simp only [Option.map_some, Option.bind_some, WeaveServiceCall.deviceCall,
        Strings.toString_toString16_eq_cStr, Json.toString_toString16]

/-- **The arguments of a method arrive** at the device of the service, or a `CHECK` fails. -/
theorem call_direct (e : Event J) :
    ((e.impl.call S e.method).map fun r => (r.1.service.id, r.2.deviceCall)) = e.direct := by
  obtain ⟨client, impl, method, error⟩ := e
  cases method with
  | addComponent component traits =>
    show ((impl.addComponent S component traits).map _) = impl.weaveService.bind _
    unfold ServiceImpl.addComponent
    rcases impl.weaveService with _ | service
    · rfl
    · have htraits : (traits.map S.ToString16).map S.ToString = traits.map cStr := by
        rw [List.map_map]
        exact List.map_congr_left fun trait _ => Strings.toString_toString16_eq_cStr trait
      simp only [Option.map_some, Option.bind_some, WeaveServiceCall.deviceCall, ServiceMethod.deviceCall,
        Strings.toString_toString16_eq_cStr, htraits]
  | setStateProperties component dict => exact setStateProperties_direct impl component dict
  | setStateProperty component traitName propertyName value =>
    exact setStateProperties_direct impl component
      (J.set J.empty (cStr traitName ++ "." ++ cStr propertyName) value)

/-! ## What a service does -/

/-- The state after the device has answered a call. -/
def answered (s : ComponentSystem D) (service : ℕ) (call : DeviceCall) : ComponentSystem D :=
  { s with
    device := (D.run call s.device).2
    components := Function.update s.components service
      (s.components service ++ call.added (D.run call s.device).1.1) }

/-- **What a call does at its service**: the device is called once, and the status tells its answer. -/
theorem onTransact_spec (s : ComponentSystem D) (service : ℕ) (call : WeaveServiceCall S) :
    ∃ status, s.onTransact service call = some (status, s.answered service call.deviceCall) ∧
      Answers status (D.run call.deviceCall s.device).1 := by
  obtain ⟨status, hstatus, hanswers⟩ := toStatus_answers (D.error_of_false call.deviceCall s.device)
  refine ⟨status, ?_, hanswers⟩
  cases call with
  | addComponent name traits =>
    have hadded : ∀ success, DeviceCall.added (.addComponent (S.ToString name) (traits.map S.ToString)) success =
        if success then [S.ToString name] else [] := fun _ => rfl
    show s.addComponent service name traits = _
    unfold addComponent answered
    simp only [WeaveServiceCall.deviceCall, hadded] at hstatus ⊢
    rcases hrun : D.run (.addComponent (S.ToString name) (traits.map S.ToString)) s.device with
      ⟨⟨_ | _, error⟩, device⟩
    · -- refused: nothing is listed
      simp only [hrun] at hstatus
      simp [hrun, hstatus]
    · have hok : Status.ok = status := by simpa [hrun, toStatus] using hstatus
      simp [hrun, hok]
  | updateState component state =>
    show s.updateState component state = _
    have hadded : DeviceCall.added (.setStatePropertiesFromJson (S.ToString component) (S.ToString state))
        (D.run (.setStatePropertiesFromJson (S.ToString component) (S.ToString state)) s.device).1.1 = [] := rfl
    unfold updateState answered
    simp only [WeaveServiceCall.deviceCall] at hstatus ⊢
    simp [hstatus, hadded]

/-! ## What comes back -/

/-- What a method returns tells what the device has answered: its verdict, and the outermost
message of its error, up to a NUL. The code is that of binder, whatever the device has given. -/
structure Tells (result : MethodResult) (reply : Bool × ErrorPtr WeaveError) : Prop where
  success : result.success = reply.1
  succeeded : reply.1 = true → result.error = result.given
  failed : reply.1 = false → ∃ e, reply.2 = some e ∧
    result.error = addTo result.given ⟨"binder", toString Status.EX_SERVICE_SPECIFIC, cStr e.outer.message⟩

theorem statusToError_tells {status : Status} {reply : Bool × ErrorPtr WeaveError} (h : Answers status reply)
    (error : ErrorPtr BrilloError) :
    Tells ⟨error, (statusToError status error).1, (statusToError status error).2⟩ reply := by
  refine ⟨(statusToError_fst status error).trans h.isOk, fun hsuccess => ?_, fun hfailed => ?_⟩
  · have hok : status.isOk = true := h.isOk.trans hsuccess
    unfold statusToError
    rw [if_pos hok]
  · obtain ⟨e, he, rfl⟩ := h.failed hfailed
    exact ⟨e, he, rfl⟩

/-- One call of a client, or the end of it. -/
inductive Step (s : ComponentSystem D) (e : Event J) : ComponentSystem D → Prop
  | ended (h : e.direct = none) : Step s e { s with ended := e.client :: s.ended }
  | called (service : ℕ) (call : DeviceCall) (result : MethodResult) (h : e.direct = some (service, call))
      (hgiven : result.given = e.error) (htells : Tells result (D.run call s.device).1) :
      Step s e { s.answered service call with results := s.results ++ [result] }

/-- A client that has not been ended can make any call. -/
theorem next_step (S : Strings) (s : ComponentSystem D) {e : Event J} (hclient : e.client ∉ s.ended) :
    ∃ t, next S s e = some t ∧ Step s e t := by
  have hdirect := call_direct (S := S) e
  unfold next
  rw [if_neg hclient]
  rcases hcall : e.impl.call S e.method with _ | ⟨service, call⟩
  · rw [hcall] at hdirect
    exact ⟨_, rfl, .ended hdirect.symm⟩
  · rw [hcall] at hdirect
    obtain ⟨status, htransact, hanswers⟩ := onTransact_spec s service.service.id call
    have htells := statusToError_tells hanswers e.error
    refine ⟨_, ?_, .called service.service.id call.deviceCall _ hdirect.symm rfl htells⟩
    simp only [htransact, Option.map_some]
    rfl

theorem next_ended (h : e.client ∈ s.ended) : next S s e = none := if_pos h

theorem step_of_next (h : next S s e = some t) : e.client ∉ s.ended ∧ Step s e t := by
  have hclient : e.client ∉ s.ended := by
    intro hended
    rw [next_ended hended] at h
    cases h
  obtain ⟨u, hu, hstep⟩ := next_step S s hclient
  obtain rfl := Option.some.inj (hu.symm.trans h)
  exact ⟨hclient, hstep⟩

/-! ## Results -/

/-- The components that have been added for a service, in their order. -/
def addedBy (calls : List DirectCall) (service : ℕ) : List String :=
  calls.flatMap fun c => if c.service = service then c.call.added c.reply.1 else []

/-- The system over binder stands for the device that is called directly. -/
structure Stands (s : ComponentSystem D) (t : DirectDevice D) : Prop where
  device : s.device = t.device
  results : List.Forall₂ Tells s.results (t.calls.map DirectCall.reply)
  components : ∀ service, s.components service = addedBy t.calls service

theorem Stands.answered {d : DirectDevice D} (h : Stands s d) {service : ℕ} {call : DeviceCall} {result : MethodResult}
    (htells : Tells result (D.run call s.device).1) :
    Stands { s.answered service call with results := s.results ++ [result] }
      { device := (D.run call d.device).2, calls := d.calls ++ [⟨service, call, (D.run call d.device).1⟩] } where
  device := by rw [← h.device]; rfl
  results := by
    rw [List.map_append, ← h.device]
    exact List.rel_append h.results (.cons htells .nil)
  components i := by
    have hold := h.components i
    unfold addedBy at hold ⊢
    rw [List.flatMap_append, ← hold, ← h.device]
    show Function.update s.components service _ i = _
    by_cases hi : service = i
    · subst hi
      rw [Function.update_self]
      simp
    · rw [Function.update_of_ne (Ne.symm hi)]
      simp [hi]

theorem binder_simulation (S : Strings) (J : JsonPaths) (D : WeaveDevice) :
    Simulation (machine S J D) (DirectDevice.machine D) (fun _ => True) Event.direct Stands where
  skip s t e s' h _ hskip hn := by
    cases (step_of_next hn).2 with
    | ended => exact ⟨h.device, h.results, h.components⟩
    | called service call result hdirect =>
      rw [hskip] at hdirect
      cases hdirect
  step s t e s' d h _ hdirect hn := by
    cases (step_of_next hn).2 with
    | ended hnone =>
      rw [hnone] at hdirect
      cases hdirect
    | called service call result hd hgiven htells =>
      rw [hd] at hdirect
      rw [← Option.some.inj hdirect]
      exact ⟨_, rfl, h.answered htells⟩

/-- The results are those of the methods that reach the device, with the errors they were given,
and the other ones have ended their clients. -/
theorem run_kept {es : List (Event J)} : ∀ {s t : ComponentSystem D}, (machine S J D).run s es = some t →
    t.results.map MethodResult.given =
        s.results.map MethodResult.given ++ (es.filter fun e => e.direct.isSome).map Event.error ∧
      ∀ c, c ∈ t.ended ↔ c ∈ s.ended ∨ ∃ e ∈ es, e.client = c ∧ e.direct = none := by
  induction es with
  | nil =>
    intro s t h
    cases h
    exact ⟨(List.append_nil _).symm, fun c => by simp⟩
  | cons e es ih =>
    intro s t h
    obtain ⟨u, hu, hrun⟩ := Option.bind_eq_some_iff.1 h
    obtain ⟨hresults, hended⟩ := ih hrun
    rw [hresults]
    refine ⟨?_, fun c => (hended c).trans ?_⟩
    all_goals cases (step_of_next hu).2 with
    | ended hnone => simp [hnone, or_assoc, or_left_comm, eq_comm]
    | called service call result hdirect hgiven htells => simp [hdirect, hgiven, answered]

/-- **Binder is transparent** in every run of calls of clients. The device gets the calls that the
methods stand for, in their order, and is in the state that these calls lead to; the clients get
its verdicts with the errors they gave, and each service lists what has been added through it. The
clients whose method stands for no call have been ended by a `CHECK`; all other ones can go on. -/
theorem binder_transparent {device : D.State} {es : List (Event J)}
    (h : (machine S J D).run { device } es = some s) :
    (∃ t, (DirectDevice.machine D).run { device } (es.filterMap Event.direct) = some t ∧
      s.device = t.device ∧ List.Forall₂ Tells s.results (t.calls.map DirectCall.reply) ∧
      ∀ service, s.components service = addedBy t.calls service) ∧
    s.results.map MethodResult.given = (es.filter fun e => e.direct.isSome).map Event.error ∧
    (∀ c, c ∈ s.ended ↔ ∃ e ∈ es, e.client = c ∧ e.direct = none) ∧
    ∀ e : Event J, (next S s e).isSome = true ↔ e.client ∉ s.ended := by
  have hstart : Stands ({ device } : ComponentSystem D) { device } := ⟨rfl, .nil, fun _ => rfl⟩
  obtain ⟨t, ht, hstands⟩ := (binder_simulation S J D).run hstart (fun _ _ => trivial) h
  obtain ⟨hgiven, hended⟩ := run_kept h
  refine ⟨⟨t, ht, hstands.device, hstands.results, hstands.components⟩, hgiven, fun c => ?_, fun e => ?_⟩
  · simpa using hended c
  · constructor
    · intro hsome hclient
      rw [next_ended hclient] at hsome
      cases hsome
    · intro hclient
      obtain ⟨u, hu, -⟩ := next_step S s hclient
      exact Option.isSome_iff_exists.2 ⟨u, hu⟩

/-- libweave refuses a component that is there already, and never removes one. -/
structure KeepsNames (D : WeaveDevice) (names : D.State → Set String) : Prop where
  added : ∀ name traits device, (D.run (.addComponent name traits) device).1.1 = true →
    name ∉ names device ∧ name ∈ names (D.run (.addComponent name traits) device).2
  kept : ∀ call device, names device ⊆ names (D.run call device).2

/-- Each component that is listed is listed once, and the device has it. -/
structure Disjoint (names : D.State → Set String) (s : ComponentSystem D) : Prop where
  nodup : ∀ service, (s.components service).Nodup
  disjoint : ∀ i j, i ≠ j → ∀ name ∈ s.components i, name ∉ s.components j
  named : ∀ service, ∀ name ∈ s.components service, name ∈ names s.device

theorem Disjoint.answered {names : D.State → Set String} (hD : KeepsNames D names) (h : Disjoint names s)
    (service : ℕ) (call : DeviceCall) : Disjoint names (s.answered service call) := by
  -- a name that is added is new to the device, and so to all services
  have hnew : ∀ name ∈ call.added (D.run call s.device).1.1,
      name ∈ names (D.run call s.device).2 ∧ ∀ i, name ∉ s.components i := by
    intro name hname
    rcases call with ⟨name', traits⟩ | ⟨component, json⟩
    · by_cases hsuccess : (D.run (.addComponent name' traits) s.device).1.1 = true
      · have heq : name = name' := by simpa [DeviceCall.added, hsuccess] using hname
        obtain ⟨hnot, hmem⟩ := hD.added name' traits s.device hsuccess
        rw [heq]
        exact ⟨hmem, fun i hi => hnot (h.named i name' hi)⟩
      · simp [DeviceCall.added, hsuccess] at hname
    · simp [DeviceCall.added] at hname
  have hself : (s.answered service call).components service =
      s.components service ++ call.added (D.run call s.device).1.1 := Function.update_self _ _ _
  have hother : ∀ i, i ≠ service → (s.answered service call).components i = s.components i :=
    fun i hi => Function.update_of_ne hi _ _
  have hadded : (call.added (D.run call s.device).1.1).Nodup := by
    rcases call with ⟨name', traits⟩ | ⟨component, json⟩
    · unfold DeviceCall.added
      dsimp only
      split
      · exact List.nodup_singleton _
      · exact List.nodup_nil
    · exact List.nodup_nil
  refine ⟨fun i => ?_, fun i j hij name hi hj => ?_, fun i name hi => ?_⟩
  · by_cases his : i = service
    · rw [his, hself]
      refine List.nodup_append.2 ⟨h.nodup service, hadded, ?_⟩
      rintro a ha b hb rfl
      exact (hnew a hb).2 service ha
    · rw [hother i his]
      exact h.nodup i
  · by_cases his : i = service
    · have hjs : j ≠ service := fun hjs => hij (his.trans hjs.symm)
      rw [hother j hjs] at hj
      rw [his, hself] at hi
      rcases List.mem_append.1 hi with hi | hi
      · exact h.disjoint service j (Ne.symm hjs) name hi hj
      · exact (hnew name hi).2 j hj
    · rw [hother i his] at hi
      by_cases hjs : j = service
      · rw [hjs, hself] at hj
        rcases List.mem_append.1 hj with hj | hj
        · exact h.disjoint i service his name hi hj
        · exact (hnew name hj).2 i hi
      · rw [hother j hjs] at hj
        exact h.disjoint i j hij name hi hj
  · have hkept := hD.kept call s.device
    by_cases his : i = service
    · rw [his, hself] at hi
      rcases List.mem_append.1 hi with hi | hi
      · exact hkept (h.named service name hi)
      · exact (hnew name hi).1
    · rw [hother i his] at hi
      exact hkept (h.named i name hi)

/-- **No component is listed twice**, for one service or for two, and the device has all of them. -/
theorem components_disjoint {names : D.State → Set String} (hD : KeepsNames D names)
    (h : (machine S J D).Reach s) : Disjoint names s := by
  refine Machine.ReachIf.invariant (P := Disjoint names) ?_ ?_ h
  · rintro s ⟨device, rfl⟩
    exact ⟨fun _ => List.nodup_nil, fun _ _ _ _ hi => absurd hi List.not_mem_nil,
      fun _ _ hi => absurd hi List.not_mem_nil⟩
  · intro s e t _ hs _ hn
    cases (step_of_next hn).2 with
    | ended => exact ⟨hs.nodup, hs.disjoint, hs.named⟩
    | called service call result =>
      have hdisjoint := hs.answered hD service call
      exact ⟨hdisjoint.nodup, hdisjoint.disjoint, hdisjoint.named⟩

/-- A device that knows its components by their names only. -/
def runNames : DeviceCall → List String → (Bool × ErrorPtr WeaveError) × List String
  | .addComponent name _, names =>
    if name ∈ names then ((false, some (.last ⟨"invalid_state", "Component already exists"⟩)), names)
    else ((true, none), names ++ [name])
  | .setStatePropertiesFromJson _ _, names => ((true, none), names)

theorem runNames_known {name : String} {names : List String} (h : name ∈ names) (traits : List String) :
    runNames (.addComponent name traits) names =
      ((false, some (.last ⟨"invalid_state", "Component already exists"⟩)), names) := if_pos h

theorem runNames_new {name : String} {names : List String} (h : name ∉ names) (traits : List String) :
    runNames (.addComponent name traits) names = ((true, none), names ++ [name]) := if_neg h

def nameDevice : WeaveDevice where
  State := List String
  run := runNames
  error_of_false call names h := by
    rcases call with ⟨name, traits⟩ | ⟨component, json⟩
    · by_cases hmem : name ∈ names
      · rw [runNames_known hmem]
        rfl
      · rw [runNames_new hmem] at h
        cases h
    · cases h

/-- The names that a device has. -/
def nameSet (names : nameDevice.State) : Set String := {name | List.Mem name names}

theorem nameDevice_keeps : KeepsNames nameDevice nameSet where
  added name traits names h := by
    by_cases hmem : List.Mem name names
    · have hrun : (nameDevice.run (.addComponent name traits) names).1.1 = false :=
        congrArg (fun r => r.1.1) (runNames_known hmem traits)
      rw [hrun] at h
      cases h
    · have hrun : nameDevice.run (.addComponent name traits) names = _ := runNames_new hmem traits
      rw [hrun]
      exact ⟨hmem, List.mem_append_right _ List.mem_cons_self⟩
  kept call names name hname := by
    rcases call with ⟨name', traits⟩ | ⟨component, json⟩
    · by_cases hmem : List.Mem name' names
      · have hrun : nameDevice.run (.addComponent name' traits) names = _ := runNames_known hmem traits
        rw [hrun]
        exact hname
      · have hrun : nameDevice.run (.addComponent name' traits) names = _ := runNames_new hmem traits
        rw [hrun]
        exact List.mem_append_left _ hname
    · exact hname

/-- A client that has its service. -/
def connectedImpl (client : ℕ) : ServiceImpl where
  id := 0
  weaveServiceManager := some 1
  weaveService := some ⟨1, ⟨client, 0, ⟨client, 0, 0⟩⟩⟩

/-- The empty dictionaries of `Json.empties`. -/
def noPaths : JsonPaths := { Json.empties with set := fun _ _ _ => () }

/-- Two clients add a lock, and a third one sets the state of a component without a name. -/
def lockRun : List (Event noPaths) :=
  [⟨0, connectedImpl 0, .addComponent "lock" ["lock"], none⟩, ⟨1, connectedImpl 1, .addComponent "lock" ["lock"], none⟩,
    ⟨2, connectedImpl 2, .setStateProperties "" (), none⟩]

def lockStart : ComponentSystem nameDevice := { device := ([] : List String) }

def lockEnd : ComponentSystem nameDevice :=
  ((machine Strings.plain noPaths nameDevice).run lockStart lockRun).get (by decide +kernel)

theorem lockEnd_run : (machine Strings.plain noPaths nameDevice).run lockStart lockRun = some lockEnd :=
  (Option.some_get _).symm

example : lockEnd.results.map MethodResult.success = [true, false] ∧ lockEnd.ended = [2] := by
  decide +kernel

theorem binder_transparent_test :
    (∃ t, (DirectDevice.machine nameDevice).run { device := ([] : List String) } (lockRun.filterMap Event.direct) =
        some t ∧
      lockEnd.device = t.device ∧ List.Forall₂ Tells lockEnd.results (t.calls.map DirectCall.reply) ∧
      ∀ service, lockEnd.components service = addedBy t.calls service) ∧
    lockEnd.results.map MethodResult.given = (lockRun.filter fun e => e.direct.isSome).map Event.error ∧
    (∀ c, c ∈ lockEnd.ended ↔ ∃ e ∈ lockRun, e.client = c ∧ e.direct = none) ∧
    ∀ e : Event noPaths, (next Strings.plain lockEnd e).isSome = true ↔ e.client ∉ lockEnd.ended :=
  binder_transparent lockEnd_run

theorem components_disjoint_test : Disjoint nameSet lockEnd :=
  components_disjoint nameDevice_keeps (Machine.run_reach (.start ⟨_, rfl⟩) lockEnd_run)

end ComponentSystem

end SystemWeaved
