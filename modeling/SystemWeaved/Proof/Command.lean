import SystemWeaved.Spec.Command

/-!
# What a client sees of a command, and what it can do to it

* `agrees_iff`: the observers of a client's `Command` report what the live command reports
  exactly if the name and the component of the command are its id and its origin is
  local, since `GetName` and `GetComponent` ask for the id and `GetOrigin` for the state
  (`jump_command`).
* `command_mutations`: a call is either executed once, with its decoded arguments, or does
  nothing and fails; the client learns which.
-/

namespace SystemWeaved

variable {S : Strings} {J : Json} {W : WeaveCommand J} {E : EnumToString} {proxy : BinderCommandProxy W}

/-- Whatever the text is, the receiver has its part before the first NUL. -/
theorem Strings.toString_toString16_eq_cStr (value : String) :
    S.ToString (S.ToString16 value) = cStr value := by
  have hfree := nulFree_cStr value
  unfold Strings.ToString Strings.ToString16
  rw [S.toUtf8_ofUtf8 _ hfree, cStr_eq hfree]

theorem Json.toString_toString16 (dict : J.Dictionary) :
    S.ToString (J.ToString16 S dict) = J.write (J.ofDictionary dict) :=
  Strings.toString_toString16 S (J.write_nulFree _)

/-- A dictionary goes over binder unchanged. -/
theorem parseDictionary_toString16 (dict : J.Dictionary) :
    parseDictionary S J (J.ToString16 S dict) = .ok dict := by
  unfold parseDictionary
  rw [Json.toString_toString16, J.read_write]
  simp only [J.getAsDictionary_ofDictionary]

namespace Command

/-- The client's objects for a command with these parameters: new ones, and those that have
been asked for the parameters since, whatever else has changed. -/
inductive Opened (S : Strings) (W : WeaveCommand J) (params : J.Dictionary) : Command J → Prop
  | made : Opened S W params {}
  | read {c : Command J} {proxy : BinderCommandProxy W} {command : W.State} (h : Opened S W params c)
      (hlive : proxy.command = some command) (hparams : W.getParameters command = params) :
      Opened S W params (c.getParameters S proxy).2

/-- All observers report what the live command reports. -/
structure Agrees (S : Strings) (E : EnumToString) (proxy : BinderCommandProxy W) (c : Command J)
    (command : W.State) : Prop where
  id : getID S proxy = W.getID command
  name : getName S proxy = W.getName command
  component : getComponent S proxy = W.getComponent command
  state : getState S E proxy = W.getState command
  origin : getOrigin S E proxy = W.getOrigin command
  parameters : (c.getParameters S proxy).1 = W.getParameters command

variable {command : W.State} {c : Command J}

theorem getID_eq (hlive : proxy.command = some command) (hid : NulFree (W.getID command)) :
    getID S proxy = W.getID command := by
  unfold getID BinderCommandProxy.getId BinderCommandProxy.get
  rw [hlive]
  exact Strings.toString_toString16 S hid

theorem nulFree_ofState (state : CommandState) : NulFree (E.ofState state) := by
  cases state
  · rw [E.queued]; decide +kernel
  · rw [E.inProgress]; decide +kernel
  · rw [E.paused]; decide +kernel
  · rw [E.error]; decide +kernel
  · rw [E.done]; decide +kernel
  · rw [E.cancelled]; decide +kernel
  · rw [E.aborted]; decide +kernel
  · rw [E.expired]; decide +kernel

theorem assign_getState (hlive : proxy.command = some command) :
    assign S (proxy.getState E) = E.ofState (W.getState command) := by
  unfold BinderCommandProxy.getState BinderCommandProxy.get
  rw [hlive]
  exact Strings.toString_toString16 S (nulFree_ofState _)

/-- The comparisons of `GetState` undo `EnumToString`. -/
theorem getState_eq (hlive : proxy.command = some command) :
    getState S E proxy = W.getState command := by
  unfold getState
  rw [assign_getState hlive]
  cases W.getState command <;>
    simp [E.queued, E.inProgress, E.paused, E.error, E.done, E.cancelled, E.aborted, E.expired]

/-- No state is called like an origin. -/
theorem getOrigin_eq (hlive : proxy.command = some command) : getOrigin S E proxy = .kLocal := by
  unfold getOrigin
  rw [assign_getState hlive]
  cases W.getState command <;>
    simp [E.queued, E.inProgress, E.paused, E.error, E.done, E.cancelled, E.aborted, E.expired]

theorem getParameters_new (hlive : proxy.command = some command) :
    ({} : Command J).getParameters S proxy =
      (W.getParameters command, { parameterCache := some (W.getParameters command) }) := by
  have hparams : proxy.getParameters (S := S) = .ok (J.ToString16 S (W.getParameters command)) := by
    unfold BinderCommandProxy.getParameters BinderCommandProxy.get
    rw [hlive]
  unfold getParameters
  simp only [hparams, parseDictionary_toString16]

/-- The cache is empty or has the parameters. -/
theorem Opened.parameterCache {params : J.Dictionary} (h : Opened S W params c) :
    c = {} ∨ c = { parameterCache := some params } := by
  induction h with
  | made => exact .inl rfl
  | read h hlive hparams ih =>
    obtain rfl | rfl := ih
    · rw [getParameters_new hlive, hparams]
      exact .inr rfl
    · exact .inr rfl

theorem getParameters_eq (hlive : proxy.command = some command)
    (hc : Opened S W (W.getParameters command) c) :
    (c.getParameters S proxy).1 = W.getParameters command := by
  obtain rfl | rfl := hc.parameterCache
  · rw [getParameters_new hlive]
  · rfl

/-- **The client sees the command as it is** exactly if name and component are the id and
the origin is local. -/
theorem agrees_iff (hlive : proxy.command = some command) (hid : NulFree (W.getID command))
    (hc : Opened S W (W.getParameters command) c) :
    Agrees S E proxy c command ↔
      W.getName command = W.getID command ∧ W.getComponent command = W.getID command ∧
        W.getOrigin command = .kLocal := by
  have hgetID := getID_eq (S := S) hlive hid
  have hgetOrigin := getOrigin_eq (S := S) (E := E) hlive
  constructor
  · intro h
    have hname : W.getName command = W.getID command := h.name.symm.trans hgetID
    have hcomponent : W.getComponent command = W.getID command := h.component.symm.trans hgetID
    exact ⟨hname, hcomponent, h.origin.symm.trans hgetOrigin⟩
  · rintro ⟨hname, hcomponent, horigin⟩
    exact {
      id := hgetID
      name := hgetID.trans hname.symm
      component := hgetID.trans hcomponent.symm
      state := getState_eq hlive
      origin := hgetOrigin.trans horigin.symm
      parameters := getParameters_eq hlive hc }

end Command

/-- The JSON texts `{}` and `[]`; no other text is JSON. -/
inductive EmptyJson
  | dictionary
  | list

/-- The JSON of commands without parameters. -/
def Json.empties : Json where
  Value := EmptyJson
  Dictionary := Unit
  ofDictionary _ := .dictionary
  getAsDictionary
    | .dictionary => some ()
    | .list => none
  empty := ()
  write
    | .dictionary => "{}"
    | .list => "[]"
  readAndReturnError json :=
    if json = "{}" then .ok .dictionary
    else if json = "[]" then .ok .list
    else .error (2, "Line: 1, column: 1, Syntax error.")
  getAsDictionary_ofDictionary _ := rfl
  write_nulFree value := by cases value <;> decide +kernel
  read_write _ := rfl

/-- What a command without parameters reports. -/
structure EmptyCommand where
  id : String
  name : String
  component : String
  state : CommandState := .kQueued
  origin : CommandOrigin := .kLocal

/-- Commands that take progress and can be cancelled, but not aborted. -/
def emptyCommands : WeaveCommand Json.empties where
  State := EmptyCommand
  getID command := command.id
  getName command := command.name
  getComponent command := command.component
  getState command := command.state
  getOrigin command := command.origin
  getParameters _ := ()
  getProgress _ := ()
  getResults _ := ()
  run operation command :=
    match operation with
    | .setProgress _ => ((true, none), { command with state := .kInProgress })
    | .cancel => ((true, none), { command with state := .kCancelled })
    | _ => ((false, some (.last ⟨"invalid_state", "State switch impossible"⟩)), command)
  error_of_false operation command h := by
    cases operation
    case setProgress => cases h
    case cancel => cases h
    all_goals rfl

/-- The names of the states and origins. -/
def commandNames : EnumToString where
  ofState
    | .kQueued => "queued"
    | .kInProgress => "inProgress"
    | .kPaused => "paused"
    | .kError => "error"
    | .kDone => "done"
    | .kCancelled => "cancelled"
    | .kAborted => "aborted"
    | .kExpired => "expired"
  ofOrigin
    | .kLocal => "local"
    | .kCloud => "cloud"
  queued := rfl
  inProgress := rfl
  paused := rfl
  error := rfl
  done := rfl
  cancelled := rfl
  aborted := rfl
  expired := rfl
  ofLocal := rfl
  ofCloud := rfl

def jumpCommand : EmptyCommand := { id := "cmd_1", name := "robot.jump", component := "myComponent" }

def jumpProxy : BinderCommandProxy emptyCommands := { command := some jumpCommand }

namespace Command

theorem agrees_iff_test :
    Agrees Strings.plain commandNames jumpProxy {} jumpCommand ↔
      emptyCommands.getName jumpCommand = emptyCommands.getID jumpCommand ∧
        emptyCommands.getComponent jumpCommand = emptyCommands.getID jumpCommand ∧
          emptyCommands.getOrigin jumpCommand = .kLocal :=
  agrees_iff rfl
    (by show NulFree "cmd_1"; decide +kernel) .made

/-- The client is told that the name of this command is its id. -/
theorem jump_command :
    ¬∀ (S : Strings) (J : Json) (W : WeaveCommand J) (E : EnumToString) (proxy : BinderCommandProxy W)
      (command : W.State) (c : Command J), proxy.command = some command →
      NulFree (W.getID command) → NulFree (W.getName command) → NulFree (W.getComponent command) →
      Opened S W (W.getParameters command) c → Agrees S E proxy c command := by
  intro hall
  have h := hall Strings.plain Json.empties emptyCommands commandNames jumpProxy jumpCommand {} rfl
    (by decide +kernel) (by decide +kernel) (by decide +kernel) .made
  have hname : getName Strings.plain jumpProxy = "robot.jump" := h.name
  have hlive : jumpProxy.command = some jumpCommand := rfl
  have hid : getName Strings.plain jumpProxy = "cmd_1" :=
    getID_eq hlive (by decide +kernel)
  rw [hid] at hname
  exact absurd hname (by decide)

end Command

/-! ## What a client can do to a command -/

/-- The dictionary that a text is, if it is one. -/
def dictionary (S : Strings) (J : Json) (text : S.String16) : Option J.Dictionary :=
  match J.readAndReturnError (S.ToString text) with
  | .ok value => J.getAsDictionary value
  | .error _ => none

/-- The operation that a call asks for, with its decoded arguments. -/
def CommandCall.operation (J : Json) : CommandCall S → Option (Operation J)
  | .setProgress progress => (dictionary S J progress).map .setProgress
  | .complete results => (dictionary S J results).map .complete
  | .abort errorCode errorMessage => some (.abort (some (.last ⟨S.ToString errorCode, S.ToString errorMessage⟩)))
  | .cancel => some .cancel
  | .pause => some .pause
  | .setError errorCode errorMessage =>
    some (.setError (some (.last ⟨S.ToString errorCode, S.ToString errorMessage⟩)))

/-- The operation that a method stands for. Its texts are C strings. -/
def CommandMethod.operation : CommandMethod J → Operation J
  | .setProgress progress => .setProgress progress
  | .complete results => .complete results
  | .abort errorCode errorMessage => .abort (some (.last ⟨cStr errorCode, cStr errorMessage⟩))
  | .cancel => .cancel
  | .pause => .pause
  | .setError errorCode errorMessage => .setError (some (.last ⟨cStr errorCode, cStr errorMessage⟩))

/-- The proxy after the operation has been invoked on its command, once. -/
def BinderCommandProxy.invoked1 (proxy : BinderCommandProxy W) (command : W.State) (operation : Operation J) :
    BinderCommandProxy W :=
  { command := some (W.run operation command).2, invoked := proxy.invoked ++ [operation] }

/-- The status tells what an operation has returned. -/
structure Answers (status : Status) (reply : Bool × ErrorPtr WeaveError) : Prop where
  isOk : status.isOk = reply.1
  failed : reply.1 = false → ∃ error, reply.2 = some error ∧
    status = .fromServiceSpecificError 1 error.outer.message

/-- A call of a live command that asks for an operation has it invoked; any other call
changes nothing and fails. -/
def Exact (proxy : BinderCommandProxy W) (call : CommandCall S) : Prop :=
  ∃ status proxy', proxy.onTransact call = some (status, proxy') ∧
    ((∃ command operation, proxy.command = some command ∧ call.operation J = some operation ∧
        proxy' = proxy.invoked1 command operation ∧ Answers status (W.run operation command).1) ∨
      ((proxy.command = none ∨ call.operation J = none) ∧ proxy' = proxy ∧ status.isOk = false))

theorem toStatus_answers {reply : Bool × ErrorPtr WeaveError} (h : reply.1 = false → reply.2.isSome) :
    ∃ status, toStatus reply.1 reply.2 = some status ∧ Answers status reply := by
  obtain ⟨success, error⟩ := reply
  unfold toStatus
  cases success with
  | true => exact ⟨.ok, rfl, Status.isOk_ok, fun hfalse => (by cases hfalse)⟩
  | false =>
    obtain ⟨e, he⟩ := Option.isSome_iff_exists.1 (h rfl)
    dsimp only at he
    subst he
    exact ⟨_, rfl, Status.isOk_fromServiceSpecificError _ _, fun _ => ⟨e, rfl, rfl⟩⟩

/-- An operation that is invoked returns, with a status that tells what it has returned. -/
theorem invoke_answers (proxy : BinderCommandProxy W) (command : W.State) (operation : Operation J) :
    ∃ status, proxy.invoke command operation = some (status, proxy.invoked1 command operation) ∧
      Answers status (W.run operation command).1 := by
  obtain ⟨status, hstatus, hanswers⟩ := toStatus_answers (W.error_of_false operation command)
  refine ⟨status, ?_, hanswers⟩
  unfold BinderCommandProxy.invoke BinderCommandProxy.invoked1
  simp only [hstatus, Option.map_some]

theorem parseDictionary_cases (text : S.String16) :
    (∃ dict, parseDictionary S J text = .ok dict ∧ dictionary S J text = some dict) ∨
      ∃ status, parseDictionary S J text = .error status ∧ dictionary S J text = none ∧ status.isOk = false := by
  unfold parseDictionary dictionary
  cases J.readAndReturnError (S.ToString text) with
  | error e => exact .inr ⟨_, rfl, rfl, Status.isOk_fromServiceSpecificError _ _⟩
  | ok value =>
    dsimp only
    cases J.getAsDictionary value with
    | none => exact .inr ⟨_, rfl, rfl, Status.isOk_fromServiceSpecificError _ _⟩
    | some dict => exact .inl ⟨dict, rfl, rfl⟩

/-- The calls whose arguments are no dictionaries. -/
theorem exact_ifAlive {call : CommandCall S} {operation : Operation J}
    (hcall : proxy.onTransact call = proxy.invokeIfAlive operation)
    (hop : call.operation J = some operation) : Exact proxy call := by
  unfold Exact
  rw [hcall]
  unfold BinderCommandProxy.invokeIfAlive
  cases hc : proxy.command with
  | none => exact ⟨_, _, rfl, .inr ⟨.inl rfl, rfl, rfl⟩⟩
  | some command =>
    obtain ⟨status, hinvoke, hanswers⟩ := invoke_answers proxy command operation
    exact ⟨status, _, hinvoke, .inl ⟨command, operation, rfl, hop, rfl, hanswers⟩⟩

/-- The calls with a dictionary. -/
theorem exact_withDictionary {call : CommandCall S} {text : S.String16} {operation : J.Dictionary → Operation J}
    (hcall : proxy.onTransact call = proxy.invokeWithDictionary text operation)
    (hop : call.operation J = (dictionary S J text).map operation) : Exact proxy call := by
  unfold Exact
  rw [hcall, hop]
  unfold BinderCommandProxy.invokeWithDictionary
  cases hc : proxy.command with
  | none => exact ⟨_, _, rfl, .inr ⟨.inl rfl, rfl, rfl⟩⟩
  | some command =>
    rcases parseDictionary_cases (J := J) text with ⟨dict, hparse, hdict⟩ | ⟨status, hparse, hdict, hstatus⟩
    · obtain ⟨status, hinvoke, hanswers⟩ := invoke_answers proxy command (operation dict)
      simp only [hparse, hdict]
      exact ⟨status, _, hinvoke, .inl ⟨command, operation dict, rfl, rfl, rfl, hanswers⟩⟩
    · simp only [hparse, hdict]
      exact ⟨status, proxy, rfl, .inr ⟨.inr rfl, rfl, hstatus⟩⟩

theorem onTransact_exact (proxy : BinderCommandProxy W) (call : CommandCall S) : Exact proxy call := by
  cases call with
  | setProgress progress => exact exact_withDictionary rfl rfl
  | complete results => exact exact_withDictionary rfl rfl
  | abort errorCode errorMessage => exact exact_ifAlive rfl rfl
  | cancel => exact exact_ifAlive rfl rfl
  | pause => exact exact_ifAlive rfl rfl
  | setError errorCode errorMessage => exact exact_ifAlive rfl rfl

theorem dictionary_toString16 (dict : J.Dictionary) : dictionary S J (J.ToString16 S dict) = some dict := by
  unfold dictionary
  rw [Json.toString_toString16, J.read_write]
  exact J.getAsDictionary_ofDictionary dict

/-- The arguments of a method arrive. -/
theorem request_operation (method : CommandMethod J) :
    (Command.request S method).operation J = some method.operation := by
  cases method with
  | setProgress progress =>
    show (dictionary S J (J.ToString16 S progress)).map _ = _
    rw [dictionary_toString16]
    rfl
  | complete results =>
    show (dictionary S J (J.ToString16 S results)).map _ = _
    rw [dictionary_toString16]
    rfl
  | abort errorCode errorMessage =>
    simp only [Command.request, CommandCall.operation, Strings.toString_toString16_eq_cStr,
      CommandMethod.operation]
  | cancel => rfl
  | pause => rfl
  | setError errorCode errorMessage =>
    simp only [Command.request, CommandCall.operation, Strings.toString_toString16_eq_cStr,
      CommandMethod.operation]

/-- What a method has done and reports: it returns true exactly if its operation has been
executed and has returned true. If the operation has failed, the error of the client is
wrapped into one with the message of that failure. -/
structure Reports (proxy proxy' : BinderCommandProxy W) (method : CommandMethod J) (success : Bool)
    (error error' : ErrorPtr BrilloError) : Prop where
  success_iff : success = true ↔ ∃ command, proxy.command = some command ∧
    proxy' = proxy.invoked1 command method.operation ∧ (W.run method.operation command).1.1 = true
  invoked : ∀ command, proxy.command = some command → proxy' = proxy.invoked1 command method.operation
  failed : ∀ command, proxy.command = some command → (W.run method.operation command).1.1 = false →
    ∃ e message, (W.run method.operation command).1.2 = some e ∧
      error' = addTo error ⟨"binder", toString Status.EX_SERVICE_SPECIFIC, message⟩ ∧
      message = cStr e.outer.message ∧ (NulFree e.outer.message → message = e.outer.message)
  destroyed : proxy.command = none → proxy' = proxy ∧ error'.isSome

/-- A method returns, and reports what it has done. -/
def Reported (S : Strings) (proxy : BinderCommandProxy W) (method : CommandMethod J)
    (error : ErrorPtr BrilloError) : Prop :=
  ∃ success error' proxy', Command.execute S proxy method error = some ((success, error'), proxy') ∧
    Reports proxy proxy' method success error error'

theorem statusToError_fst (status : Status) (error : ErrorPtr BrilloError) :
    (statusToError status error).1 = status.isOk := by
  unfold statusToError
  cases status.isOk <;> rfl

theorem execute_reported (proxy : BinderCommandProxy W) (method : CommandMethod J)
    (error : ErrorPtr BrilloError) : Reported S proxy method error := by
  obtain ⟨status, proxy', htransact, hcases⟩ := onTransact_exact proxy (Command.request S method)
  have hexecute : Command.execute S proxy method error = some (statusToError status error, proxy') := by
    unfold Command.execute Command.call
    rw [htransact]
    rfl
  refine ⟨(statusToError status error).1, (statusToError status error).2, proxy', hexecute, ?_⟩
  have hsuccess := statusToError_fst status error
  rcases hcases with ⟨command, operation, hc, hop, rfl, hanswers⟩ | ⟨hnone, rfl, hstatus⟩
  · -- the command is alive, and the request asks for the operation of the method
    rw [request_operation] at hop
    cases hop
    rw [hanswers.isOk] at hsuccess
    constructor
    case success_iff =>
      rw [hsuccess]
      constructor
      · intro hreply
        exact ⟨command, hc, rfl, hreply⟩
      · rintro ⟨command', hc', -, hreply⟩
        rw [hc] at hc'
        cases hc'
        exact hreply
    case invoked =>
      intro command' hc'
      rw [hc] at hc'
      cases hc'
      rfl
    case failed =>
      intro command' hc' hreply
      rw [hc] at hc'
      cases hc'
      obtain ⟨e, he, rfl⟩ := hanswers.failed hreply
      exact ⟨e, _, he, rfl, rfl, cStr_eq⟩
    case destroyed =>
      intro hdead
      rw [hc] at hdead
      cases hdead
  · -- a method always asks for an operation, so the command is destroyed
    have hdead : proxy'.command = none := by
      rcases hnone with hdead | hop
      · exact hdead
      · rw [request_operation] at hop
        cases hop
    have halive : ∀ command, proxy'.command ≠ some command := by
      intro command hc
      rw [hdead] at hc
      cases hc
    constructor
    case success_iff =>
      rw [hsuccess, hstatus]
      constructor
      · intro h
        cases h
      · rintro ⟨command, hc, -⟩
        exact absurd hc (halive command)
    case invoked => exact fun command hc => absurd hc (halive command)
    case failed => exact fun command hc => absurd hc (halive command)
    case destroyed =>
      intro _
      refine ⟨rfl, ?_⟩
      unfold statusToError
      rw [hstatus]
      exact addTo_isSome _ _

/-- **Commands are changed exactly, or not at all**, and the client learns which. -/
theorem command_mutations (proxy : BinderCommandProxy W) :
    (∀ call : CommandCall S, Exact proxy call) ∧
      ∀ (method : CommandMethod J) (error : ErrorPtr BrilloError), Reported S proxy method error :=
  ⟨onTransact_exact proxy, execute_reported proxy⟩

/-- A text that is JSON but not a dictionary is refused, with the code 0. -/
example : (jumpProxy.onTransact (S := Strings.plain) (.setProgress "[]")).map Prod.fst =
    some ⟨-8, 0, ""⟩ := by
  decide +kernel

end SystemWeaved
