import SystemWeaved.Proof.Components
import SystemWeaved.Spec.RemoteCommand

/-!
# A remote command stands for the command

* `command_transparent`: whatever a client does with its `Command`, and whatever libweave does with
  the command meanwhile, the command gets the operations as if the client had it, the client
  gets its answers, identifier and state, and `GetParameters` keeps to what it has read first.
* `refusal_passed_on`: what libweave has refused comes back to it with the code of binder.
-/

namespace SystemWeaved

variable {S : Strings} {E : EnumToString} {J : Json} {W : WeaveCommand J}

/-- The method that a request is in the end. -/
def CommandRequest.toMethod : CommandRequest J → CommandMethod J
  | .method m => m
  | .abortWithCustomError commandError => .abort commandError.errorCode commandError.errorMessage
  | .setCustomError commandError => .setError commandError.errorCode commandError.errorMessage

theorem Command.run_eq (proxy : BinderCommandProxy W) (request : CommandRequest J) (error : ErrorPtr BrilloError) :
    Command.run S proxy error request = Command.execute S proxy request.toMethod error := by
  cases request <;> rfl

/-- A call of a command that is gone. -/
theorem BinderCommandProxy.onTransact_destroyed {proxy : BinderCommandProxy W} (hdead : proxy.command = none)
    (call : CommandCall S) : proxy.onTransact call = some (reportDestroyedError, proxy) := by
  cases call with
  | setProgress progress =>
    show proxy.invokeWithDictionary progress .setProgress = _
    unfold invokeWithDictionary
    rw [hdead]
  | complete results =>
    show proxy.invokeWithDictionary results .complete = _
    unfold invokeWithDictionary
    rw [hdead]
  | abort errorCode errorMessage =>
    show proxy.invokeIfAlive _ = _
    unfold invokeIfAlive
    rw [hdead]
  | cancel =>
    show proxy.invokeIfAlive _ = _
    unfold invokeIfAlive
    rw [hdead]
  | pause =>
    show proxy.invokeIfAlive _ = _
    unfold invokeIfAlive
    rw [hdead]
  | setError errorCode errorMessage =>
    show proxy.invokeIfAlive _ = _
    unfold invokeIfAlive
    rw [hdead]

/-- What a method of `Command` returns tells what the command has answered, or that it is gone. -/
structure Told (result : MethodResult) (answer : DirectReply) : Prop where
  given : result.given = answer.given
  alive : ∀ reply, answer.reply = some reply → ComponentSystem.Tells result reply
  gone : answer.reply = none → result.success = false ∧
    result.error = addTo result.given ⟨"binder", toString Status.EX_SERVICE_SPECIFIC, "Command has been destroyed"⟩

/-- A request to a command that is alive. -/
theorem run_alive {proxy : BinderCommandProxy W} {command : W.State} (hlive : proxy.command = some command)
    (request : CommandRequest J) (error : ErrorPtr BrilloError) :
    ∃ success error', Command.run S proxy error request =
        some ((success, error'), proxy.invoked1 command request.toMethod.operation) ∧
      Told ⟨error, success, error'⟩ ⟨error, some (W.run request.toMethod.operation command).1⟩ := by
  rw [Command.run_eq]
  obtain ⟨status, proxy', htransact, hcases⟩ := onTransact_exact proxy (Command.request S request.toMethod)
  rcases hcases with ⟨command', operation, hc, hop, rfl, hanswers⟩ | ⟨hnone, -, -⟩
  · rw [request_operation] at hop
    cases hop
    cases hlive.symm.trans hc
    refine ⟨(statusToError status error).1, (statusToError status error).2, ?_, ?_⟩
    · unfold Command.execute Command.call
      rw [htransact]
      rfl
    · refine ⟨rfl, ?_, fun hnone => absurd hnone (Option.some_ne_none _)⟩
      rintro reply ⟨⟩
      exact ComponentSystem.statusToError_tells hanswers error
  · rcases hnone with hdead | hop
    · cases hlive.symm.trans hdead
    · rw [request_operation] at hop
      cases hop

/-- A request to a command that is gone. -/
theorem run_destroyed {proxy : BinderCommandProxy W} (hdead : proxy.command = none) (request : CommandRequest J)
    (error : ErrorPtr BrilloError) :
    ∃ success error', Command.run S proxy error request = some ((success, error'), proxy) ∧
      Told ⟨error, success, error'⟩ ⟨error, none⟩ := by
  rw [Command.run_eq]
  unfold Command.execute Command.call
  rw [BinderCommandProxy.onTransact_destroyed hdead]
  refine ⟨_, _, rfl, rfl, ?_, fun _ => ⟨rfl, rfl⟩⟩
  rintro reply ⟨⟩

namespace RemoteCommand

/-- What an event does to the command. -/
def Event.direct : Event W → DirectCommand.Event W
  | .request r error => .invoke r.toMethod.operation error
  | .getID => .readID
  | .getState => .readState
  | .getParameters => .read
  | .changed command => .changed command
  | .destroyed => .destroyed

/-- The remote command stands for the one that the client has. -/
structure StandsFor (s : RemoteCommand W) (t : DirectCommand W) : Prop where
  command : s.proxy.command = t.command
  invoked : s.proxy.invoked = t.invoked
  results : List.Forall₂ Told s.results t.replies
  ids : s.ids = t.ids
  states : s.states = t.states
  snapshot : s.command.parameterCache = t.snapshot
  parameters : s.parameters = t.parameters

variable {s : RemoteCommand W} {t : DirectCommand W}

/-- `GetID` reads what the client would read itself. -/
theorem getID_read (h : StandsFor s t) : Command.getID S s.proxy = t.id := by
  unfold DirectCommand.id Command.getID BinderCommandProxy.getId BinderCommandProxy.get
  rw [← h.command]
  rcases s.proxy.command with _ | command
  · rfl
  · exact Strings.toString_toString16_eq_cStr (W.getID command)

/-- So does `GetState`. -/
theorem getState_read (h : StandsFor s t) : Command.getState S E s.proxy = t.state := by
  unfold DirectCommand.state
  rw [← h.command]
  rcases hcommand : s.proxy.command with _ | command
  · -- an empty text is the name of no state
    have hassign : Command.assign S (s.proxy.getState E) = "" := by
      unfold BinderCommandProxy.getState BinderCommandProxy.get
      rw [hcommand]
      rfl
    unfold Command.getState
    rw [hassign]
    rfl
  · exact Command.getState_eq hcommand

/-- `GetParameters` does, too. -/
theorem getParameters_read (h : StandsFor s t) :
    s.command.getParameters S s.proxy = (t.read, { parameterCache := some t.read }) := by
  have hsnapshot := h.snapshot
  unfold DirectCommand.read Command.getParameters
  rcases hcache : s.command.parameterCache with _ | parameters
  · rw [hcache] at hsnapshot
    rw [← hsnapshot, ← h.command]
    rcases hcommand : s.proxy.command with _ | command
    · simp [BinderCommandProxy.getParameters, BinderCommandProxy.get, hcommand]
    · simp [BinderCommandProxy.getParameters, BinderCommandProxy.get, hcommand, parseDictionary_toString16]
  · rw [hcache] at hsnapshot
    rw [← hsnapshot]
    have hcommand : s.command = { parameterCache := some parameters } := by
      rw [← hcache]
    rw [hcommand]

theorem request_lockstep (h : StandsFor s t) (request : CommandRequest J) (error : ErrorPtr BrilloError) :
    Option.Rel StandsFor (next S E s (.request request error))
      ((DirectCommand.machine W).next t (.invoke request.toMethod.operation error)) := by
  rcases hcommand : s.proxy.command with _ | command
  · obtain ⟨success, error', hrun, htold⟩ := run_destroyed (S := S) hcommand request error
    have ht : t.command = none := h.command.symm.trans hcommand
    simp only [next, hrun, Option.map_some, DirectCommand.machine, ht]
    refine .some ⟨hcommand, h.invoked, ?_, h.ids, h.states, h.snapshot, h.parameters⟩
    exact List.rel_append h.results (.cons htold .nil)
  · obtain ⟨success, error', hrun, htold⟩ := run_alive (S := S) hcommand request error
    have ht : t.command = some command := h.command.symm.trans hcommand
    simp only [next, hrun, Option.map_some, DirectCommand.machine, ht]
    refine .some ⟨rfl, ?_, ?_, h.ids, h.states, h.snapshot, h.parameters⟩
    · show s.proxy.invoked ++ [request.toMethod.operation] = _
      rw [h.invoked]
    · exact List.rel_append h.results (.cons htold .nil)

theorem next_lockstep (S : Strings) (E : EnumToString) (W : WeaveCommand J) :
    Lockstep (machine S E W) (DirectCommand.machine W) Event.direct StandsFor := by
  intro s t e h
  cases e with
  | request request error => exact request_lockstep (E := E) h request error
  | getID =>
    refine .some ⟨h.command, h.invoked, h.results, ?_, h.states, h.snapshot, h.parameters⟩
    show s.ids ++ [Command.getID S s.proxy] = t.ids ++ [t.id]
    rw [h.ids, getID_read h]
  | getState =>
    refine .some ⟨h.command, h.invoked, h.results, h.ids, ?_, h.snapshot, h.parameters⟩
    show s.states ++ [Command.getState S E s.proxy] = t.states ++ [t.state]
    rw [h.states, getState_read h]
  | getParameters =>
    have hnext : next S E s .getParameters = some { s with
        command := { parameterCache := some t.read }, parameters := s.parameters ++ [t.read] } := by
      simp only [next, getParameters_read h]
    show Option.Rel StandsFor (next S E s .getParameters) _
    rw [hnext]
    refine .some ⟨h.command, h.invoked, h.results, h.ids, h.states, rfl, ?_⟩
    show s.parameters ++ [t.read] = t.parameters ++ [t.read]
    rw [h.parameters]
  | changed command =>
    show Option.Rel StandsFor (if s.proxy.command.isSome then _ else none) (if t.command.isSome then _ else none)
    rw [h.command]
    split
    · exact .some ⟨rfl, h.invoked, h.results, h.ids, h.states, h.snapshot, h.parameters⟩
    · exact .none
  | destroyed => exact .some ⟨rfl, h.invoked, h.results, h.ids, h.states, h.snapshot, h.parameters⟩

/-- **A remote command stands for the command.** Whatever a client calls on its `Command`, with the
errors of its own, and whatever libweave does with the command meanwhile, up to its end: the
command gets the same operations as if the client had it, in the same states, and the client is
told what they have returned, or that the command is gone. `GetID` and `GetState` tell how the
command is then; `GetParameters` keeps to what it has read for the first time. -/
theorem command_transparent (S : Strings) (E : EnumToString) (command : W.State) (es : List (Event W)) :
    Option.Rel StandsFor ((machine S E W).run { proxy := { command := some command } } es)
      ((DirectCommand.machine W).run { command := some command } (es.map Event.direct)) :=
  (next_lockstep S E W).run ⟨rfl, rfl, .nil, rfl, rfl, rfl, rfl⟩ es

end RemoteCommand

/-! ## Refusals -/

/-- What the device has refused is an error of binder to the client, around the one it has given. -/
theorem refusal_result {K : JsonPaths} {D : WeaveDevice} (S : Strings) (s : ComponentSystem D)
    {e : ComponentSystem.Event K} (hclient : e.client ∉ s.ended) {service : ℕ} {call : DeviceCall}
    (hdirect : e.direct = some (service, call)) (hrefused : (D.run call s.device).1.1 = false) :
    ∃ t result refusal, ComponentSystem.next S s e = some t ∧ t.results = s.results ++ [result] ∧
      (D.run call s.device).1.2 = some refusal ∧ result.success = false ∧
      result.error = addTo e.error ⟨"binder", "-8", cStr refusal.outer.message⟩ := by
  obtain ⟨t, hnext, hstep⟩ := ComponentSystem.next_step S s hclient
  cases hstep with
  | ended hnone =>
    rw [hdirect] at hnone
    cases hnone
  | called service' call' result hdirect' hgiven htells =>
    rw [hdirect] at hdirect'
    cases hdirect'
    obtain ⟨refusal, hrefusal, hresult⟩ := htells.failed hrefused
    rw [hgiven] at hresult
    exact ⟨_, result, refusal, hnext, rfl, hrefusal, htells.success.trans hrefused, hresult⟩

/-- The error that is added is the outermost one. -/
theorem addTo_outer {α : Type} (given : ErrorPtr α) (e : α) :
    ∃ error, addTo given e = some error ∧ error.outer = e := by
  rcases given with _ | error
  · exact ⟨_, rfl, rfl⟩
  · exact ⟨_, rfl, rfl⟩

/-- **A refusal that is passed on.** A client calls a method of its service, the device refuses
it, and the client aborts a command with the error it got: then libweave gets an abort with the
code `_-8` and its own message, up to a NUL. The code it gave itself is lost. -/
theorem refusal_passed_on {K : JsonPaths} {D : WeaveDevice} (S : Strings) (s : ComponentSystem D)
    {e : ComponentSystem.Event K} (hclient : e.client ∉ s.ended) {service : ℕ} {call : DeviceCall}
    (hdirect : e.direct = some (service, call)) (hrefused : (D.run call s.device).1.1 = false)
    {proxy : BinderCommandProxy W} {command : W.State} (hlive : proxy.command = some command)
    (given : ErrorPtr BrilloError) :
    ∃ t result error refusal answer, ComponentSystem.next S s e = some t ∧ t.results = s.results ++ [result] ∧
      result.error = some error ∧ (D.run call s.device).1.2 = some refusal ∧
      Command.abortWithCustomError S proxy (.error error.outer) given = some (answer,
        proxy.invoked1 command (.abort (some (.last ⟨"_-8", cStr refusal.outer.message⟩)))) := by
  obtain ⟨t, result, refusal, hnext, hresults, hrefusal, -, hresult⟩ := refusal_result S s hclient hdirect hrefused
  obtain ⟨error, hadd, houter⟩ := addTo_outer e.error ⟨"binder", "-8", cStr refusal.outer.message⟩
  obtain ⟨success, error', hrun, -⟩ := run_alive (S := S) hlive
    (.abortWithCustomError (.error ⟨"binder", "-8", cStr refusal.outer.message⟩)) given
  have hcode : cStr ("_" ++ "-8") = "_-8" := by decide +kernel
  have hmessage : cStr (cStr refusal.outer.message) = cStr refusal.outer.message := cStr_eq (nulFree_cStr _)
  refine ⟨t, result, error, refusal, (success, error'), hnext, hresults, hresult.trans hadd, hrefusal, ?_⟩
  have hoperation : (CommandRequest.abortWithCustomError (J := J)
      (.error ⟨"binder", "-8", cStr refusal.outer.message⟩)).toMethod.operation =
      .abort (some (.last ⟨"_-8", cStr refusal.outer.message⟩)) := by
    show Operation.abort (some (.last ⟨cStr ("_" ++ "-8"), cStr (cStr refusal.outer.message)⟩)) = _
    rw [hcode, hmessage]
  rw [hoperation] at hrun
  rw [houter]
  exact hrun

namespace ComponentSystem

/-- A client adds a component that the device has. -/
def addAgain : Event noPaths := ⟨0, connectedImpl 0, .addComponent "lock" ["lock"], some (.last ⟨"d", "c", "m"⟩)⟩

def withLock : ComponentSystem nameDevice := { device := (["lock"] : List String) }

end ComponentSystem

theorem refusal_passed_on_test : ∃ t result error answer,
    ComponentSystem.next Strings.plain ComponentSystem.withLock ComponentSystem.addAgain = some t ∧
    t.results = [result] ∧ result.error = some error ∧
    Command.abortWithCustomError Strings.plain jumpProxy (.error error.outer) none =
      some (answer, jumpProxy.invoked1 jumpCommand (.abort (some (.last ⟨"_-8", "Component already exists"⟩)))) := by
  have hdirect : ComponentSystem.addAgain.direct = some (0, .addComponent "lock" ["lock"]) := by decide +kernel
  have hlive : jumpProxy.command = some jumpCommand := rfl
  obtain ⟨t, result, error, refusal, answer, hnext, hresults, herror, hrefusal, habort⟩ :=
    refusal_passed_on Strings.plain ComponentSystem.withLock List.not_mem_nil hdirect rfl hlive none
  have hmessage : cStr refusal.outer.message = "Component already exists" := by
    rw [← Option.some.inj hrefusal]
    decide +kernel
  rw [hmessage] at habort
  exact ⟨t, result, error, answer, hnext, hresults, herror, habort⟩

end SystemWeaved
