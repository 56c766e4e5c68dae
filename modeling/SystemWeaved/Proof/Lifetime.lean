import SystemWeaved.Lib.Custody
import SystemWeaved.Spec.Lifetime

/-!
# The device does not outlive its providers

* `Shape`, `checker`: which members are set. A statement that destroys or replaces a provider of a
  living device has no next shape; the checker reads the statements to come, and `Checked` states
  pass it.
* `providers_outlive_device`: in every state the pointers of the device are those of the members,
  and the objects behind them have not been destroyed.
* `next_step`: what an event does; the invariants are case analyses over it.
* `one_life`: what `Manager` owns after `RestartWeave` has been made by it, and a device is never
  made with what is left of an earlier one. `Current` says which statements to come see to that.
* `reboots_accounted`: each `base.reboot` that has been completed leads to one reboot, unless the
  `Manager` goes first, and no null `task_runner_` is used.
-/

namespace SystemWeaved

namespace Provider

theorem mem_all (p : Provider) : p ∈ all := by cases p <;> decide

/-- The providers that every device is made with. -/
def required : List Provider := [taskRunner, config, httpClient, shillClient]

end Provider

/-- Which members are set. -/
structure Shape where
  set : Provider → Bool
  device : Bool

namespace Shape

variable {x y : Shape}

def ready (x : Shape) : Bool := Provider.required.all x.set

/-- A statement on the shape. The providers of a device that is there stay as they are. -/
def next (x : Shape) : Statement → Option Shape
  | .resetDevice => some { x with device := false }
  | .reset p => if x.device then none else some { x with set := Function.update x.set p false }
  | .make p => if x.device then none else some { x with set := Function.update x.set p true }
  | .createDevice => if x.ready then some { x with device := true } else none

/-- The shapes between two functions: the web server can make a device. -/
structure Idle (options : ManagerOptions) (x : Shape) : Prop where
  device : x.device = true → x.ready = true
  server : x.set .webServClient = true → x.ready = true
  wifi : x.set .webServClient = true → options.useWifiBootstrapping = true

end Shape

/-- The checker of statements. -/
def checker : Machine Shape Statement where
  start _ := True
  next := Shape.next

/-- The statements are safe from here on. -/
def Passes (options : ManagerOptions) (x : Shape) (code : List Statement) : Prop :=
  ∃ y, checker.run x code = some y ∧ y.Idle options

namespace ManagerOptions

variable {options : ManagerOptions} {x : Shape}

/-! ## The functions of `Manager` pass the checker -/

/-- The shape after `Stop`. -/
theorem stop_run (options : ManagerOptions) (x : Shape) (hx : x.Idle options) :
    ∃ set, checker.run x options.stop = some ⟨set, false⟩ ∧ set .webServClient = false := by
  rcases options with ⟨_ | _, privet⟩
  · refine ⟨_, rfl, ?_⟩
    show x.set .webServClient = false
    rw [Bool.eq_false_iff]
    intro hset
    have hwifi : false = true := hx.wifi hset
    cases hwifi
  · exact ⟨_, rfl, rfl⟩

theorem stop_passes (hx : x.Idle options) : Passes options x options.stop := by
  obtain ⟨set, hrun, hserver⟩ := stop_run options x hx
  refine ⟨_, hrun, ?_, ?_, ?_⟩
  · intro h
    cases h
  all_goals
    intro h
    have htrue : set .webServClient = true := h
    rw [hserver] at htrue
    cases htrue

theorem restartWeave_passes (hx : x.Idle options) : Passes options x options.restartWeave := by
  obtain ⟨set, hrun, hserver⟩ := stop_run options x hx
  unfold restartWeave
  rw [List.append_assoc]
  unfold Passes
  rw [Machine.run_append, hrun, Option.bind_some]
  rcases options with ⟨_ | _, _ | _⟩
  · exact ⟨_, rfl, fun _ => rfl, fun _ => rfl, fun h => absurd (hserver.symm.trans h) Bool.false_ne_true⟩
  · exact ⟨_, rfl, fun _ => rfl, fun _ => rfl, fun h => absurd (hserver.symm.trans h) Bool.false_ne_true⟩
  · exact ⟨_, rfl, fun h => absurd h Bool.false_ne_true, fun _ => rfl, fun _ => rfl⟩
  · exact ⟨_, rfl, fun _ => rfl, fun _ => rfl, fun h => absurd (hserver.symm.trans h) Bool.false_ne_true⟩

theorem createDevice_passes (hx : x.Idle options) (hserver : x.set .webServClient = true) :
    Passes options x [.createDevice] := by
  have hready := hx.server hserver
  refine ⟨⟨x.set, true⟩, ?_, fun _ => hready, hx.server, hx.wifi⟩
  show (if x.ready then some (Shape.mk x.set true) else none).bind _ = _
  rw [if_pos hready]
  rfl

theorem destructor_passes (options : ManagerOptions) (x : Shape) : Passes options x destructor := by
  have hunset : false = true → ∀ {P : Prop}, P := fun h => absurd h Bool.false_ne_true
  exact ⟨_, rfl, fun h => hunset h, fun h => hunset h, fun h => hunset h⟩

end ManagerOptions

namespace Objects

variable {o : Objects} {statement : Statement} {x : Shape}

def shape (o : Objects) : Shape := ⟨fun p => (o.providers p).isSome, o.device.isSome⟩

/-- The objects that `Manager` owns. -/
def owned (o : Objects) : List ℕ :=
  Provider.all.filterMap o.providers ++ (o.device.map DeviceObject.id).toList

/-- The objects are sound. -/
structure Sound (o : Objects) : Prop where
  custody : Custody o.made (o.owned ++ o.destroyed)
  pointers : ∀ d, o.device = some d → d.pointers = o.providers ∧ o.shape.ready = true

/-- What `Manager` owns after a member has been set, and before. -/
theorem owned_update (f : Provider → Option ℕ) (p : Provider) (v : Option ℕ) (k : ℕ) :
    (Provider.all.filterMap (Function.update f p v)).count k + (f p).toList.count k =
      (Provider.all.filterMap f).count k + v.toList.count k := by
  have hnodup : Provider.all.Nodup := by decide
  have hafter := (filterMap_update hnodup p.mem_all f v).count_eq k
  have hbefore := (filterMap_update hnodup p.mem_all f (f p)).count_eq k
  rw [Function.update_eq_self] at hbefore
  rw [List.count_append] at hafter hbefore
  omega

/-- **What a safe statement does to the shape.** -/
theorem exec_shape (h : o.shape.next statement = some x) : (o.exec statement).shape = x := by
  have hset : ∀ p v,
      (fun q => (Function.update o.providers p v q).isSome) = Function.update o.shape.set p v.isSome := by
    intro p v
    funext q
    by_cases hq : q = p
    · rw [hq, Function.update_self, Function.update_self]
    · rw [Function.update_of_ne hq, Function.update_of_ne hq]
      rfl
  cases statement with
  | resetDevice => exact Option.some.inj h
  | reset p =>
    obtain ⟨-, hx⟩ := Option.ite_none_left_eq_some.1 h
    rw [← Option.some.inj hx]
    exact congrArg (fun set => Shape.mk set o.device.isSome) (hset p none)
  | make p =>
    obtain ⟨-, hx⟩ := Option.ite_none_left_eq_some.1 h
    rw [← Option.some.inj hx]
    exact congrArg (fun set => Shape.mk set o.device.isSome) (hset p (some o.made))
  | createDevice =>
    obtain ⟨-, hx⟩ := Option.ite_none_right_eq_some.1 h
    rw [← Option.some.inj hx]
    unfold Objects.exec shape
    rcases hdevice : o.device with _ | d
    · rfl
    · simp [hdevice]

theorem Sound.exec (ho : o.Sound) (h : o.shape.next statement = some x) : (o.exec statement).Sound := by
  cases statement with
  | resetDevice =>
    refine ⟨ho.custody.move_of_count fun k => ?_, fun d hd => by cases hd⟩
    simp only [owned, Objects.exec, List.count_append, Option.map_none, Option.toList_none, List.count_nil]
    omega
  | reset p =>
    obtain ⟨hdevice, -⟩ := Option.ite_none_left_eq_some.1 h
    have hnone : o.device = none := by simpa [shape] using hdevice
    refine ⟨ho.custody.move_of_count fun k => ?_, fun d hd => ?_⟩
    · have hk := owned_update o.providers p none k
      simp only [owned, Objects.exec, List.count_append, Option.toList_none, List.count_nil] at hk ⊢
      omega
    · rw [show o.device = some d from hd] at hnone
      cases hnone
  | make p =>
    obtain ⟨hdevice, -⟩ := Option.ite_none_left_eq_some.1 h
    have hnone : o.device = none := by simpa [shape] using hdevice
    refine ⟨ho.custody.make_of_count fun k => ?_, fun d hd => ?_⟩
    · have hk := owned_update o.providers p (some o.made) k
      simp only [owned, Objects.exec, List.count_append, Option.toList_some, List.count_cons, List.count_nil] at hk ⊢
      omega
    · rw [show o.device = some d from hd] at hnone
      cases hnone
  | createDevice =>
    rcases hdevice : o.device with _ | d
    · have hexec : o.exec .createDevice = { o with device := some ⟨o.made, o.providers⟩, made := o.made + 1 } := by
        unfold Objects.exec
        rw [hdevice]
      rw [hexec]
      refine ⟨ho.custody.make_of_count fun k => ?_, fun d hd => ?_⟩
      · have howned : o.owned = Provider.all.filterMap o.providers := by
          unfold owned
          rw [hdevice]
          exact List.append_nil _
        have hnew : owned { o with device := some ⟨o.made, o.providers⟩, made := o.made + 1 } =
            Provider.all.filterMap o.providers ++ [o.made] := rfl
        rw [howned, hnew]
        simp only [List.count_append, List.count_cons, List.count_nil]
        omega
      · obtain ⟨hready, -⟩ := Option.ite_none_right_eq_some.1 h
        rw [← Option.some.inj hd]
        exact ⟨rfl, hready⟩
    · have hexec : o.exec .createDevice = o := by
        unfold Objects.exec
        rw [hdevice]
      rw [hexec]
      exact ho

/-- A provider after a statement is new, or has been there. -/
theorem exec_providers {p : Provider} {id : ℕ} (h : (o.exec statement).providers p = some id) :
    (statement = .make p ∧ id = o.made) ∨ (statement ≠ .make p ∧ o.providers p = some id) := by
  cases statement with
  | resetDevice => exact .inr ⟨by simp, h⟩
  | reset q =>
    have hp : Function.update o.providers q none p = some id := h
    by_cases hpq : p = q
    · rw [hpq, Function.update_self] at hp
      cases hp
    · exact .inr ⟨by simp, (Function.update_of_ne hpq _ _).symm.trans hp⟩
  | make q =>
    have hp : Function.update o.providers q (some o.made) p = some id := h
    by_cases hpq : p = q
    · rw [hpq, Function.update_self] at hp
      exact .inl ⟨congrArg _ hpq.symm, (Option.some.inj hp).symm⟩
    · exact .inr ⟨by simpa using Ne.symm hpq, (Function.update_of_ne hpq _ _).symm.trans hp⟩
  | createDevice =>
    refine .inr ⟨by simp, ?_⟩
    unfold Objects.exec at h
    rcases hdevice : o.device with _ | d
    · rw [hdevice] at h
      exact h
    · rw [hdevice] at h
      exact h

/-- So is the device. -/
theorem exec_device {d : DeviceObject} (h : (o.exec statement).device = some d) :
    (statement = .createDevice ∧ d.id = o.made) ∨ (statement ≠ .resetDevice ∧ o.device = some d) := by
  cases statement with
  | resetDevice => cases h
  | reset p | make p => exact .inr ⟨by simp, h⟩
  | createDevice =>
    unfold Objects.exec at h
    rcases hdevice : o.device with _ | d'
    · rw [hdevice] at h
      rw [← Option.some.inj h]
      exact .inl ⟨rfl, rfl⟩
    · rw [hdevice] at h
      exact .inr ⟨by simp, hdevice.symm.trans h⟩

theorem made_le_exec (o : Objects) (statement : Statement) : o.made ≤ (o.exec statement).made := by
  cases statement with
  | resetDevice | reset p => exact Nat.le_refl _
  | make p => exact Nat.le_succ _
  | createDevice =>
    unfold Objects.exec
    rcases o.device with _ | d
    · exact Nat.le_succ _
    · exact Nat.le_refl _

end Objects

namespace Lifetime

variable {options : ManagerOptions} {s t : Lifetime} {e : Event}

/-! ## What an event does -/

/-- A function begins, its next statement is run, or a reboot is asked for or done. -/
inductive Step (options : ManagerOptions) (s : Lifetime) : Lifetime → Prop
  | restartWeave (hidle : s.code = []) :
      Step options s { s with code := options.restartWeave, born := s.objects.made }
  | stop (hidle : s.code = []) : Step options s { s with code := options.stop }
  | createDevice (hidle : s.code = []) (hserver : (s.objects.providers .webServClient).isSome = true) :
      Step options s { s with code := [.createDevice] }
  | destroyManager (hidle : s.code = []) :
      Step options s { s with code := ManagerOptions.destructor, gone := true }
  | statement {statement : Statement} {code : List Statement} (hcode : s.code = statement :: code) :
      Step options s { s with objects := s.objects.exec statement, code }
  | rebootCommand (completed : Bool) (hdevice : s.objects.device.isSome = true) :
      Step options s (s.onRebootDevice completed)
  | rebootDeviceNow (hqueued : s.queued ≠ 0) : Step options s s.rebootDeviceNow

theorem call_cases {code : List Statement} (h : s.call code = some t) :
    s.code = [] ∧ t = { s with code } := by
  obtain ⟨⟨hcode, -⟩, ht⟩ := Option.ite_none_right_eq_some.1 h
  exact ⟨hcode, (Option.some.inj ht).symm⟩

theorem next_step (hn : s.next options e = some t) : Step options s t := by
  cases e with
  | restartWeave =>
    obtain ⟨u, hcall, rfl⟩ := Option.map_eq_some_iff.1 hn
    obtain ⟨hidle, rfl⟩ := call_cases hcall
    exact .restartWeave hidle
  | stop =>
    obtain ⟨hidle, rfl⟩ := call_cases hn
    exact .stop hidle
  | serverAvailable =>
    obtain ⟨hserver, hcall⟩ := Option.ite_none_right_eq_some.1 hn
    obtain ⟨hidle, rfl⟩ := call_cases hcall
    exact .createDevice hidle hserver
  | destroyManager =>
    obtain ⟨u, hcall, rfl⟩ := Option.map_eq_some_iff.1 hn
    obtain ⟨hidle, rfl⟩ := call_cases hcall
    exact .destroyManager hidle
  | statement =>
    simp only [next] at hn
    rcases hcode : s.code with _ | ⟨statement, code⟩
    · rw [hcode] at hn
      cases hn
    · rw [hcode] at hn
      rw [← Option.some.inj hn]
      exact .statement hcode
  | rebootCommand completed =>
    obtain ⟨⟨hdevice, -⟩, ht⟩ := Option.ite_none_right_eq_some.1 hn
    rw [← Option.some.inj ht]
    exact .rebootCommand completed hdevice
  | rebootDeviceNow =>
    obtain ⟨⟨hqueued, -⟩, ht⟩ := Option.ite_none_right_eq_some.1 hn
    rw [← Option.some.inj ht]
    exact .rebootDeviceNow hqueued

/-! ## The statements to come are safe -/

/-- What holds between any two statements. -/
structure Checked (options : ManagerOptions) (s : Lifetime) : Prop where
  sound : s.objects.Sound
  passes : Passes options s.objects.shape s.code

theorem start_checked (options : ManagerOptions) : Checked options {} where
  sound := ⟨.start, fun d hd => by cases hd⟩
  passes := ⟨_, rfl, fun h => absurd h Bool.false_ne_true, fun h => absurd h Bool.false_ne_true,
    fun h => absurd h Bool.false_ne_true⟩

/-- Between two functions the shape is idle. -/
theorem Checked.idle (h : Checked options s) (hcode : s.code = []) : s.objects.shape.Idle options := by
  obtain ⟨y, hrun, hidle⟩ := h.passes
  rw [hcode] at hrun
  rw [Option.some.inj hrun]
  exact hidle

/-- A function that passes the checker begins. -/
theorem Checked.call (h : Checked options s) (hidle : s.code = []) {code : List Statement}
    (hpasses : s.objects.shape.Idle options → Passes options s.objects.shape code) :
    Checked options { s with code } :=
  ⟨h.sound, hpasses (h.idle hidle)⟩

theorem Checked.statement (h : Checked options s) {statement : Statement} {code : List Statement}
    (hcode : s.code = statement :: code) :
    Checked options { s with objects := s.objects.exec statement, code } := by
  obtain ⟨y, hrun, hidle⟩ := h.passes
  rw [hcode] at hrun
  obtain ⟨x, hnext, hrest⟩ := Option.bind_eq_some_iff.1 hrun
  have hshape := Objects.exec_shape hnext
  refine ⟨h.sound.exec hnext, y, ?_, hidle⟩
  rw [hshape]
  exact hrest

/-- Nothing else of the state matters. -/
theorem Checked.of_same (h : Checked options s) (hobjects : t.objects = s.objects) (hcode : t.code = s.code) :
    Checked options t := by
  refine ⟨?_, ?_⟩
  · rw [hobjects]
    exact h.sound
  · rw [hobjects, hcode]
    exact h.passes

theorem onRebootDevice_same (s : Lifetime) (completed : Bool) :
    (s.onRebootDevice completed).objects = s.objects ∧ (s.onRebootDevice completed).code = s.code ∧
      (s.onRebootDevice completed).born = s.born := by
  unfold onRebootDevice
  rcases completed with _ | _
  · exact ⟨rfl, rfl, rfl⟩
  · rcases s.objects.providers .taskRunner with _ | id <;> exact ⟨rfl, rfl, rfl⟩

theorem rebootDeviceNow_same (s : Lifetime) :
    s.rebootDeviceNow.objects = s.objects ∧ s.rebootDeviceNow.code = s.code ∧ s.rebootDeviceNow.born = s.born := by
  unfold rebootDeviceNow
  rcases s.gone with _ | _ <;> exact ⟨rfl, rfl, rfl⟩

theorem Step.checked (hn : Step options s t) (h : Checked options s) : Checked options t := by
  cases hn with
  | restartWeave hidle => exact (h.call hidle ManagerOptions.restartWeave_passes).of_same rfl rfl
  | stop hidle => exact h.call hidle ManagerOptions.stop_passes
  | createDevice hidle hserver =>
    exact h.call hidle fun hx => ManagerOptions.createDevice_passes hx hserver
  | destroyManager hidle =>
    exact (h.call hidle fun _ => ManagerOptions.destructor_passes options _).of_same rfl rfl
  | statement hcode => exact h.statement hcode
  | rebootCommand completed _ =>
    obtain ⟨hobjects, hcode, -⟩ := onRebootDevice_same s completed
    exact h.of_same hobjects hcode
  | rebootDeviceNow _ =>
    obtain ⟨hobjects, hcode, -⟩ := rebootDeviceNow_same s
    exact h.of_same hobjects hcode

theorem reach_checked (h : (machine options).Reach s) : Checked options s := by
  refine Machine.ReachIf.invariant (P := Checked options) ?_ (fun s e t _ hs _ hn => (next_step hn).checked hs) h
  rintro s rfl
  exact start_checked options

/-! ## What is left of an earlier life is replaced -/

/-- The device is created by the last statement, if by any. -/
def CreatesLast : List Statement → Bool
  | [] => true
  | .createDevice :: code => code.isEmpty
  | _ :: code => CreatesLast code

theorem createsLast_tail {statement : Statement} {code : List Statement} (h : CreatesLast (statement :: code) = true) :
    CreatesLast code = true := by
  cases statement with
  | resetDevice | reset p | make p => exact h
  | createDevice =>
    obtain rfl : code = [] := List.isEmpty_iff.1 h
    rfl

/-- `RestartWeave` replaces whatever it can have made before. -/
structure Current (options : ManagerOptions) (s : Lifetime) : Prop where
  born : s.born ≤ s.objects.made
  makes : ∀ p, .make p ∈ s.code ∨ (s.objects.providers p).isSome = true → .make p ∈ options.restartWeave
  last : CreatesLast s.code = true
  /-- A provider of an earlier life is about to be replaced. -/
  stale : ∀ p id, s.objects.providers p = some id → id < s.born → .make p ∈ s.code
  /-- The device is reset by the first statement of `RestartWeave`. -/
  device : s.code ≠ options.restartWeave → ∀ d, s.objects.device = some d →
    s.born ≤ d.id ∧ ∀ p id, s.objects.providers p = some id → s.born ≤ id

theorem Current.of_same (h : Current options s) (hobjects : t.objects = s.objects) (hcode : t.code = s.code)
    (hborn : t.born = s.born) : Current options t := by
  refine ⟨?_, ?_, ?_, ?_, ?_⟩
  · rw [hborn, hobjects]
    exact h.born
  · rw [hobjects, hcode]
    exact h.makes
  · rw [hcode]
    exact h.last
  · rw [hobjects, hcode, hborn]
    exact h.stale
  · rw [hobjects, hcode, hborn]
    exact h.device

/-- Between two functions, nothing is left of an earlier life. -/
theorem Current.providers (h : Current options s) (hcode : s.code = []) {p : Provider} {id : ℕ}
    (hp : s.objects.providers p = some id) : s.born ≤ id := by
  by_contra hlt
  have hmake := h.stale p id hp (Nat.lt_of_not_le hlt)
  rw [hcode] at hmake
  cases hmake

theorem restartWeave_cons (options : ManagerOptions) :
    ∃ code, options.restartWeave = .resetDevice :: code := ⟨_, rfl⟩

/-- A function that makes no provider begins. -/
theorem Current.call (h : Current options s) (hcode : s.code = []) {code : List Statement}
    (hmakes : ∀ p, .make p ∉ code) (hlast : CreatesLast code = true) : Current options { s with code } := by
  have hidle : s.code ≠ options.restartWeave := by
    obtain ⟨rest, hrest⟩ := restartWeave_cons options
    rw [hcode, hrest]
    exact (List.cons_ne_nil _ _).symm
  refine ⟨h.born, fun p hp => ?_, hlast, fun p id hp hlt => ?_, fun _ d hd => h.device hidle d hd⟩
  · exact h.makes p (.inr (hp.resolve_left (hmakes p)))
  · exact absurd hlt (Nat.not_lt.2 (h.providers hcode hp))

/-- `RestartWeave` begins: all objects are of an earlier life now. -/
theorem Current.restart (h : Current options s) :
    Current options { s with code := options.restartWeave, born := s.objects.made } := by
  refine ⟨Nat.le_refl _, fun p hp => ?_, ?_, fun p id hp _ => ?_, fun hne => absurd rfl hne⟩
  · exact hp.elim (fun hmake => hmake) fun hset => h.makes p (.inr hset)
  · rcases options with ⟨_ | _, _ | _⟩ <;> rfl
  · exact h.makes p (.inr (Option.isSome_iff_exists.2 ⟨id, hp⟩))

theorem Current.statement (h : Current options s) {statement : Statement} {code : List Statement}
    (hcode : s.code = statement :: code) :
    Current options { s with objects := s.objects.exec statement, code } := by
  have hlast : CreatesLast (statement :: code) = true := hcode ▸ h.last
  have hborn := h.born
  have hstale : ∀ p id, (s.objects.exec statement).providers p = some id → id < s.born → .make p ∈ code := by
    intro p id hp hlt
    rcases Objects.exec_providers hp with ⟨-, rfl⟩ | ⟨hne, hold⟩
    · omega
    · have hmake := h.stale p id hold hlt
      rw [hcode] at hmake
      exact (List.mem_cons.1 hmake).resolve_left (Ne.symm hne)
  refine ⟨hborn.trans (s.objects.made_le_exec statement), fun p hp => h.makes p ?_, createsLast_tail hlast, hstale,
    fun _ d hd => ?_⟩
  · rw [hcode]
    rcases hp with hmake | hset
    · exact .inl (List.mem_cons_of_mem _ hmake)
    · obtain ⟨id, hid⟩ := Option.isSome_iff_exists.1 hset
      rcases Objects.exec_providers hid with ⟨rfl, -⟩ | ⟨-, hold⟩
      · exact .inl List.mem_cons_self
      · exact .inr (Option.isSome_iff_exists.2 ⟨id, hold⟩)
  · rcases Objects.exec_device hd with ⟨rfl, hid⟩ | ⟨hne, hold⟩
    · -- a new device is made last, when all providers have been replaced
      obtain rfl : code = [] := List.isEmpty_iff.1 hlast
      refine ⟨hid ▸ hborn, fun p id hp => ?_⟩
      by_contra hlt
      cases hstale p id hp (Nat.lt_of_not_le hlt)
    · -- only the first statement of `RestartWeave` finds a device of an earlier life
      have hrunning : s.code ≠ options.restartWeave := by
        obtain ⟨rest, hrest⟩ := restartWeave_cons options
        rw [hcode, hrest]
        exact fun heq => hne (List.cons.inj heq).1
      obtain ⟨hid, hproviders⟩ := h.device hrunning d hold
      refine ⟨hid, fun p id hp => ?_⟩
      rcases Objects.exec_providers hp with ⟨-, rfl⟩ | ⟨-, hkept⟩
      · exact hborn
      · exact hproviders p id hkept

theorem start_current (options : ManagerOptions) : Current options {} where
  born := Nat.le_refl _
  makes p hp := by
    rcases hp with hmake | hset
    · cases hmake
    · cases hset
  last := rfl
  stale p id hp := by cases hp
  device _ d hd := by cases hd

theorem Step.current (hn : Step options s t) (h : Current options s) : Current options t := by
  cases hn with
  | restartWeave _ => exact h.restart
  | stop hidle =>
    refine h.call hidle (fun p => ?_) ?_
    · rcases options with ⟨_ | _, privet⟩ <;> simp [ManagerOptions.stop]
    · rcases options with ⟨_ | _, privet⟩ <;> rfl
  | createDevice hidle _ => exact h.call hidle (by simp) rfl
  | destroyManager hidle =>
    exact (h.call hidle (by simp [ManagerOptions.destructor]) rfl).of_same rfl rfl rfl
  | statement hcode => exact h.statement hcode
  | rebootCommand completed _ =>
    obtain ⟨hobjects, hcode, hborn⟩ := onRebootDevice_same s completed
    exact h.of_same hobjects hcode hborn
  | rebootDeviceNow _ =>
    obtain ⟨hobjects, hcode, hborn⟩ := rebootDeviceNow_same s
    exact h.of_same hobjects hcode hborn

theorem reach_current (h : (machine options).Reach s) : Current options s := by
  refine Machine.ReachIf.invariant (P := Current options) ?_ (fun s e t _ hs _ hn => (next_step hn).current hs) h
  rintro s rfl
  exact start_current options

/-! ## Results -/

/-- **The device does not outlive its providers**: its pointers are those of the members, they
lead to objects that have not been destroyed, and no required one is null. -/
theorem providers_outlive_device (h : (machine options).Reach s) {d : DeviceObject} (hd : s.objects.device = some d) :
    (∀ p id, d.pointers p = some id → s.objects.providers p = some id ∧ id ∉ s.objects.destroyed) ∧
    ∀ p ∈ Provider.required, (d.pointers p).isSome = true := by
  have hsound := (reach_checked h).sound
  obtain ⟨hpointers, hready⟩ := hsound.pointers d hd
  rw [hpointers]
  refine ⟨fun p id hid => ⟨hid, fun hmem => ?_⟩, fun p hp => List.all_eq_true.1 hready p hp⟩
  have howned : id ∈ s.objects.owned := List.mem_append_left _ (List.mem_filterMap.2 ⟨p, p.mem_all, hid⟩)
  exact (List.nodup_append.1 hsound.custody.nodup).2.2 id howned id hmem rfl

/-- **A life begins with `RestartWeave`.** Whatever `Manager` owns between two functions has been
made since `RestartWeave` was called last; and so have been the device and all that it points to,
from the first statement of `RestartWeave` on. -/
theorem one_life (h : (machine options).Reach s) :
    (s.code = [] → ∀ id ∈ s.objects.owned, s.born ≤ id) ∧
    (s.code ≠ options.restartWeave → ∀ d, s.objects.device = some d →
      s.born ≤ d.id ∧ ∀ p id, d.pointers p = some id → s.born ≤ id) := by
  have hcurrent := reach_current h
  have hdevice : s.code ≠ options.restartWeave → ∀ d, s.objects.device = some d →
      s.born ≤ d.id ∧ ∀ p id, d.pointers p = some id → s.born ≤ id := by
    intro hcode d hd
    rw [((reach_checked h).sound.pointers d hd).1]
    exact hcurrent.device hcode d hd
  refine ⟨fun hcode id hid => ?_, hdevice⟩
  rcases List.mem_append.1 hid with hprovider | hid
  · obtain ⟨p, -, hp⟩ := List.mem_filterMap.1 hprovider
    exact hcurrent.providers hcode hp
  · obtain ⟨d, hd, rfl⟩ := Option.map_eq_some_iff.1 (Option.mem_toList.1 hid)
    obtain ⟨rest, hrest⟩ := restartWeave_cons options
    refine (hdevice ?_ d hd).1
    rw [hcode, hrest]
    exact (List.cons_ne_nil _ _).symm

/-- The commands and the tasks they have left. -/
def Accounted (s : Lifetime) : Prop := s.completed = s.reboots + s.queued + s.expired ∧ s.fault = false

theorem Step.accounted (hn : Step options s t) (hchecked : Checked options s) (h : Accounted s) : Accounted t := by
  cases hn with
  | restartWeave | stop | createDevice | destroyManager | statement => exact h
  | rebootCommand completed hdevice =>
    rcases completed with _ | _
    · exact h
    · -- the device has been made with a task runner
      obtain ⟨d, hd⟩ := Option.isSome_iff_exists.1 hdevice
      obtain ⟨-, hready⟩ := hchecked.sound.pointers d hd
      have hset : (s.objects.providers .taskRunner).isSome = true :=
        List.all_eq_true.1 hready .taskRunner (by decide)
      obtain ⟨id, hid⟩ := Option.isSome_iff_exists.1 hset
      have hreboot : s.onRebootDevice true = { s with completed := s.completed + 1, queued := s.queued + 1 } := by
        unfold onRebootDevice
        rw [hid]
        rfl
      obtain ⟨hcount, hfault⟩ := h
      rw [hreboot]
      refine ⟨?_, hfault⟩
      dsimp only
      omega
  | rebootDeviceNow hqueued =>
    obtain ⟨hcount, hfault⟩ := h
    unfold Lifetime.rebootDeviceNow
    split
    all_goals
      refine ⟨?_, hfault⟩
      dsimp only
      omega

/-- **Each reboot command that has been completed leads to one reboot**, which is queued, done, or
has found the `Manager` gone; `task_runner_` is never null then. -/
theorem reboots_accounted (h : (machine options).Reach s) :
    s.completed = s.reboots + s.queued + s.expired ∧ s.fault = false := by
  refine Machine.ReachIf.invariant (P := Accounted) ?_
    (fun s e t hr hs _ hn => (next_step hn).accounted (reach_checked hr) hs) h
  rintro s rfl
  exact ⟨rfl, rfl⟩

/-- weaved starts without Privet, reboots, and starts anew. -/
def rebootRun : List Event :=
  .restartWeave :: List.replicate 10 .statement ++ [.rebootCommand true, .rebootDeviceNow, .restartWeave] ++
    List.replicate 10 .statement

def plainOptions : ManagerOptions := ⟨false, true⟩

def restarted : Lifetime := ((machine plainOptions).run {} rebootRun).get (by decide +kernel)

theorem restarted_reach : (machine plainOptions).Reach restarted :=
  Machine.run_reach (.start rfl) (Option.some_get _).symm

def restartedDevice : DeviceObject := restarted.objects.device.get (by decide +kernel)

theorem restarted_device : restarted.objects.device = some restartedDevice := (Option.some_get _).symm

example : restarted.code = [] ∧ restarted.born = 5 ∧ restartedDevice.id = 9 ∧ restarted.reboots = 1 := by
  decide +kernel

theorem providers_outlive_device_test :
    (∀ p id, restartedDevice.pointers p = some id →
      restarted.objects.providers p = some id ∧ id ∉ restarted.objects.destroyed) ∧
    ∀ p ∈ Provider.required, (restartedDevice.pointers p).isSome = true :=
  providers_outlive_device restarted_reach restarted_device

theorem one_life_test :
    (restarted.code = [] → ∀ id ∈ restarted.objects.owned, restarted.born ≤ id) ∧
    (restarted.code ≠ plainOptions.restartWeave → ∀ d, restarted.objects.device = some d →
      restarted.born ≤ d.id ∧ ∀ p id, d.pointers p = some id → restarted.born ≤ id) :=
  one_life restarted_reach

theorem reboots_accounted_test :
    restarted.completed = restarted.reboots + restarted.queued + restarted.expired ∧ restarted.fault = false :=
  reboots_accounted restarted_reach

end Lifetime

end SystemWeaved
