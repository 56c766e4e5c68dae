import SystemWeaved.Proof.ShillFrame

/-!
# What the handlers of `ShillClient` are made of

* `Part`: what the handlers do to the client, one member or a few at a time.
* `next_parts`: every event is made of parts, but for a new listener. So what each part does, and
  one after the other do, every event does.
-/

namespace SystemWeaved

namespace ShillClient

variable {s t : ShillClient}

/-- A part of a handler. -/
inductive Part : ShillClient → ShillClient → Prop
  | connect (s : ShillClient) (c : ConnectCall) : Part s (s.connect c)
  | cleanup (s : ShillClient) : Part s s.cleanupConnectingService
  | runDone (s : ShillClient) (call : ℕ) (error : ErrorPtr WeaveError) : Part s (s.emit (.runDone call error))
  | strength (s : ShillClient) (strength : UInt8) : Part s (s.onStrengthChangeForConnectingService strength)
  | error (s : ShillClient) (error : String) : Part s { s with connectingServiceError := error }
  | state (s : ShillClient) (path : ObjectPath) (state : String) :
      Part s (s.onStateChangeForSelectedService path state)
  | timeout (s : ShillClient) (service : ServiceProxy) : Part s { s with timeouts := s.timeouts.erase service }
  | device {s t : ShillClient} (h : DeviceMove s t) : Part s t
  | forget (s : ShillClient) : Part s { s with devices := ∅, connectivityState := .offline }
  | notify {s t : ShillClient} (h : s.notifyConnectivityListeners = some t) : Part s t

abbrev Parts : ShillClient → ShillClient → Prop := Relation.ReflTransGen Part

theorem foldl_connect_parts (reentry : List ConnectCall) : ∀ s, Parts s (reentry.foldl connect s) := by
  induction reentry with
  | nil => exact fun s => .refl
  | cons c cs ih => exact fun s => .head (.connect s c) (ih _)

theorem finish_parts (s : ShillClient) (error : ErrorPtr WeaveError) (reentry : List ConnectCall) :
    Parts s (s.finish error reentry) := by
  unfold finish runDone
  cases s.connectDoneCallback with
  | none => exact .single (.cleanup s)
  | some call => exact .head (.cleanup s) (.head (.runDone _ call error) (foldl_connect_parts reentry _))

theorem onStateChangeForConnectingService_parts (s : ShillClient) (state : String) (reentry : List ConnectCall) :
    Parts s (s.onStateChangeForConnectingService state reentry) := by
  rw [onStateChangeForConnectingService_eq]
  cases shillServiceStateToNetworkState state with
  | online => exact finish_parts s none reentry
  | error =>
    dsimp only
    split
    · exact .refl
    · exact finish_parts s _ reentry
  | offline => exact .refl
  | connecting => exact .refl

theorem onServicePropertyChange_parts (s : ShillClient) (path : ObjectPath) (name : String) (value : Any)
    (reentry : List ConnectCall) : Parts s (s.onServicePropertyChange path name value reentry) := by
  unfold onServicePropertyChange
  dsimp only
  split
  · split
    · exact .refl
    · split
      · exact .head (.state s path _) (onStateChangeForConnectingService_parts _ _ reentry)
      · exact .single (.state s path _)
  · split
    · split
      · exact .single (.strength s _)
      · exact .refl
    · split
      · split
        · exact .single (.error s _)
        · exact .refl
      · exact .refl

theorem replayProperty_parts (s : ShillClient) (path : ObjectPath) (properties : VariantDictionary)
    (reentry : List ConnectCall) (name : String) : Parts s (s.replayProperty path properties reentry name) := by
  unfold replayProperty
  cases properties name with
  | none => exact .refl
  | some value => exact onServicePropertyChange_parts s path name value reentry

theorem registration_parts (s : ShillClient) (path : ObjectPath) (success : Bool) (replies : Replies)
    (reentry : List ConnectCall) : Parts s (s.onServicePropertyChangeRegistration path success replies reentry) := by
  have hcases := registration_cases s path success replies reentry
  generalize s.onServicePropertyChangeRegistration path success replies reentry = t at hcases ⊢
  cases hcases with
  | failed hconn => exact .single (.cleanup s)
  | ignored => exact .refl
  | @replayed properties hprops =>
    have hreplay : ∀ s name, Parts s (s.replayProperty path properties reentry name) := fun s name =>
      replayProperty_parts s path properties reentry name
    exact ((hreplay s _).trans (hreplay _ _)).trans (hreplay _ _)

theorem DeviceMoves.parts (h : DeviceMoves s t) : Parts s t :=
  Relation.ReflTransGen.mono (fun _ _ => Part.device) _ _ h

theorem reset_parts (s : ShillClient) : Parts s s.reset := .head (.cleanup s) (.single (.forget _))

/-- **Every event is made of parts.** -/
theorem next_parts {e : Event} (he : ∀ listener, e ≠ .addConnectionChangedCallback listener)
    (h : s.next e = some t) : Parts s t := by
  cases e with
  | connect c => cases h; exact .single (.connect s c)
  | addConnectionChangedCallback listener => exact absurd rfl (he listener)
  | ownerChange newOwner replies => exact (reset_parts s).trans (onShillServiceOwnerChange_reset h).parts
  | serviceRegistration path success replies reentry =>
    cases h; exact registration_parts s path success replies reentry
  | serviceProperty path name value reentry =>
    cases h; exact onServicePropertyChange_parts s path name value reentry
  | timeout service reentry =>
    simp only [next] at h
    split at h
    · cases h
      rw [connectToServiceError_eq]
      split
      · exact .single (.timeout s service)
      · exact .head (.timeout s service) (finish_parts _ _ reentry)
    · cases h
  | notify => exact .single (.notify h)
  | _ => exact (next_deviceMoves rfl h).parts

end ShillClient

end SystemWeaved
