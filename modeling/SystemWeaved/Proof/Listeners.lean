import SystemWeaved.Proof.Connectivity
import SystemWeaved.Proof.ShillParts

/-!
# What the listeners know

A listener that reads `GetConnectionState` when it is added and whenever it is run has a view of
the connectivity. `listeners_current`: unless shill's owner changes in silence, a view is current
or will be refreshed.

* `next_listeners`: no handler but `AddConnectionChangedCallback` touches the listeners.
-/

namespace SystemWeaved

namespace ShillClient

variable {s t u : ShillClient}

/-! ## No handler touches the listeners -/

/-- The same listeners. -/
def SameListeners (s t : ShillClient) : Prop := t.connectivityListeners = s.connectivityListeners

theorem SameListeners.trans (h : SameListeners s t) (h' : SameListeners t u) : SameListeners s u :=
  Eq.trans h' h

theorem connect_listeners (s : ShillClient) (c : ConnectCall) : SameListeners s (s.connect c) := by
  have h := connect_cases s c
  generalize s.connect c = t at h ⊢
  cases h with
  | busy _ => rfl
  | failed hidle queries hq e _ => rfl
  | began hidle queries hq path _ => rfl

theorem DeviceMove.listeners (h : DeviceMove s t) : SameListeners s t := by
  have hselect : ∀ (path : ObjectPath) (device : DeviceState) (servicePath : ObjectPath) (replies : Replies),
      SameListeners s (s.selectService path device servicePath replies) := by
    intro path device servicePath replies
    unfold selectService
    split
    · rfl
    · split <;> rfl
  cases h with
  | added path _ => rfl
  | selected path device servicePath replies _ _ _ => exact hselect path device servicePath replies
  | reselected path device servicePath replies _ => exact hselect path device servicePath replies
  | removed paths => rfl

theorem Part.listeners (h : Part s t) : SameListeners s t := by
  cases h with
  | connect c => exact connect_listeners s c
  | strength strength =>
    unfold onStrengthChangeForConnectingService
    split <;> rfl
  | state path state =>
    unfold onStateChangeForSelectedService
    cases s.deviceSelecting path <;> rfl
  | device h => exact h.listeners
  | notify h =>
    unfold notifyConnectivityListeners at h
    split at h
    · cases h
    · cases h
      rfl
  | _ => rfl

theorem Parts.listeners (h : Parts s t) : SameListeners s t := by
  induction h with
  | refl => rfl
  | tail _ hpart ih => exact ih.trans hpart.listeners

/-- The listeners an event adds. -/
def Event.listener : Event → List ℕ
  | .addConnectionChangedCallback listener => [listener]
  | _ => []

theorem next_listeners {e : Event} (h : s.next e = some t) :
    t.connectivityListeners = s.connectivityListeners ++ e.listener := by
  cases e with
  | addConnectionChangedCallback l => cases h; rfl
  | _ =>
    have hsame : t.connectivityListeners = s.connectivityListeners :=
      Parts.listeners (next_parts (fun l he => by cases he) h)
    exact hsame.trans (List.append_nil _).symm

/-! ## Views -/

/-- What the log has got since `s`. -/
def newEffects (s t : ShillClient) : List Effect := t.log.take (t.log.length - s.log.length)

theorem newEffects_eq {effects : List Effect} (h : t.log = effects ++ s.log) : newEffects s t = effects := by
  unfold newEffects
  rw [h, List.length_append, Nat.add_sub_cancel, List.take_left]

/-- A client, and what each listener has read. -/
structure Audience where
  client : ShillClient
  views : ℕ → NetworkState

namespace Audience

variable {a b : Audience}

/-- What the listeners have read after an event. Those that the event adds read, and those that
the client has run. -/
def read (a : Audience) (e : Event) (client : ShillClient) (listener : ℕ) : NetworkState :=
  if listener ∈ e.listener ∨ .runListener listener ∈ newEffects a.client client then client.getConnectionState
  else a.views listener

/-- All runs of a client with its listeners. -/
def machine : Machine Audience Event where
  start a := ShillClient.machine.start a.client
  next a e := (a.client.next e).map fun client => ⟨client, a.read e client⟩

/-- A view is current, or a notification is queued that will refresh it. -/
def Current (a : Audience) : Prop :=
  ∀ listener ∈ a.client.connectivityListeners,
    a.views listener = a.client.getConnectionState ∨ a.client.notifications ≠ []

theorem next_cases {e : Event} (h : machine.next a e = some b) :
    a.client.next e = some b.client ∧ b.views = a.read e b.client := by
  obtain ⟨client, hclient, rfl⟩ := Option.map_eq_some_iff.1 h
  exact ⟨hclient, rfl⟩

/-- A view is current after an event, or has not been refreshed. -/
theorem views_cases {e : Event} (h : machine.next a e = some b) (listener : ℕ) :
    b.views listener = b.client.getConnectionState ∨ (listener ∉ e.listener ∧ b.views listener = a.views listener) := by
  rw [(next_cases h).2]
  unfold read
  split
  · exact .inl rfl
  · rename_i hnot
    exact .inr ⟨fun hl => hnot (.inl hl), rfl⟩

/-- The listeners that are run read the connectivity as it is. -/
theorem notify_current (h : machine.next a .notify = some b) :
    ∀ listener ∈ b.client.connectivityListeners, b.views listener = b.client.getConnectionState := by
  obtain ⟨hclient, hviews⟩ := next_cases h
  obtain ⟨effects, hlog, hruns⟩ := notifyConnectivityListeners_runs hclient
  intro listener hl
  rw [next_listeners hclient] at hl
  have hrun : .runListener listener ∈ newEffects a.client b.client := by
    rw [newEffects_eq hlog]
    exact hruns listener (by simpa [Event.listener] using hl)
  rw [hviews]
  exact if_pos (.inr hrun)

/-- A change of the connectivity has been announced, so a view may wait for it. -/
theorem quiet_current {e : Event} (ha : Current a) (h : machine.next a e = some b)
    (hannounced : Announced a.client b.client)
    (hkept : ∃ new, b.client.notifications = a.client.notifications ++ new) : Current b := by
  obtain ⟨hclient, -⟩ := next_cases h
  intro listener hl
  rcases views_cases h listener with hfresh | ⟨hnot, hview⟩
  · exact .inl hfresh
  · rw [next_listeners hclient] at hl
    have hold := (List.mem_append.1 hl).resolve_right hnot
    by_cases hchange : b.client.getConnectionState = a.client.getConnectionState
    · obtain ⟨new, hnew⟩ := hkept
      rcases ha listener hold with hcurrent | hqueued
      · exact .inl (by rw [hview, hcurrent, hchange])
      · exact .inr (by rw [hnew]; exact List.append_ne_nil_of_left_ne_nil hqueued new)
    · obtain ⟨new, hne, hnew⟩ := hannounced hchange
      exact .inr (by rw [hnew]; exact List.append_ne_nil_of_right_ne_nil _ hne)

theorem next_current {e : Event} (ha : Current a) (hannounces : Announces a.client e)
    (h : machine.next a e = some b) : Current b := by
  obtain ⟨hclient, -⟩ := next_cases h
  cases he : e.special with
  | false =>
    have hmoves := next_netMoves he hclient
    obtain ⟨new, hnew, -⟩ := hmoves.notifications
    exact quiet_current ha h hmoves.announced ⟨new, hnew⟩
  | true =>
    cases e with
    | ownerChange newOwner replies =>
      rcases ownerChange_cases hclient with ⟨hnot, hnotes, hoff⟩ | ⟨-, x, hnotes⟩
      · -- in silence: the client was offline before
        have hsame : b.client.getConnectionState = a.client.getConnectionState :=
          hoff.trans (hannounces.resolve_right hnot).symm
        refine quiet_current ha h (fun hchange => absurd hsame hchange) ⟨[], ?_⟩
        rw [hnotes, List.append_nil]
      · exact quiet_current ha h (fun _ => ⟨[x], List.cons_ne_nil _ _, hnotes⟩) ⟨[x], hnotes⟩
    | notify => exact fun listener hl => .inl (notify_current h listener hl)
    | _ => cases he

/-- **Views are current, or will be.** In every run in which shill's owner does not change in
silence, a listener that reads the connectivity when it is added and when it is run knows how it
is, or a notification is queued; and after a notification all listeners know. -/
theorem listeners_current (h : machine.ReachIf (fun a e => Announces a.client e) a) :
    Current a ∧ ∀ b, machine.next a .notify = some b →
      ∀ listener ∈ b.client.connectivityListeners, b.views listener = b.client.getConnectionState := by
  refine ⟨?_, fun b hb => notify_current hb⟩
  refine Machine.ReachIf.invariant (P := Current) ?_ ?_ h
  · rintro a ⟨deviceWhitelist, replies, hcreate⟩ listener hl
    have hnone : a.client.connectivityListeners = [] :=
      (onManagerProperties_moves hcreate).parts.listeners
    rw [hnone] at hl
    cases hl
  · intro a e b _ ha hannounces hn
    exact next_current ha hannounces hn

/-- A client without devices, and its listener 7. -/
def lanAudience : Audience :=
  let client := { idleClient with connectivityListeners := [7] }
  ⟨client, read ⟨idleClient, fun _ => .offline⟩ (.addConnectionChangedCallback 7) client⟩

theorem lanAudience_reach : machine.ReachIf (fun a e => Announces a.client e) lanAudience := by
  have hstart : machine.start ⟨idleClient, fun _ => .offline⟩ := idleClient_start
  exact .step (.start hstart) (e := .addConnectionChangedCallback 7) trivial rfl

/-- A device is found, and its service goes online. -/
theorem listeners_current_test : ∃ a : Audience, a.client.connectivityListeners = [7] ∧
    a.client.notifications ≠ [] ∧ Current a ∧ ∀ b, machine.next a .notify = some b →
      ∀ listener ∈ b.client.connectivityListeners, b.views listener = b.client.getConnectionState := by
  have hreach : machine.ReachIf (fun a e => Announces a.client e) _ :=
    .step (.step (.step lanAudience_reach
      (e := .managerProperty shill.kDevicesProperty (.paths [lanDevice]) {}) trivial rfl)
      (e := .deviceProperty lanDevice shill.kSelectedServiceProperty (.path lanService) {}) trivial rfl)
      (e := .serviceProperty lanService shill.kStateProperty (.string "online") []) trivial rfl
  obtain ⟨hcurrent, hnotify⟩ := listeners_current hreach
  exact ⟨_, rfl, by decide +kernel, hcurrent, hnotify⟩

end Audience

end ShillClient

end SystemWeaved
