import SystemWeaved.Proof.ShillFrame

/-!
# What `ConvertError` makes of a chain

A chain is read as the list of its errors, the outermost first; `AddTo` is then the cons of that
list.

* `errors_convertChain`: the destination becomes the converted source, followed by what it held.
* `convertError_of_located`: leaving the locations out commutes with the conversion.
* `chain_preserved`: both overloads keep all codes and messages in order, and so does the way
  from brillo to weave and back.
* `connect_refused`: a `Connect` that shill refuses reports shill's chain.
-/

namespace SystemWeaved

variable {α β : Type}

/-- The errors of a chain, the outermost first. -/
def ErrorChain.toList : ErrorChain α → List α
  | .last e => [e]
  | .wrap e inner => e :: inner.toList

/-- The errors a pointer holds. -/
def errors (error : ErrorPtr α) : List α := error.elim [] ErrorChain.toList

/-- The chain with each error replaced. -/
def ErrorChain.map (f : α → β) : ErrorChain α → ErrorChain β
  | .last e => .last (f e)
  | .wrap e inner => .wrap (f e) (inner.map f)

theorem ErrorChain.toList_ne_nil (chain : ErrorChain α) : chain.toList ≠ [] := by
  cases chain with
  | last e => exact List.cons_ne_nil _ _
  | wrap e inner => exact List.cons_ne_nil _ _

/-- **The list of its errors determines a chain.** -/
theorem ErrorChain.toList_injective : Function.Injective (ErrorChain.toList (α := α)) := by
  intro c
  induction c with
  | last e =>
    intro d h
    cases d with
    | last e' =>
      have he : e = e' := List.head_eq_of_cons_eq h
      rw [he]
    | wrap e' inner' =>
      have hinner : [] = inner'.toList := List.tail_eq_of_cons_eq h
      exact absurd hinner.symm inner'.toList_ne_nil
  | wrap e inner ih =>
    intro d h
    cases d with
    | last e' =>
      have hinner : inner.toList = [] := List.tail_eq_of_cons_eq h
      exact absurd hinner inner.toList_ne_nil
    | wrap e' inner' =>
      have he : e = e' := List.head_eq_of_cons_eq h
      have hinner : inner.toList = inner'.toList := List.tail_eq_of_cons_eq h
      rw [he, ih hinner]

theorem errors_injective : Function.Injective (errors (α := α)) := by
  intro p q h
  rcases p with _ | c <;> rcases q with _ | d
  · rfl
  · exact absurd h.symm d.toList_ne_nil
  · exact absurd h c.toList_ne_nil
  · have hcd : c.toList = d.toList := h
    rw [ErrorChain.toList_injective hcd]

/-- **`AddTo` puts the new error in front.** -/
@[simp] theorem errors_addTo (error : ErrorPtr α) (e : α) : errors (addTo error e) = e :: errors error := by
  cases error <;> rfl

/-- **The destination becomes the converted source, followed by what it held.** -/
theorem errors_convertChain (convert : α → β) (source : ErrorChain α) (destination : ErrorPtr β) :
    errors (convertChain convert source destination) = source.toList.map convert ++ errors destination := by
  induction source with
  | last e => exact errors_addTo destination (convert e)
  | wrap e inner ih =>
    -- the inner errors are in the destination before this one is put in front
    show errors (addTo (convertChain convert inner destination) (convert e)) = _
    rw [errors_addTo, ih]
    rfl

/-- An empty destination takes over the shape of the source. -/
theorem convertChain_none (convert : α → β) (source : ErrorChain α) :
    convertChain convert source none = some (source.map convert) := by
  induction source with
  | last e => rfl
  | wrap e inner ih =>
    show addTo (convertChain convert inner none) (convert e) = _
    rw [ih]
    rfl

theorem ErrorChain.toList_map (f : α → β) (chain : ErrorChain α) : (chain.map f).toList = chain.toList.map f := by
  induction chain with
  | last e => rfl
  | wrap e inner ih =>
    show f e :: (inner.map f).toList = f e :: inner.toList.map f
    rw [ih]

theorem errors_map (f : α → β) (error : ErrorPtr α) :
    errors (error.map (ErrorChain.map f)) = (errors error).map f := by
  cases error with
  | none => rfl
  | some chain => exact chain.toList_map f

theorem convertError_eq : SystemWeaved.convertError = convertChain fun e => ⟨e.code, e.message⟩ := by
  funext source destination
  induction source with
  | last e => rfl
  | wrap e inner ih =>
    show addTo (SystemWeaved.convertError inner destination) _ = addTo (convertChain _ inner destination) _
    rw [ih]

/-- **Leaving the locations out** commutes with the conversion: `convertError` is the overload
without them. -/
theorem convertError_of_located (source : ErrorChain (Located BrilloError))
    (destination : ErrorPtr (Located WeaveError)) :
    (BrilloError.convertError source destination).map (ErrorChain.map Located.error) =
      SystemWeaved.convertError (source.map Located.error) (destination.map (ErrorChain.map Located.error)) := by
  apply errors_injective
  rw [errors_map, BrilloError.convertError, errors_convertChain, convertError_eq, errors_convertChain,
    errors_map, ErrorChain.toList_map, List.map_append, List.map_map, List.map_map]
  rfl

/-! ## Codes and messages -/

/-- What a conversion has to keep: the code and the message. -/
def WeaveError.text (e : Located WeaveError) : String × String := (e.error.code, e.error.message)

def BrilloError.text (e : Located BrilloError) : String × String := (e.error.code, e.error.message)

/-- The pointer holds an error for each one of the source, in order and with the same text, and
behind them what it held before. -/
def Preserves (text : α → String × String) (text' : β → String × String) (source : ErrorChain α)
    (before after : ErrorPtr β) : Prop :=
  ∃ converted, errors after = converted ++ errors before ∧ converted.map text' = source.toList.map text

theorem convertChain_preserves {convert : α → β} {text : α → String × String} {text' : β → String × String}
    (h : ∀ e, text' (convert e) = text e) (source : ErrorChain α) (destination : ErrorPtr β) :
    Preserves text text' source destination (convertChain convert source destination) := by
  refine ⟨source.toList.map convert, errors_convertChain convert source destination, ?_⟩
  rw [List.map_map]
  exact List.map_congr_left fun e _ => h e

/-- The way there and back, each time into an empty pointer. -/
def thereAndBack (source : ErrorChain (Located BrilloError)) : ErrorPtr (Located BrilloError) :=
  (BrilloError.convertError source none).bind fun there => WeaveError.convertError there none

/-- **`ConvertError` preserves the whole chain.** -/
theorem chain_preserved :
    (∀ (source : ErrorChain (Located WeaveError)) (destination : ErrorPtr (Located BrilloError)),
      Preserves WeaveError.text BrilloError.text source destination
        (WeaveError.convertError source destination)) ∧
    (∀ (source : ErrorChain (Located BrilloError)) (destination : ErrorPtr (Located WeaveError)),
      Preserves BrilloError.text WeaveError.text source destination
        (BrilloError.convertError source destination)) ∧
    ∀ source : ErrorChain (Located BrilloError),
      (errors (thereAndBack source)).map BrilloError.text = source.toList.map BrilloError.text := by
  refine ⟨convertChain_preserves fun _ => rfl, convertChain_preserves fun _ => rfl, fun source => ?_⟩
  unfold thereAndBack BrilloError.convertError
  rw [convertChain_none, Option.bind_some, WeaveError.convertError, errors_convertChain, ErrorChain.toList_map]
  simp only [errors, Option.elim_none, List.append_nil, List.map_map]
  exact List.map_congr_left fun _ _ => rfl

/-! ## The caller -/

/-- The chain with which shill refuses a call of `Connect`. -/
def ConnectCall.refused (c : ConnectCall) : Option (ErrorChain BrilloError) :=
  match c.configureService, c.requestScan with
  | .error e, _ => some e
  | .ok _, .error e => some e
  | .ok _, .ok () => none

/-- **A refused `Connect` reports shill's chain**: its last effect is to post the callback with
all codes and messages of the refusal. -/
theorem ShillClient.connect_refused {s : ShillClient} {c : ConnectCall} {e : ErrorChain BrilloError}
    (hidle : s.connectingService = none) (h : c.refused = some e) :
    ∃ error rest, (s.connect c).log = .postDone s.calls error :: rest ∧
      errors error = e.toList.map fun e => ⟨e.code, e.message⟩ := by
  have hbusy : ¬ s.connectingService.isSome := by simp [hidle]
  have hchain : errors (SystemWeaved.convertError e none) = e.toList.map fun e => ⟨e.code, e.message⟩ := by
    rw [convertError_eq, errors_convertChain]
    exact List.append_nil _
  refine ⟨SystemWeaved.convertError e none, ?_⟩
  unfold ConnectCall.refused at h
  unfold connect
  dsimp only
  rw [if_neg hbusy]
  -- shill answers `ConfigureService` first, and `RequestScan` only after it has accepted that
  rcases hconfigure : c.configureService with e' | path
  · have he : e' = e := by simpa [hconfigure] using h
    rw [he]
    exact ⟨_, rfl, hchain⟩
  · rcases hscan : c.requestScan with e' | u
    · have he : e' = e := by simpa [hconfigure, hscan] using h
      rw [he]
      exact ⟨_, rfl, hchain⟩
    · simp [hconfigure, hscan] at h

end SystemWeaved
