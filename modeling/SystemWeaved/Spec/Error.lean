import SystemWeaved.Lib.CString

/-!
# Error chains (`buffet/weave_error_conversion.h`)

`weave::Error` and `brillo::Error` own the error they wrap. A null `ErrorPtr` is
`none`; `AddTo` makes the error a pointer holds the inner error of a new one.

Nothing but `ConvertError` reads where an error was made: `convertError` leaves it out, the
two overloads with locations are `WeaveError.convertError` and `BrilloError.convertError`.
-/

namespace SystemWeaved

/-- An error with the errors it wraps. -/
inductive ErrorChain (α : Type)
  | last (e : α)
  | wrap (e : α) (inner : ErrorChain α)
  deriving DecidableEq, Repr

abbrev ErrorPtr (α : Type) := Option (ErrorChain α)

/-- `weave::Error`, without its location. -/
structure WeaveError where
  code : String
  message : String
  deriving DecidableEq, Repr

/-- `brillo::Error`, without its location. -/
structure BrilloError where
  domain : String
  code : String
  message : String
  deriving DecidableEq, Repr

variable {α : Type}

/-- `Error::AddTo`. -/
def addTo (error : ErrorPtr α) (e : α) : ErrorPtr α :=
  match error with
  | none => some (.last e)
  | some inner => some (.wrap e inner)

@[simp] theorem addTo_isSome (error : ErrorPtr α) (e : α) : (addTo error e).isSome := by
  cases error <;> rfl

/-- `ConvertError` from `brillo::Error` to `weave::Error`: the inner errors first. -/
def convertError : ErrorChain BrilloError → ErrorPtr WeaveError → ErrorPtr WeaveError
  | .last e, destination => addTo destination ⟨e.code, e.message⟩
  | .wrap e inner, destination => addTo (convertError inner destination) ⟨e.code, e.message⟩

@[simp] theorem convertError_isSome (source : ErrorChain BrilloError) (destination : ErrorPtr WeaveError) :
    (convertError source destination).isSome := by
  cases source <;> exact addTo_isSome _ _

/-! ## Errors with locations -/

/-- `tracked_objects::LocationSnapshot`. -/
structure Location where
  functionName : String
  fileName : String
  lineNumber : ℤ
  deriving DecidableEq, Repr

/-- The `Location` that `ConvertError` makes of a snapshot: the names go through `c_str()`. -/
def Location.copy (location : Location) : Location :=
  ⟨cStr location.functionName, cStr location.fileName, location.lineNumber⟩

/-- An error with the location it was made at. -/
structure Located (α : Type) where
  error : α
  location : Location
  deriving DecidableEq, Repr

/-- What the overloads of `ConvertError` share: the inner errors first, then the error itself
is added to the destination. -/
def convertChain {β : Type} (convert : α → β) : ErrorChain α → ErrorPtr β → ErrorPtr β
  | .last e, destination => addTo destination (convert e)
  | .wrap e inner, destination => addTo (convertChain convert inner destination) (convert e)

/-- `ConvertError` from `weave::Error` to `brillo::Error`. -/
def WeaveError.convertError : ErrorChain (Located WeaveError) → ErrorPtr (Located BrilloError) →
    ErrorPtr (Located BrilloError) :=
  convertChain fun source => ⟨⟨"weave", source.error.code, source.error.message⟩, source.location.copy⟩

/-- `ConvertError` from `brillo::Error` to `weave::Error`. -/
def BrilloError.convertError : ErrorChain (Located BrilloError) → ErrorPtr (Located WeaveError) →
    ErrorPtr (Located WeaveError) :=
  convertChain fun source => ⟨⟨source.error.code, source.error.message⟩, source.location.copy⟩

end SystemWeaved
