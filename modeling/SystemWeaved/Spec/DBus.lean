import Mathlib.Data.String.Basic
import Mathlib.Tactic
import Std.Data.ExtTreeMap

/-!
# D-Bus values

What `ShillClient` uses of the D-Bus binding: object paths in their map order, variant
values and property dictionaries.
-/

namespace SystemWeaved

/-- `dbus::ObjectPath`. -/
structure ObjectPath where
  value : String
  deriving DecidableEq, Repr

namespace ObjectPath

theorem value_injective : Function.Injective value := by
  rintro ⟨a⟩ ⟨b⟩ h
  exact congrArg mk h

/-- The order of `std::map<ObjectPath, _>`. -/
instance : LinearOrder ObjectPath := LinearOrder.lift' value value_injective

instance : Std.TransCmp (compare : ObjectPath → ObjectPath → Ordering) := inferInstance

instance : Std.LawfulEqCmp (compare : ObjectPath → ObjectPath → Ordering) where
  eq_of_compare := compare_eq_iff_eq.1

/-- The characters of a path element. -/
def isElementChar (c : Char) : Bool :=
  ('A' ≤ c && c ≤ 'Z') || ('a' ≤ c && c ≤ 'z') || ('0' ≤ c && c ≤ '9') || c == '_'

/-- The elements after a separator: none of them is empty. -/
def elementsValid : List Char → Bool → Bool
  | [], nonEmpty => nonEmpty
  | '/' :: cs, nonEmpty => nonEmpty && elementsValid cs false
  | c :: cs, _ => isElementChar c && elementsValid cs true

/-- `ObjectPath::IsValid`: the syntax of object paths in the D-Bus specification. -/
def isValid (p : ObjectPath) : Bool :=
  match p.value.toList with
  | ['/'] => true
  | '/' :: cs => elementsValid cs false
  | _ => false

end ObjectPath

/-- `brillo::Any`, at the types the client reads and writes. -/
inductive Any
  | string (s : String)
  | uint8 (n : UInt8)
  | bool (b : Bool)
  | path (p : ObjectPath)
  | paths (ps : List ObjectPath)
  | other
  deriving DecidableEq, Repr

namespace Any

/-- `TryGet<std::string>()`: the default value if the type is another one. -/
def tryGetString : Any → String
  | string s => s
  | _ => ""

/-- `TryGet<uint8_t>()`. -/
def tryGetUInt8 : Any → UInt8
  | uint8 n => n
  | _ => 0

/-- `TryGet<ObjectPath>()`. -/
def tryGetPath : Any → ObjectPath
  | path p => p
  | _ => ⟨""⟩

/-- `TryGet<std::vector<ObjectPath>>()`. -/
def tryGetPaths : Any → List ObjectPath
  | paths ps => ps
  | _ => []

end Any

/-- `brillo::VariantDictionary`, as its `find`. -/
abbrev VariantDictionary := String → Option Any

/-- `std::map` keyed by object paths. -/
abbrev PathMap (β : Type) := Std.ExtTreeMap ObjectPath β compare

namespace PathMap

variable {β : Type} (m : PathMap β)

theorem getElem?_insert (k a : ObjectPath) (v : β) :
    (m.insert k v)[a]? = if k = a then some v else m[a]? := by
  rw [Std.ExtTreeMap.getElem?_insert]
  simp only [compare_eq_iff_eq]

theorem getElem?_erase (k a : ObjectPath) : (m.erase k)[a]? = if k = a then none else m[a]? := by
  rw [Std.ExtTreeMap.getElem?_erase]
  simp only [compare_eq_iff_eq]

theorem mem_toList {k : ObjectPath} {v : β} : (k, v) ∈ m.toList ↔ m[k]? = some v :=
  Std.ExtTreeMap.mem_toList_iff_getElem?_eq_some

end PathMap

end SystemWeaved
