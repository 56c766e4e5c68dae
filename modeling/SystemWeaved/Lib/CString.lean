import Mathlib.Data.List.TakeWhile
import Mathlib.Tactic

/-!
# C strings

A `std::string` that is handed on as a `const char*` ends at its first NUL. `cStr` is
what the receiver sees; it changes nothing on a string without NUL (`cStr_eq`).

A `String` is text, which C++ keeps as UTF-8. A `StdString` is the bytes themselves, for strings
that need not be text.
-/

namespace SystemWeaved

/-- The character that ends a C string. -/
def nul : Char := Char.ofNat 0

/-- The string has no NUL in it. -/
def NulFree (s : String) : Prop := nul ∉ s.toList

instance (s : String) : Decidable (NulFree s) := inferInstanceAs (Decidable (_ ∉ _))

/-- The part of a string before its first NUL. -/
def cStr (s : String) : String := String.ofList (s.toList.takeWhile fun c => c ≠ nul)

theorem nulFree_cStr (s : String) : NulFree (cStr s) := by
  unfold NulFree cStr
  rw [String.toList_ofList]
  intro h
  have := List.mem_takeWhile_imp h
  simp at this

@[simp] theorem cStr_eq {s : String} (h : NulFree s) : cStr s = s := by
  have hall : ∀ c ∈ s.toList, decide (c ≠ nul) = true := by
    intro c hc
    simp only [decide_eq_true_eq]
    rintro rfl
    exact h hc
  unfold cStr
  rw [List.takeWhile_eq_self_iff.2 hall, String.ofList_toList]

theorem NulFree.append {s t : String} (hs : NulFree s) (ht : NulFree t) : NulFree (s ++ t) := by
  unfold NulFree at *
  rw [String.toList_append, List.mem_append]
  exact fun h => h.elim hs ht

theorem append_nulFree {s t : String} : NulFree (s ++ t) ↔ NulFree s ∧ NulFree t := by
  unfold NulFree
  rw [String.toList_append, List.mem_append, not_or]

/-! ## Strings of bytes -/

/-- A `std::string`, which can hold any bytes. -/
structure StdString where
  bytes : List UInt8
  deriving DecidableEq

namespace StdString

variable {s : StdString}

/-- Text, in UTF-8. -/
def utf8 (text : String) : StdString := ⟨text.toByteArray.data.toList⟩

instance : Coe String StdString := ⟨utf8⟩

/-- The bytes are those of a text. -/
def IsUtf8 (s : StdString) : Prop := ∃ text : String, s = text

/-- The string has no NUL in it. -/
def NulFree (s : StdString) : Prop := 0 ∉ s.bytes

instance (s : StdString) : Decidable s.NulFree := inferInstanceAs (Decidable (_ ∉ _))

/-- The bytes of a string before its first NUL. -/
def cStr (s : StdString) : StdString := ⟨s.bytes.takeWhile fun b => b ≠ 0⟩

@[simp] theorem cStr_eq (h : s.NulFree) : s.cStr = s := by
  have hall : ∀ b ∈ s.bytes, decide (b ≠ 0) = true := by
    intro b hb
    simp only [decide_eq_true_eq]
    rintro rfl
    exact h hb
  unfold cStr
  rw [List.takeWhile_eq_self_iff.2 hall]

end StdString

end SystemWeaved
