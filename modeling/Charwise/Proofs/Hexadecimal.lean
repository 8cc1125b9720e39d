import Charwise.CodeUnit.Text
import Mathlib.Data.List.Basic

/-!
# Numbers in hexadecimal digits

The digits of a number are read back as the number, with zeros in front of them or without
(`readHex_hexPadded`). So a number with no digit behind it can be told from the text that it begins,
however many digits it has (`hexPadded_append_inj`).
-/

namespace Charwise

/-- The value of a digit. -/
def hexValue (digit : Char) : Nat :=
  if digit.toNat < 0x3A then digit.toNat - 0x30 else digit.toNat - 0x37

/-- The number that digits are read as, highest first. -/
def readHex (digits : List Char) : Nat :=
  digits.foldl (fun value digit => value * 16 + hexValue digit) 0

/-- The characters that numbers are written in: the digits of the numbers below sixteen. -/
def IsNumeral (c : Char) : Prop := ∃ value < 16, hexDigit value = c

/-- A text that could not continue a number, since no digit begins it. -/
def EndsNumber (text : List Char) : Prop := ∀ first ∈ text.head?, ¬ IsNumeral first

instance (c : Char) : Decidable (IsNumeral c) := Nat.decidableExistsLT 16

/-- A digit has the value that it is the digit of. -/
theorem hexValue_hexDigit : ∀ value < 16, hexValue (hexDigit value) = value := by
  decide

/-- A digit at the end is the lowest one. -/
theorem readHex_concat (digits : List Char) (digit : Char) :
    readHex (digits ++ [digit]) = readHex digits * 16 + hexValue digit := by
  rw [readHex, List.foldl_append]
  rfl

/-- The digits of a number are read as the number. -/
theorem readHex_hexDigits (value : Nat) : readHex (hexDigits value) = value := by
  fun_induction hexDigits value with
  | case1 value small =>
    have digit := hexValue_hexDigit value small
    simpa [readHex] using digit
  | case2 value large ih =>
    have digit := hexValue_hexDigit (value % 16) (Nat.mod_lt _ (by decide))
    rw [readHex_concat, ih, digit]
    omega

/-- Zeros in front of digits add nothing. -/
theorem readHex_zeros (count : Nat) (digits : List Char) :
    readHex (List.replicate count '0' ++ digits) = readHex digits := by
  induction count with
  | zero => rfl
  | succ count ih => exact ih

/-- The digits of a number are read as the number, with zeros in front or without. -/
theorem readHex_hexPadded (width value : Nat) : readHex (hexPadded width value) = value := by
  rw [hexPadded, readHex_zeros, readHex_hexDigits]

/-- A number is written in digits. -/
theorem isNumeral_of_mem_hexDigits {value : Nat} : ∀ c ∈ hexDigits value, IsNumeral c := by
  fun_induction hexDigits value with
  | case1 value small =>
    intro c member
    exact ⟨value, small, (List.mem_singleton.1 member).symm⟩
  | case2 value large ih =>
    intro c member
    obtain higher | lowest := List.mem_append.1 member
    · exact ih c higher
    · exact ⟨value % 16, Nat.mod_lt _ (by decide), (List.mem_singleton.1 lowest).symm⟩

/-- The zeros in front of a number are digits as well. -/
theorem isNumeral_of_mem_hexPadded {width value : Nat} :
    ∀ c ∈ hexPadded width value, IsNumeral c := by
  intro c member
  obtain zero | digit := List.mem_append.1 member
  · rw [List.eq_of_mem_replicate zero]
    exact ⟨0, by decide, rfl⟩
  · exact isNumeral_of_mem_hexDigits c digit

/-- If no digit follows the digits that a text begins with, then any other digits that it begins
with are among them. -/
theorem prefix_of_append_eq {digits more rest later : List Char}
    (inside : ∀ c ∈ more, IsNumeral c) (ends : EndsNumber rest)
    (same : digits ++ rest = more ++ later) : more <+: digits := by
  obtain ⟨extra, longer, split⟩ | ⟨extra, shorter, _⟩ := List.append_eq_append_iff.1 same
  · cases extra with
    | nil => exact ⟨[], by rw [longer, List.append_nil, List.append_nil]⟩
    | cons first extra =>
      -- The first of the digits that would be missing begins the rest.
      have digit : IsNumeral first := inside first (longer ▸ by simp)
      exact absurd digit (ends first (split ▸ rfl))
  · exact ⟨extra, shorter.symm⟩

/-- A number with no digit behind it can be told from the text, and so can the rest of the text. -/
theorem hexPadded_append_inj {width first second : Nat} {rest later : List Char}
    (ends : EndsNumber rest) (stops : EndsNumber later)
    (same : hexPadded width first ++ rest = hexPadded width second ++ later) :
    first = second ∧ rest = later := by
  have long := prefix_of_append_eq isNumeral_of_mem_hexPadded ends same
  have short := prefix_of_append_eq isNumeral_of_mem_hexPadded stops same.symm
  have digits : hexPadded width first = hexPadded width second :=
    short.eq_of_length_le long.length_le
  rw [digits] at same
  refine ⟨?_, List.append_cancel_left same⟩
  rw [← readHex_hexPadded width first, digits, readHex_hexPadded]

end Charwise
