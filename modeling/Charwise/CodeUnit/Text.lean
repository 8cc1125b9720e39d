import Charwise.CodeUnit

/-!
# Units as text

Units appear in messages in two ways. A run of source is rendered with one character for each unit,
so that columns can be counted in units. A single unit is described so that no two units of a kind
have the same description and none brings a control character into a message.
-/

namespace Charwise

/-- The digit of a number below sixteen. -/
def hexDigit (value : Nat) : Char :=
  if value < 10 then Char.ofNat (0x30 + value) else Char.ofNat (0x37 + value)

/-- The hexadecimal digits of a number, highest first and without leading zeros. -/
def hexDigits (value : Nat) : List Char :=
  if value < 16 then [hexDigit value] else hexDigits (value / 16) ++ [hexDigit (value % 16)]

/-- The hexadecimal digits of a number, filled with zeros to at least `width` digits. -/
def hexPadded (width value : Nat) : List Char :=
  let digits := hexDigits value
  List.replicate (width - digits.length) '0' ++ digits

/-- Whether a code is a control character: the codes below space, and delete up to U+009F. -/
def isControlCode (code : Nat) : Bool :=
  code < 0x20 || (0x7F ≤ code && code ≤ 0x9F)

namespace CodeUnit

variable {kind : UnitKind}

/-- The character that stands for a unit in rendered source. An octet is the Latin-1 character of
its code, and a word that is no scalar value is shown as the replacement character. -/
def toChar (unit : CodeUnit kind) : Char :=
  unit.scalar?.getD (Char.ofNat 0xFFFD)

/-- A unit that is a character is shown as that character. -/
theorem toChar_of_some {unit : CodeUnit kind} {c : Char} (character : unit.scalar? = some c) :
    unit.toChar = c := by
  rw [toChar, character, Option.getD_some]

/-- A unit that is no character is shown as the replacement character. -/
theorem toChar_of_none {unit : CodeUnit kind} (none : unit.scalar? = none) :
    unit.toChar = Char.ofNat 0xFFFD := by
  rw [toChar, none, Option.getD_none]

/-- The text of a run of source. -/
def render (units : List (CodeUnit kind)) : String :=
  String.ofList (units.map toChar)

/-- Rendered source has the characters of its units, in order. -/
theorem toList_render (units : List (CodeUnit kind)) : (render units).toList = units.map toChar :=
  String.toList_ofList

/-- Rendered source has one character for each unit. -/
theorem length_toList_render (units : List (CodeUnit kind)) :
    (render units).toList.length = units.length := by
  simp [render]

/-- A character in single quotes. -/
def quoted (c : Char) : String := "'" ++ c.toString ++ "'"

/-- A code point in the usual notation, with at least four digits. -/
def codePointText (code : Nat) : String := "U+" ++ String.ofList (hexPadded 4 code)

/-- The description of a unit in a message. A printable unit is shown in quotes, a word together
with its code point; any other unit is shown by its number alone. -/
def describe : {kind : UnitKind} → CodeUnit kind → String
  | .octet, unit =>
    if 0x20 ≤ unit.code ∧ unit.code ≤ 0x7E then quoted unit.toChar
    else "0x" ++ String.ofList (hexPadded 2 unit.code)
  | .scalar, unit =>
    if isControlCode unit.code then codePointText unit.code else quoted unit.toChar
  | .word, unit =>
    match unit.scalar? with
    | some c =>
      if isControlCode unit.code then codePointText unit.code
      else quoted c ++ " (" ++ codePointText unit.code ++ ")"
    | none => codePointText unit.code

/-- The words of a text, one for each character. -/
def ofText (text : String) : List (CodeUnit .word) :=
  text.toList.map fun c => ⟨c.toNat, c.val.toNat_lt⟩

end CodeUnit

end Charwise
