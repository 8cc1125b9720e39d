import Charwise.CodeUnit

/-!
# Attributes

The attribute of a match is what it reports: the unit that was matched, nothing, or the unit
converted to a value of another type. A conversion is only offered where it loses nothing.
-/

namespace Charwise

/-- The types that a unit may be converted to. -/
inductive Target where
  /-- Integers of a number of bits, the sign included. -/
  | integer (signed : Bool) (bits : Nat)
  /-- Floating-point numbers with 53 significant bits. -/
  | real
  /-- Characters. -/
  | character
  /-- Texts of a single character. -/
  | text
  deriving DecidableEq

/-- A bound above the codes of a kind. -/
def UnitKind.bound : UnitKind → Nat
  | .octet => 0x100
  | .scalar => 0x110000
  | .word => 0x100000000

/-- Every code of a kind is below its bound. -/
theorem CodeUnit.code_lt_bound {kind : UnitKind} (unit : CodeUnit kind) :
    unit.code < kind.bound := by
  obtain ⟨code, admitted⟩ := unit
  cases kind
  · exact admitted
  · change code < 0xD800 ∨ 0xDFFF < code ∧ code < 0x110000 at admitted
    change code < 0x110000
    omega
  · exact admitted

/-- Every code but that of a word is the number of its character. -/
theorem CodeUnit.toNat_ofNat_code {kind : UnitKind} (unit : CodeUnit kind)
    (narrow : kind ≠ .word) : (Char.ofNat unit.code).toNat = unit.code := by
  have valid : unit.code.isValidChar := by
    cases kind with
    | octet => exact Or.inl (Nat.lt_trans unit.admitted (by decide))
    | scalar => exact unit.admitted
    | word => exact absurd rfl narrow
  have same : Char.ofNat unit.code = Char.ofNatAux unit.code valid := dif_pos valid
  exact congrArg Char.toNat same

/-- The targets that have a value for every unit of a kind. -/
def Target.Suits (target : Target) (kind : UnitKind) : Prop :=
  match target with
  | .integer true bits => kind.bound ≤ 1 <<< (bits - 1)
  | .integer false bits => kind.bound ≤ 1 <<< bits
  | .real => kind.bound ≤ 1 <<< 53
  | .character | .text => kind ≠ .word

instance Target.decidableSuits (target : Target) (kind : UnitKind) :
    Decidable (target.Suits kind) := by
  unfold Target.Suits
  split <;> infer_instance

/-- A lossless conversion of the units of a kind. -/
structure Conversion (kind : UnitKind) where
  /-- The type of the values. -/
  target : Target
  /-- Every unit has a value. -/
  suits : target.Suits kind
  deriving DecidableEq

/-- The conversion to a target, if the target suits the kind. -/
def Conversion.to? (kind : UnitKind) (target : Target) : Option (Conversion kind) :=
  if suits : target.Suits kind then some ⟨target, suits⟩ else none

/-- The value of a converted unit. -/
inductive Value where
  | integer (value : Int)
  /-- The floating-point number that equals a natural number. -/
  | real (value : Nat)
  | character (value : Char)
  | text (value : String)
  deriving DecidableEq

/-- The value of a code in a target: the number that it is, or the character of that number. -/
def Target.value (target : Target) (code : Nat) : Value :=
  match target with
  | .integer _ _ => .integer code
  | .real => .real code
  | .character => .character (Char.ofNat code)
  | .text => .text (Char.ofNat code).toString

/-- The code that a value was made of. -/
def Value.code : Value → Nat
  | .integer value => value.toNat
  | .real value => value
  | .character value => value.toNat
  | .text value => (value.toList.headD default).toNat

/-- The value of a unit. -/
def Conversion.value {kind : UnitKind} (conversion : Conversion kind) (unit : CodeUnit kind) :
    Value :=
  conversion.target.value unit.code

/-- Whether a value of a target stands for a code and for no other: it is that number, which the
target has room for, or the character of that number, alone or as a text. -/
def Target.Represents (target : Target) (value : Value) (code : Nat) : Prop :=
  match target, value with
  | .integer true bits, .integer value => value = code ∧ code < 1 <<< (bits - 1)
  | .integer false bits, .integer value => value = code ∧ code < 1 <<< bits
  | .real, .real value => value = code ∧ code < 1 <<< 53
  | .character, .character value => value.toNat = code
  | .text, .text value => ∃ c, value.toList = [c] ∧ c.toNat = code
  | _, _ => False

/-- A value represents the code that it was made of. -/
theorem Target.Represents.code_eq {target : Target} {value : Value} {code : Nat}
    (represents : target.Represents value code) : value.code = code := by
  unfold Represents at represents
  split at represents
  · rw [Value.code, represents.1, Int.toNat_natCast]
  · rw [Value.code, represents.1, Int.toNat_natCast]
  · exact represents.1
  · exact represents
  · obtain ⟨c, single, same⟩ := represents
    rw [Value.code, single]
    exact same
  · contradiction

/-- Conversions are exact: the value of a unit represents its code. -/
theorem Conversion.represents_value {kind : UnitKind} (conversion : Conversion kind)
    (unit : CodeUnit kind) : conversion.target.Represents (conversion.value unit) unit.code := by
  have bounded := unit.code_lt_bound
  obtain ⟨target, suits⟩ := conversion
  cases target with
  | integer signed bits =>
    cases signed with
    | true => exact ⟨rfl, Nat.lt_of_lt_of_le bounded suits⟩
    | false => exact ⟨rfl, Nat.lt_of_lt_of_le bounded suits⟩
  | real => exact ⟨rfl, Nat.lt_of_lt_of_le bounded suits⟩
  | character => exact unit.toNat_ofNat_code suits
  | text => exact ⟨_, String.toList_singleton _, unit.toNat_ofNat_code suits⟩

/-- What a match reports. -/
inductive Attribute (kind : UnitKind) where
  /-- Nothing. -/
  | omitted
  /-- The unit that was matched. -/
  | unit (unit : CodeUnit kind)
  /-- The value of the unit that was matched. -/
  | converted (target : Target) (value : Value)
  deriving DecidableEq

/-- Convert the unit that an attribute reports. A value is converted again by the code that it was
made of, and nothing stays nothing. -/
def Conversion.apply {kind : UnitKind} (conversion : Conversion kind) :
    Attribute kind → Attribute kind
  | .omitted => .omitted
  | .unit unit => .converted conversion.target (conversion.value unit)
  | .converted _ value => .converted conversion.target (conversion.target.value value.code)

end Charwise
