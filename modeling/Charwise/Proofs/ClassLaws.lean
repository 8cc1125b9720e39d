import Charwise.Encoding

/-!
# Laws of the basic classes

The basic classes are decided by the table of ASCII, by the one of ISO-8859-1 or by the properties
of a character, and the laws of `BasicClass.Lawful` hold of all three. The properties may be any at
all: graphic and printable characters are told by the general category and by white space, and the
laws hold for every pair of these. So they hold in every encoding (`Encoding.lawful_isBasic`).
-/

namespace Charwise

open Unicode

/-- What the basic classes of a unit owe each other, whatever decides them. -/
structure BasicClass.Lawful (member : BasicClass → Bool) : Prop where
  /-- The letters and the digits are the alphanumeric units. -/
  alnum_iff : member .alnum = true ↔ member .alpha = true ∨ member .digit = true
  /-- The printable units that are no space are the graphic ones. -/
  graph_iff : member .graph = true ↔ member .print = true ∧ ¬ member .space = true
  /-- Every blank is a space. -/
  space_of_blank : member .blank = true → member .space = true
  /-- No control character is printable. -/
  cntrl_apart_print : ¬ (member .cntrl = true ∧ member .print = true)

/-- The laws hold of a unit that belongs to no class. -/
theorem BasicClass.lawful_none : Lawful fun _ => false := by
  constructor <;> simp

/-- The laws hold of every code in the table of ASCII. -/
theorem Ascii.lawful_holds (code : Nat) : BasicClass.Lawful fun c => holds c code := by
  constructor
  · simp only [holds, Bool.or_eq_true]
  · simp [holds]
  · simp only [holds, isBlank, isSpace, Bool.or_eq_true, beq_iff_eq]
    rintro (rfl | space)
    · exact Or.inl rfl
    · exact Or.inr space
  · simp only [holds, isControl, isPrint, between, Bool.or_eq_true, Bool.and_eq_true,
      decide_eq_true_eq, beq_iff_eq]
    omega

/-- The laws hold in every region of the upper half of ISO-8859-1. -/
theorem Latin1.Region.lawful_holds (region : Region) : BasicClass.Lawful region.holds := by
  constructor <;> cases region <;> decide

/-- The laws hold of every code in the table of ISO-8859-1. -/
theorem Latin1.lawful_holds (code : Nat) : BasicClass.Lawful fun c => holds c code := by
  unfold holds
  by_cases lower : code < 0x80
  · simp only [if_pos lower]
    exact Ascii.lawful_holds code
  · simp only [if_neg lower]
    cases region? code with
    | none => exact BasicClass.lawful_none
    | some region => exact region.lawful_holds

/-- The laws hold of every character, whatever is known about it. -/
theorem Unicode.CharacterData.lawful_basic (data : CharacterData) (c : Char) :
    BasicClass.Lawful fun one => data.basic one c := by
  constructor
  · simp only [basic, Bool.or_eq_true]
  · -- A space separator that is no white space is graphic, so it is no exception.
    simp only [basic, isPrint, isGraph]
    cases data.whiteSpace c <;> cases data.category c <;> decide
  · simp only [basic, isBlank, Bool.and_eq_true, and_assoc]
    exact And.left
  · simp only [basic, isPrint, Bool.and_eq_true, beq_iff_eq, bne_iff_ne]
    rintro ⟨control, _, ordinary⟩
    exact ordinary control

namespace Encoding

/-- A law of membership holds in every encoding if it holds in the two tables, by any character
data, and of a unit that belongs to no class. -/
theorem isBasic_induction {law : (BasicClass → Bool) → Prop}
    (ascii : ∀ code, law fun c => Ascii.holds c code)
    (latin1 : ∀ code, law fun c => Latin1.holds c code)
    (character : ∀ (data : CharacterData) (one : Char), law fun c => data.basic c one)
    (outside : law fun _ => false) (e : Encoding) (unit : e.Unit) :
    law fun c => e.isBasic c unit := by
  have scalar (data : CharacterData) : ∀ one? : Option Char, law fun c => one?.any (data.basic c)
    | none => outside
    | some one => character data one
  cases e with
  | ascii => exact ascii unit.code
  | latin1 => exact latin1 unit.code
  | narrow locale =>
    cases locale with
    | c => exact ascii unit.code
    | latin1 => exact latin1 unit.code
    | utf8 => exact ascii unit.code
  | wide data locale =>
    cases locale with
    | c => exact ascii unit.code
    | latin1 => exact latin1 unit.code
    | utf8 => exact scalar data unit.scalar?
  | unicode data =>
    simp only [isBasic_unicode]
    exact scalar data unit.scalar?

/-- In every encoding, under every locale and by any character data, the basic classes of every unit
obey the laws: alphanumeric is a letter or a digit, graphic is printable and no space, a blank is a
space, and a control character is not printable. -/
theorem lawful_isBasic (e : Encoding) (unit : e.Unit) :
    BasicClass.Lawful fun c => e.isBasic c unit :=
  isBasic_induction Ascii.lawful_holds Latin1.lawful_holds CharacterData.lawful_basic
    BasicClass.lawful_none e unit

end Encoding

end Charwise
