/-!
# Code units

An input is a list of code units. A unit is a number that its kind admits, so units of every kind
are compared by their codes, and a unit is moved to a wider kind by showing that the wider kind
admits the same number.
-/

namespace Charwise

/-- The kinds of units that inputs are made of. -/
inductive UnitKind where
  /-- Numbers of eight bits. -/
  | octet
  /-- Unicode scalar values, which are the code points without the surrogates. -/
  | scalar
  /-- Numbers of 32 bits, code points or not. -/
  | word
  deriving DecidableEq

/-- The numbers that are units of a kind. -/
def UnitKind.Admits : UnitKind → Nat → Prop
  | .octet, code => code < 0x100
  | .scalar, code => code.isValidChar
  | .word, code => code < 0x100000000

instance UnitKind.decidableAdmits (kind : UnitKind) (code : Nat) :
    Decidable (kind.Admits code) := by
  cases kind <;> unfold UnitKind.Admits <;> infer_instance

/-- Every kind has the units of seven bits. -/
theorem UnitKind.admits_of_lt (kind : UnitKind) {code : Nat} (small : code < 0x80) :
    kind.Admits code := by
  cases kind
  · exact Nat.lt_trans small (by decide)
  · exact Or.inl (Nat.lt_trans small (by decide))
  · exact Nat.lt_trans small (by decide)

/-- One element of an input. -/
structure CodeUnit (kind : UnitKind) where
  /-- The number that the unit is. -/
  code : Nat
  /-- The kind of the unit admits its number. -/
  admitted : kind.Admits code
  deriving DecidableEq

namespace CodeUnit

variable {kind : UnitKind}

/-- A unit is determined by its code. -/
@[ext] theorem ext_code {a b : CodeUnit kind} (same : a.code = b.code) : a = b := by
  cases a; cases b; cases same; rfl

/-- The unit of a number, if the kind admits the number. -/
def ofNat? (kind : UnitKind) (code : Nat) : Option (CodeUnit kind) :=
  if admitted : kind.Admits code then some ⟨code, admitted⟩ else none

/-- A number is a unit exactly if the kind admits it, and then it is the code of that unit. -/
theorem ofNat?_eq_some_iff {code : Nat} {unit : CodeUnit kind} :
    ofNat? kind code = some unit ↔ unit.code = code := by
  unfold ofNat?
  split
  · rename_i admitted
    rw [Option.some.injEq]
    exact ⟨fun same => same ▸ rfl, fun same => ext_code same.symm⟩
  · rename_i refused
    exact ⟨fun absurd => (Option.some_ne_none unit absurd.symm).elim,
      fun same => (refused (same ▸ unit.admitted)).elim⟩

/-- Units are ordered by their codes. -/
instance : LE (CodeUnit kind) := ⟨fun a b => a.code ≤ b.code⟩

instance (a b : CodeUnit kind) : Decidable (a ≤ b) := inferInstanceAs (Decidable (a.code ≤ b.code))

/-- The order of units is the order of their codes. -/
theorem le_iff_code {a b : CodeUnit kind} : a ≤ b ↔ a.code ≤ b.code := Iff.rfl

/-- The line feed, which ends a line in every kind of input. -/
def newline : CodeUnit kind := ⟨0x0A, kind.admits_of_lt (by decide)⟩

/-- The hyphen, which joins the ends of a range in the definition of a set. -/
def hyphen : CodeUnit kind := ⟨0x2D, kind.admits_of_lt (by decide)⟩

/-- Whether a unit ends a line. -/
def isNewline (unit : CodeUnit kind) : Bool := unit.code == 0x0A

/-- The units that end a line are the line feeds. -/
theorem isNewline_iff {unit : CodeUnit kind} : unit.isNewline = true ↔ unit = newline := by
  constructor
  · exact fun ends => ext_code (eq_of_beq ends)
  · exact fun same => same ▸ rfl

/-- The character of a unit whose code is a scalar value. -/
def scalar? (unit : CodeUnit kind) : Option Char :=
  if valid : unit.code.isValidChar then some (Char.ofNatAux unit.code valid) else none

/-- Every unit of a text is a character. -/
theorem scalar?_of_scalar (unit : CodeUnit .scalar) :
    unit.scalar? = some (Char.ofNatAux unit.code unit.admitted) :=
  dif_pos unit.admitted

/-- The character of a unit is the one with the same code. -/
theorem scalar?_eq_some_iff {unit : CodeUnit kind} {c : Char} :
    unit.scalar? = some c ↔ c.toNat = unit.code := by
  by_cases valid : unit.code.isValidChar
  · rw [scalar?, dif_pos valid, Option.some.injEq, ← Char.toNat_inj]
    exact eq_comm
  · rw [scalar?, dif_neg valid]
    refine iff_of_false (Option.some_ne_none c).symm fun same => valid ?_
    rw [← same]
    exact c.valid

/-- A unit as one of a kind that is the same. -/
def recast {other : UnitKind} (same : kind = other) (unit : CodeUnit kind) : CodeUnit other :=
  ⟨unit.code, same ▸ unit.admitted⟩

/-- The scalar unit that a character is. -/
def ofChar (c : Char) : CodeUnit .scalar := ⟨c.toNat, c.valid⟩

end CodeUnit

end Charwise
