import Charwise.CodeUnit.Text

/-!
# Wider kinds of units

A kind that admits all numbers of another one is wider. A unit is a unit of the wider kind with the
same code, and all that is read from the code stays the same: the order of units, the newline, the
hyphen, and the character that stands for the unit in rendered source.
-/

namespace Charwise

/-- A kind admits all the numbers that another one admits. -/
def UnitKind.Within (kind wider : UnitKind) : Prop :=
  ∀ code, kind.Admits code → wider.Admits code

/-- Every octet is a scalar value. -/
theorem UnitKind.octet_within_scalar : octet.Within scalar := by
  intro code admitted
  exact Or.inl (Nat.lt_trans admitted (by decide))

/-- Every scalar value is a word. -/
theorem UnitKind.scalar_within_word : scalar.Within word := by
  rintro code (low | ⟨_, high⟩)
  · exact Nat.lt_trans low (by decide)
  · exact Nat.lt_trans high (by decide)

namespace CodeUnit

variable {kind wider : UnitKind} {within : kind.Within wider} {a b unit : CodeUnit kind}

/-- The unit of a wider kind with the same code. -/
def widen (within : kind.Within wider) (unit : CodeUnit kind) : CodeUnit wider :=
  ⟨unit.code, within unit.code unit.admitted⟩

/-- Units are the same if they are so in a wider kind. -/
@[simp] theorem widen_inj : a.widen within = b.widen within ↔ a = b := by
  constructor
  · intro same
    have codes : (a.widen within).code = (b.widen within).code := congrArg code same
    exact ext_code codes
  · rintro rfl
    rfl

/-- The order of units stays the same. -/
@[simp] theorem widen_le_widen : a.widen within ≤ b.widen within ↔ a ≤ b := Iff.rfl

/-- Only the hyphen becomes the hyphen. -/
@[simp] theorem widen_eq_hyphen : unit.widen within = hyphen ↔ unit = hyphen :=
  widen_inj (b := hyphen)

/-- Only the newline becomes a newline. -/
@[simp] theorem isNewline_widen : (unit.widen within).isNewline = unit.isNewline := rfl

/-- A wider unit is the same character. -/
@[simp] theorem scalar?_widen : (unit.widen within).scalar? = unit.scalar? := rfl

/-- A wider unit is rendered by the same character. -/
@[simp] theorem toChar_widen : (unit.widen within).toChar = unit.toChar := rfl

/-- A run of wider units is rendered as the same text. -/
@[simp] theorem render_map_widen (units : List (CodeUnit kind)) :
    render (units.map (widen within)) = render units := by
  simp [render, Function.comp_def]

end CodeUnit

end Charwise
