import Charwise.Cursor
import Charwise.ParseError

/-!
# Reading at a cursor

Reading the unit at a place and stepping forward fail at the end of a source, and say so there.
-/

namespace Charwise.Cursor

variable {kind : UnitKind} {source : List (CodeUnit kind)}

/-- The error of a cause at a place. -/
def fail (c : Cursor source) (cause : ErrorCause) : ParseError kind :=
  ⟨cause, source, c.position⟩

/-- The error of a cause at the end of a source. -/
def failAtEnd (source : List (CodeUnit kind)) (cause : ErrorCause) : ParseError kind :=
  ⟨cause, source, source.length⟩

/-- The unit at a place, or the error of asking for one at the end. -/
def value (c : Cursor source) : Except (ParseError kind) (CodeUnit kind) :=
  match c.unit? with
  | some unit => .ok unit
  | none => .error (failAtEnd source .noUnitAtEnd)

/-- One step forward that must not lead to the end. -/
def tryNext (c : Cursor source) : Except (ParseError kind) (Cursor source) :=
  if c.atEnd then .error (failAtEnd source .alreadyAtEnd)
  else if c.next.atEnd then .error (failAtEnd source .unexpectedEnd)
  else .ok c.next

/-- A unit can be read everywhere but at the end. -/
theorem value_of_lt {c : Cursor source} (inside : c.position < source.length) :
    c.value = .ok source[c.position] := by
  simp [value, unit?_eq_getElem?, inside]

/-- Behind the last unit there is none to read. -/
theorem value_of_le {c : Cursor source} (outside : source.length ≤ c.position) :
    c.value = .error (failAtEnd source .noUnitAtEnd) := by
  simp [value, unit?_eq_getElem?, outside]

end Charwise.Cursor
