import Charwise.CodeUnit.Text

/-!
# Locations

A location is a position in a source, as it is reported to a reader: by line and offset, and by an
excerpt of the lines around it with a pointer below the unit in question.
-/

namespace Charwise

variable {kind : UnitKind}

/-- A position in a source. A position behind the end counts as one on the last line. -/
structure Location (kind : UnitKind) where
  /-- The source. -/
  source : List (CodeUnit kind)
  /-- The number of units in front of the position. -/
  position : Nat
  deriving DecidableEq

/-- The lines of a source, without the newlines that separate them. There is one more line than
there are newlines, so a newline at the end leaves an empty line. -/
def CodeUnit.lines : List (CodeUnit kind) → List (List (CodeUnit kind))
  | [] => [[]]
  | unit :: rest =>
    if unit.isNewline then [] :: lines rest
    else
      match lines rest with
      | [] => [[unit]]
      | line :: later => (unit :: line) :: later

/-- A source has one more line than it has newlines. -/
theorem CodeUnit.length_lines (source : List (CodeUnit kind)) :
    (lines source).length = source.countP (·.isNewline) + 1 := by
  induction source with
  | nil => rfl
  | cons unit rest ih =>
    by_cases ends : unit.isNewline = true
    · simp [lines, ends, ih]
    · rw [lines, if_neg ends]
      split
      · rename_i none
        simp [none] at ih
      · rename_i line later split
        rw [split] at ih
        simpa [ends] using ih

namespace Location

/-- The units in front of a location. -/
def before (location : Location kind) : List (CodeUnit kind) :=
  location.source.take location.position

/-- The number of the line of a location; the first line has the number one. -/
def line (location : Location kind) : Nat :=
  location.before.countP (·.isNewline) + 1

/-- The position at which the line of a location begins. -/
def lineStart (location : Location kind) : Nat :=
  location.before.length - (location.before.reverse.takeWhile (!·.isNewline)).length

/-- The number of units between the beginning of the line and the location. -/
def offset (location : Location kind) : Nat :=
  location.position - location.lineStart

/-- A line begins at most at the location. -/
theorem lineStart_le_position (location : Location kind) :
    location.lineStart ≤ location.position := by
  have : location.before.length ≤ location.position := List.length_take_le ..
  unfold lineStart
  omega

/-- The offset counts from the beginning of the line. -/
theorem lineStart_add_offset (location : Location kind) :
    location.lineStart + location.offset = location.position :=
  Nat.add_sub_cancel' location.lineStart_le_position

/-- The numbered lines that an excerpt shows: those at most two lines away from the location. A line
that is empty is only shown if it is the first one or the location is on it. -/
def window (location : Location kind) : List (List (CodeUnit kind) × Nat) :=
  ((CodeUnit.lines location.source).zipIdx 1).filter fun (content, number) =>
    location.line - 2 ≤ number && number ≤ location.line + 2 &&
      (!content.isEmpty || number == location.line || number == 1)

/-- What is in front of a line in an excerpt. The line of the location is marked. -/
def gutter (location : Location kind) (number : Nat) : String :=
  (if number = location.line then "  > " else "    ") ++ toString number ++ " | "

/-- The pointer below the line of the location. -/
def pointer (location : Location kind) : String :=
  let indent := (location.gutter location.line).length + location.offset
  String.ofList (List.replicate indent ' ') ++ "^--- here"

/-- The excerpt, line by line. -/
def excerpt (location : Location kind) : List String :=
  location.window.flatMap fun (content, number) =>
    let text := location.gutter number ++ CodeUnit.render content
    if number = location.line then [text, location.pointer] else [text]

end Location

end Charwise
