import Charwise.Location
import Mathlib.Data.Prod.Lex

/-!
# Line and offset of a position

Where the next unit is a newline, the position behind it begins the next line; where it is not, the
position behind it stays on the line, one unit further on (`Location.further_of_newline`,
`Location.further_of_not_newline`). So what each unit keeps holds of every line and its start
(`Location.line_induction`), and line and offset together grow with the position: no two positions
have the same (`Location.line_offset_identify`). Positions behind the source go on along its last
line.
-/

namespace Charwise

variable {kind : UnitKind} {source : List (CodeUnit kind)}

/-- A unit that is found where there is no newline ends no line. -/
theorem CodeUnit.isNewline_eq_false {index : Nat} {unit : CodeUnit kind}
    (plain : source[index]? ≠ some .newline) (present : source[index]? = some unit) :
    unit.isNewline = false := by
  rw [Bool.eq_false_iff, Ne, isNewline_iff]
  rintro rfl
  exact plain present

namespace Location

open CodeUnit

variable {location : Location kind}

/-- The line of a number begins at a position: the first line at the start of the source, and every
other line behind the newline that ends the line before it. -/
inductive BeginsLine (source : List (CodeUnit kind)) : Nat → Nat → Prop where
  /-- The first line begins at the start. -/
  | first : BeginsLine source 1 0
  /-- Behind the newline of a number, the line of the next number begins. -/
  | behind {number index : Nat} (ends : source[index]? = some .newline)
      (count : (source.take index).countP isNewline + 1 = number) :
      BeginsLine source (number + 1) (index + 1)

/-- The position one unit further on. -/
def further (location : Location kind) : Location kind :=
  { location with position := location.position + 1 }

/-- Line and offset, by which a position is reported. -/
def coordinates (location : Location kind) : Nat × Nat := (location.line, location.offset)

/-- Lines are counted unit by unit, each one with its index: behind a newline, the next line
begins. -/
def countLine (found : Nat × Nat) (entry : CodeUnit kind × Nat) : Nat × Nat :=
  if entry.1.isNewline then (found.1 + 1, entry.2 + 1) else found

/-- One unit further on, the unit at the position is in front as well, if there is one. -/
theorem before_further (location : Location kind) :
    location.further.before =
      location.before ++ location.source[location.position]?.toList :=
  List.take_add_one

/-- All units in front of a position are there if there is one at it. -/
theorem length_before {unit : CodeUnit kind}
    (present : location.source[location.position]? = some unit) :
    location.before.length = location.position := by
  have inside : location.position < location.source.length :=
    (List.getElem?_eq_some_iff.1 present).1
  exact List.length_take_of_le (Nat.le_of_lt inside)

/-- Behind a newline, the next line begins. -/
theorem further_of_newline (ends : location.source[location.position]? = some .newline) :
    location.further.line = location.line + 1 ∧
      location.further.lineStart = location.position + 1 := by
  have units : location.further.before = location.before ++ [.newline] := by
    rw [before_further, ends]
    rfl
  constructor
  · rw [line, units, List.countP_append]
    rfl
  · rw [lineStart, units, List.reverse_append, List.length_append, length_before ends]
    rfl

/-- Behind any other unit, and behind the end of the source, the line goes on. -/
theorem further_of_not_newline (plain : location.source[location.position]? ≠ some .newline) :
    location.further.line = location.line ∧ location.further.lineStart = location.lineStart := by
  cases present : location.source[location.position]? with
  | none =>
    have units : location.further.before = location.before := by
      rw [before_further, present]
      exact List.append_nil _
    rw [line, lineStart, units]
    exact ⟨rfl, rfl⟩
  | some unit =>
    have units : location.further.before = location.before ++ [unit] := by
      rw [before_further, present]
      rfl
    have inner : unit.isNewline = false := isNewline_eq_false plain present
    constructor
    · rw [line, units, List.countP_append, List.countP_singleton, inner]
      rfl
    · rw [lineStart, units, List.reverse_append, List.length_append]
      simp only [List.reverse_singleton, List.singleton_append, inner, Bool.not_false,
        List.takeWhile_cons_of_pos, List.length_cons, List.length_nil]
      rw [lineStart]
      omega

/-- What holds at the start, and is kept by each unit, holds of the line and its start everywhere:
a newline leads to the next line, which starts behind it, and any other unit leads on along the
line. -/
theorem line_induction (source : List (CodeUnit kind)) (holds : Nat → Nat → Nat → Prop)
    (first : holds 0 1 0)
    (behind : ∀ position start, source[position]? = some .newline →
      holds position (line ⟨source, position⟩) start →
        holds (position + 1) (line ⟨source, position⟩ + 1) (position + 1))
    (along : ∀ position start, source[position]? ≠ some .newline →
      holds position (line ⟨source, position⟩) start →
        holds (position + 1) (line ⟨source, position⟩) start) (position : Nat) :
    holds position (line ⟨source, position⟩) (lineStart ⟨source, position⟩) := by
  induction position with
  | zero => exact first
  | succ position before =>
    let location : Location kind := ⟨source, position⟩
    change holds (position + 1) location.further.line location.further.lineStart
    by_cases ends : location.source[location.position]? = some .newline
    · obtain ⟨nextLine, nextStart⟩ := further_of_newline ends
      rw [nextLine, nextStart]
      exact behind position _ ends before
    · obtain ⟨sameLine, sameStart⟩ := further_of_not_newline ends
      rw [sameLine, sameStart]
      exact along position _ ends before

/-- Counting lines over the units in front of a position finds the line of the position, and where
that line starts. -/
theorem foldl_countLine (source : List (CodeUnit kind)) (position : Nat) :
    (source.take position).zipIdx.foldl countLine (1, 0) =
      (line ⟨source, position⟩, lineStart ⟨source, position⟩) := by
  apply line_induction source fun position line start =>
    (source.take position).zipIdx.foldl countLine (1, 0) = (line, start)
  case first => rfl
  case behind =>
    intro position start ends counted
    have length : (before ⟨source, position⟩).length = position := length_before ends
    change (source.take position).length = position at length
    rw [List.take_add_one, ends, List.zipIdx_append, List.foldl_append, counted, length,
      Nat.zero_add]
    rfl
  case along =>
    intro position start plain counted
    rw [List.take_add_one, List.zipIdx_append, List.foldl_append, counted]
    cases present : source[position]? with
    | none => rfl
    | some unit =>
      have inner : unit.isNewline = false := isNewline_eq_false plain present
      exact if_neg (Bool.eq_false_iff.1 inner)

/-- The line of a position begins at its start. -/
theorem beginsLine (source : List (CodeUnit kind)) (position : Nat) :
    BeginsLine source (line ⟨source, position⟩) (lineStart ⟨source, position⟩) :=
  line_induction source (fun _ line start => BeginsLine source line start) .first
    (fun _ _ ends _ => .behind ends rfl) (fun _ _ _ begins => begins) position

/-- From the start of a line up to a position on it, there is no newline. -/
theorem not_newline_of_lineStart_le (source : List (CodeUnit kind)) (position : Nat) :
    ∀ index, lineStart ⟨source, position⟩ ≤ index → index < position →
      source[index]? ≠ some .newline := by
  apply line_induction source fun position _ start =>
    ∀ index, start ≤ index → index < position → source[index]? ≠ some .newline
  case first => exact fun index _ before => absurd before (Nat.not_lt_zero index)
  case behind =>
    intro position start _ _ index fromStart before
    exact absurd (Nat.lt_of_lt_of_le before fromStart) (Nat.lt_irrefl _)
  case along =>
    intro position start plain unbroken index fromStart before
    obtain earlier | rfl := Nat.lt_succ_iff_lt_or_eq.1 before
    · exact unbroken index fromStart earlier
    · exact plain

/-- Line and offset grow with the position: a newline leads to the next line, and any other unit one
unit further on along the line. -/
theorem strictMono_coordinates (source : List (CodeUnit kind)) :
    StrictMono fun position => toLex (coordinates ⟨source, position⟩) := by
  apply strictMono_nat_of_lt_succ
  intro position
  let location : Location kind := ⟨source, position⟩
  change toLex location.coordinates < toLex location.further.coordinates
  rw [coordinates, coordinates, Prod.Lex.toLex_lt_toLex]
  by_cases ends : location.source[location.position]? = some .newline
  · left
    rw [(further_of_newline ends).1]
    exact Nat.lt_succ_self location.line
  · obtain ⟨sameLine, sameStart⟩ := further_of_not_newline ends
    right
    refine ⟨sameLine.symm, ?_⟩
    have here := location.lineStart_add_offset
    have there := location.further.lineStart_add_offset
    have step : location.further.position = location.position + 1 := rfl
    rw [sameStart, step] at there
    change location.offset < location.further.offset
    omega

/-- What the line and the offset of a position say about it. -/
structure Readable (location : Location kind) : Prop where
  /-- Line and start are found by counting over the units in front of the position. -/
  counted : (location.source.take location.position).zipIdx.foldl countLine (1, 0) =
    (location.line, location.lineStart)
  /-- Lines are numbered from one. -/
  one_le_line : 1 ≤ location.line
  /-- In front of the position there is one newline for each earlier line. -/
  newlines_before :
    (location.source.take location.position).countP isNewline = location.line - 1
  /-- The line begins at its start. -/
  begins : BeginsLine location.source location.line location.lineStart
  /-- The line begins at the position or in front of it, so that the offset can be subtracted. -/
  lineStart_le : location.lineStart ≤ location.position
  /-- The position is as far behind the start of its line as the offset says. -/
  position_eq : location.position = location.offset + location.lineStart
  /-- From the start of the line up to the position there is no newline. -/
  unbroken : ∀ index unit, location.lineStart ≤ index → index < location.position →
    location.source[index]? = some unit → unit.isNewline = false

/-- Line and offset identify a position, in the source or behind its end. The line says how many
newlines are in front of the position, and the offset how far the position is behind the last of
them, without ever going below zero. With the position they grow strictly, in lexicographic order,
and so no two positions have the same line and offset. -/
theorem line_offset_identify (source : List (CodeUnit kind)) :
    (∀ position, Readable ⟨source, position⟩) ∧
      (StrictMono fun position => toLex (coordinates ⟨source, position⟩)) ∧
      Function.Injective fun position => coordinates ⟨source, position⟩ := by
  refine ⟨fun position => ?_, strictMono_coordinates source, ?_⟩
  · let location : Location kind := ⟨source, position⟩
    constructor
    · exact foldl_countLine source position
    · exact Nat.le_add_left 1 _
    · rfl
    · exact beginsLine source position
    · exact location.lineStart_le_position
    · rw [Nat.add_comm]
      exact location.lineStart_add_offset.symm
    · intro index unit fromStart before
      exact isNewline_eq_false (not_newline_of_lineStart_le source position index fromStart before)
  · exact fun one two same => (strictMono_coordinates source).injective (congrArg toLex same)

end Location

end Charwise
