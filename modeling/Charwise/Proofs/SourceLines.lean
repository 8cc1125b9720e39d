import Charwise.Location
import Mathlib.Data.List.TakeWhile

/-!
# Lines of a source

The lines of a source are its pieces between newlines, and the same lines come out if the whole
source is rendered and the text is cut at its line feeds, because a unit is rendered as a line feed
exactly if it is a newline (`CodeUnit.splitOn_render`). The position of a location cuts its line in
two: what is in front of it is as long as the offset (`Location.exists_cut`).
-/

namespace Charwise

variable {kind : UnitKind} {source : List (CodeUnit kind)}

namespace CodeUnit

/-- There is always a first line. -/
theorem lines_ne_nil (source : List (CodeUnit kind)) : lines source ≠ [] := by
  intro none
  have count := length_lines source
  rw [none] at count
  exact absurd count (Nat.succ_ne_zero _).symm

/-- A unit that is no newline is put in front of the first line of what follows it. -/
theorem lines_cons (unit : CodeUnit kind) (rest : List (CodeUnit kind)) :
    lines (unit :: rest) =
      if unit.isNewline then [] :: lines rest else (lines rest).modifyHead (unit :: ·) := by
  rw [lines]
  split
  · rfl
  · cases found : lines rest with
    | nil => exact absurd found (lines_ne_nil rest)
    | cons line later => rfl

/-- The lines are the pieces between newlines. -/
theorem lines_eq_splitOnP (source : List (CodeUnit kind)) :
    lines source = source.splitOnP isNewline := by
  induction source with
  | nil => rfl
  | cons unit rest ih => rw [lines_cons, List.splitOnP_cons_eq_if_modifyHead, ih]

/-- A unit is rendered as a line feed exactly if it is a newline. -/
theorem toChar_eq_lineFeed_iff (unit : CodeUnit kind) :
    unit.toChar = '\n' ↔ unit.isNewline = true := by
  rw [isNewline, beq_iff_eq]
  cases character : unit.scalar? with
  | none =>
    rw [toChar_of_none character]
    refine iff_of_false (by decide) fun ends => ?_
    have feed : unit.scalar? = some '\n' := scalar?_eq_some_iff.2 ends.symm
    rw [character] at feed
    contradiction
  | some c =>
    rw [toChar_of_some character, ← scalar?_eq_some_iff.1 character, ← Char.toNat_inj]
    rfl

/-- The rendered source, cut at its line feeds, gives the rendered lines. -/
theorem splitOn_render (source : List (CodeUnit kind)) :
    (render source).toList.splitOn '\n' = (lines source).map (List.map toChar) := by
  rw [render, String.toList_ofList, List.splitOn]
  induction source with
  | nil => rfl
  | cons unit rest ih =>
    have feeds : (unit.toChar == '\n') = unit.isNewline := by
      rw [Bool.eq_iff_iff, beq_iff_eq, toChar_eq_lineFeed_iff]
    rw [List.map_cons, List.splitOnP_cons_eq_if_modifyHead, ih, feeds, lines_cons]
    split
    · rfl
    · cases lines rest <;> rfl

/-- A source is cut around the line of a number: the line has no newline in it, stands between
newlines or the ends of the source, and has one newline in front of it for each earlier line. -/
structure CutAround (source : List (CodeUnit kind)) (number : Nat)
    (front line back : List (CodeUnit kind)) : Prop where
  /-- The three parts make up the source. -/
  source_eq : source = front ++ line ++ back
  /-- There is one newline for each earlier line. -/
  number_eq : number = front.countP isNewline + 1
  /-- The line is the first, or follows a newline. -/
  opened : front = [] ∨ front.getLast? = some .newline
  /-- There is no newline in the line. -/
  unbroken : ∀ unit ∈ line, unit.isNewline = false
  /-- The line is the last, or a newline follows it. -/
  closed : back = [] ∨ back.head? = some .newline

/-- The line that a source is cut around is the line of that number. -/
theorem CutAround.getElem?_lines {number : Nat} {front line back : List (CodeUnit kind)}
    (cut : CutAround source number front line back) :
    (lines source)[number - 1]? = some line := by
  obtain ⟨rfl, rfl, opened, unbroken, closed⟩ := cut
  have first : ∃ later, lines (line ++ back) = line :: later := by
    rw [lines_eq_splitOnP]
    obtain rfl | more := closed
    · rw [List.append_nil, List.splitOnP_eq_singleton unbroken]
      exact ⟨[], rfl⟩
    · obtain ⟨later, rfl⟩ := List.head?_eq_some_iff.1 more
      rw [List.splitOnP_append_cons_of_forall_mem unbroken _ rfl]
      exact ⟨_, rfl⟩
  obtain ⟨later, first⟩ := first
  rw [List.append_assoc, Nat.add_sub_cancel]
  obtain rfl | ended := opened
  · rw [List.nil_append, first]
    rfl
  · obtain ⟨earlier, rfl⟩ := List.getLast?_eq_some_iff.1 ended
    have count : (lines earlier).length = (earlier ++ [newline]).countP isNewline := by
      rw [length_lines, List.countP_append]
      rfl
    rw [List.append_assoc, List.singleton_append, lines_eq_splitOnP,
      List.splitOnP_append_cons _ _ rfl, ← lines_eq_splitOnP, ← lines_eq_splitOnP, first,
      List.getElem?_append_right (Nat.le_of_eq count), count, Nat.sub_self]
    rfl

/-- The units up to the first newline have none among them. -/
theorem isNewline_of_mem_takeWhile {units : List (CodeUnit kind)} {unit : CodeUnit kind}
    (member : unit ∈ units.takeWhile (!·.isNewline)) : unit.isNewline = false := by
  have held := List.mem_takeWhile_imp member
  rwa [Bool.not_eq_true'] at held

/-- What follows the units up to the first newline begins with it, unless there is none. -/
theorem head?_dropWhile_newline (units : List (CodeUnit kind)) :
    units.dropWhile (!·.isNewline) = [] ∨
      (units.dropWhile (!·.isNewline)).head? = some .newline := by
  have stops := List.head?_dropWhile_not (fun unit : CodeUnit kind => !unit.isNewline) units
  cases found : (units.dropWhile (!·.isNewline)).head? with
  | none => exact Or.inl (List.head?_eq_none_iff.1 found)
  | some unit =>
    rw [found] at stops
    have ends : unit.isNewline = true := by simpa using stops
    exact Or.inr (congrArg some (isNewline_iff.1 ends))

end CodeUnit

namespace Location

open CodeUnit

/-- The units in front of a position are those in front of its line and those of the line. -/
theorem exists_before_eq (location : Location kind) :
    ∃ front head, location.before = front ++ head ∧ front.length = location.lineStart ∧
      front.countP isNewline + 1 = location.line ∧
      (front = [] ∨ front.getLast? = some .newline) ∧ ∀ unit ∈ head, unit.isNewline = false := by
  let front := (location.before.reverse.dropWhile (!·.isNewline)).reverse
  let head := (location.before.reverse.takeWhile (!·.isNewline)).reverse
  have parts : location.before = front ++ head := by
    rw [← List.reverse_append, List.takeWhile_append_dropWhile, List.reverse_reverse]
  have unbroken : ∀ unit ∈ head, unit.isNewline = false := fun unit member =>
    isNewline_of_mem_takeWhile (List.mem_reverse.1 member)
  have none : head.countP isNewline = 0 := by
    rw [List.countP_eq_zero]
    exact fun unit member => Bool.eq_false_iff.1 (unbroken unit member)
  refine ⟨front, head, parts, ?_, ?_, ?_, unbroken⟩
  · have lengths := congrArg List.length parts
    have held : head.length = (location.before.reverse.takeWhile (!·.isNewline)).length :=
      List.length_reverse
    rw [List.length_append] at lengths
    rw [lineStart]
    omega
  · rw [line, parts, List.countP_append, none, Nat.add_zero]
  · rw [List.getLast?_reverse, List.reverse_eq_nil_iff]
    exact head?_dropWhile_newline _

/-- The source is cut around the line of a location at the beginning of the line. The units of the
line in front of the position are as many as the offset, up to the end of the source, and the unit
at the position is the first of the others. -/
theorem exists_cut (location : Location kind) :
    ∃ front head tail back,
      CutAround location.source location.line front (head ++ tail) back ∧
        front.length = location.lineStart ∧ location.before = front ++ head ∧
        location.source.drop location.position = tail ++ back := by
  obtain ⟨front, head, parts, start, count, opened, unbroken⟩ := location.exists_before_eq
  let rest := location.source.drop location.position
  have behind : rest = rest.takeWhile (!·.isNewline) ++ rest.dropWhile (!·.isNewline) :=
    List.takeWhile_append_dropWhile.symm
  refine ⟨front, head, rest.takeWhile (!·.isNewline), rest.dropWhile (!·.isNewline),
    ⟨?_, count.symm, opened, ?_, head?_dropWhile_newline rest⟩, start, parts, behind⟩
  · rw [← List.append_assoc, ← parts, List.append_assoc, ← behind]
    exact (List.take_append_drop location.position location.source).symm
  · intro unit member
    obtain early | late := List.mem_append.1 member
    · exact unbroken unit early
    · exact isNewline_of_mem_takeWhile late

end Location

end Charwise
