import Charwise.Proofs.Excerpt
import Mathlib.Data.List.Sort

/-!
# Lines nearby

An excerpt shows lines at most two lines away from its location, each behind its number and in the
order of the source. The first line and the line of the location are always shown. Any other line is
left out if it is empty, and not only the last one, behind a newline that ends the source: an
excerpt has no gaps if no other line nearby is empty, and only then (`Location.shows_nearby_iff`).
-/

namespace Charwise

variable {kind : UnitKind}

/-- The line of a number, empty if there is none. -/
def CodeUnit.lineAt (source : List (CodeUnit kind)) (number : Nat) : List (CodeUnit kind) :=
  (lines source)[number - 1]?.getD []

namespace Location

open CodeUnit

variable {location : Location kind} {number : Nat}

/-- The number of lines of the source, one more than it has newlines. -/
def lineCount (location : Location kind) : Nat :=
  location.source.countP isNewline + 1

/-- The numbers of the lines at most two lines away from a location, in order. -/
def nearby (location : Location kind) : List Nat :=
  let first := max 1 (location.line - 2)
  let last := min location.lineCount (location.line + 2)
  List.range' first (last + 1 - first)

/-- A location is on one of the lines of its source. -/
theorem line_le_lineCount (location : Location kind) : location.line ≤ location.lineCount :=
  Nat.succ_le_succ (List.take_sublist ..).countP_le

/-- The lines with their numbers. -/
theorem zipIdx_lines (source : List (CodeUnit kind)) :
    (lines source).zipIdx 1 =
      (List.range' 1 (lines source).length).map fun number => (lineAt source number, number) := by
  apply List.ext_getElem
  · simp
  · intro index inside _
    have present : index < (lines source).length := by simpa using inside
    simp [lineAt, present]

/-- The numbers nearby are those of lines, at most two away from that of the location. -/
theorem mem_nearby_iff :
    number ∈ location.nearby ↔
      max 1 (location.line - 2) ≤ number ∧
        number ≤ min location.lineCount (location.line + 2) := by
  rw [nearby, List.mem_range'_1]
  omega

/-- Of the numbers of all lines, those nearby are at most two away from that of the location. -/
theorem filter_range'_eq_nearby (location : Location kind) :
    ((List.range' 1 location.lineCount).filter fun number =>
        location.line - 2 ≤ number && number ≤ location.line + 2) = location.nearby := by
  have onLine := location.line_le_lineCount
  have all : (List.range' 1 location.lineCount).Pairwise (· < ·) := List.pairwise_lt_range'
  have some : location.nearby.Pairwise (· < ·) := List.pairwise_lt_range'
  -- Both lists ascend, so they are the same if they have the same members.
  refine (all.filter _).eq_of_mem_iff some fun number => ?_
  rw [List.mem_filter, List.mem_range'_1, mem_nearby_iff, Bool.and_eq_true, decide_eq_true_eq,
    decide_eq_true_eq]
  omega

/-- A line nearby is the piece of its number of the rendered source, cut at its line feeds. -/
theorem getElem?_splitOn_of_mem_nearby (near : number ∈ location.nearby) :
    ((render location.source).toList.splitOn '\n')[number - 1]? =
      some (render (lineAt location.source number)).toList := by
  have count : (lines location.source).length = location.lineCount := length_lines _
  have inside : number - 1 < (lines location.source).length := by
    have bounds := mem_nearby_iff.1 near
    omega
  rw [splitOn_render, List.getElem?_map, lineAt, List.getElem?_eq_getElem inside, render,
    String.toList_ofList]
  rfl

/-- Whether the line of a number is shown if it is nearby: it is not empty, or it is the line of the
location or the first line. -/
def stays (location : Location kind) (number : Nat) : Bool :=
  !(lineAt location.source number).isEmpty || number == location.line || number == 1

/-- Whether the line of a number is a last one that is empty, and the location is not on it. -/
def isRest (location : Location kind) (number : Nat) : Bool :=
  (lineAt location.source number).isEmpty && number == location.lineCount &&
    number != location.line

/-- An empty line stays if it is the first one or that of the location. -/
theorem stays_iff :
    location.stays number = true ↔
      (lineAt location.source number = [] → number = location.line ∨ number = 1) := by
  by_cases blank : lineAt location.source number = [] <;> simp [stays, blank]

/-- The rest behind the last newline is the last line, without a unit. -/
theorem isRest_iff :
    location.isRest number = true ↔
      lineAt location.source number = [] ∧ number = location.lineCount ∧
        number ≠ location.line := by
  simp [isRest, and_assoc]

/-- The line of a number as an excerpt shows it. -/
def lineText (location : Location kind) (number : Nat) : String :=
  location.gutter number ++ render (lineAt location.source number)

/-- The window has the lines nearby that stay, in order. -/
theorem window_eq_map (location : Location kind) :
    location.window = (location.nearby.filter location.stays).map
      fun number => (lineAt location.source number, number) := by
  have count : (lines location.source).length = location.lineCount := length_lines _
  rw [window_eq_filter, zipIdx_lines, count, List.filter_map, ← filter_range'_eq_nearby,
    List.filter_filter]
  congr 2
  funext number
  simp [keeps, stays, Bool.and_comm]

/-- The lines of an excerpt, but for the pointer, are the numbered ones of the window. -/
theorem filter_not_isPointer (location : Location kind) :
    (location.excerpt.filter fun text => !isPointer text) =
      location.window.map location.numbered := by
  obtain ⟨_, _, _, cut, _⟩ := location.exists_line
  obtain ⟨above, below, window, _, _, excerpt⟩ := exists_excerpt_eq cut.getElem?_lines
  have plain (entries : List (List (CodeUnit kind) × Nat)) :
      (entries.map location.numbered).filter (fun text => !isPointer text) =
        entries.map location.numbered := by
    rw [List.filter_eq_self]
    intro text member
    obtain ⟨entry, _, rfl⟩ := List.mem_map.1 member
    rw [isPointer_numbered]
    rfl
  rw [excerpt, window, List.filter_append, List.filter_append, plain, plain]
  simp [isPointer_numbered, isPointer_pointer]

/-- The lines of an excerpt, but for the pointer, are those nearby that stay, in order. -/
theorem filter_not_isPointer_eq_map (location : Location kind) :
    (location.excerpt.filter fun text => !isPointer text) =
      (location.nearby.filter location.stays).map location.lineText := by
  rw [filter_not_isPointer, window_eq_map, List.map_map]
  rfl

/-- What stays is not the rest behind the last newline. -/
theorem not_isRest_of_stays (stays : location.stays number = true) :
    (!location.isRest number) = true := by
  have onLine := location.line_le_lineCount
  have positive : 0 < location.line := Nat.succ_pos _
  rw [Bool.not_eq_true', Bool.eq_false_iff]
  intro rest
  obtain ⟨blank, last, away⟩ := isRest_iff.1 rest
  obtain same | first := stays_iff.1 stays blank
  · exact away same
  · omega

/-- To stay is not to be the rest behind the last newline, unless a line in between is empty. -/
theorem stays_eq_not_isRest_iff :
    (location.stays number = !location.isRest number) ↔
      (lineAt location.source number = [] →
        number = 1 ∨ number = location.line ∨ number = location.lineCount) := by
  have onLine := location.line_le_lineCount
  have positive : 0 < location.line := Nat.succ_pos _
  rw [Bool.eq_iff_iff, Bool.not_eq_true', Bool.eq_false_iff, Ne, stays_iff, isRest_iff]
  by_cases blank : lineAt location.source number = []
  · simp only [blank, true_implies, true_and]
    omega
  · simp only [blank, false_implies, false_and, not_false_eq_true]

/-- What an excerpt shows. It is cut out of the rendered source. But for the pointer, its lines are
those at most two away from the location, each once, in order and behind its number, as the pieces
of the rendered source have them, without those that are empty and neither the first line nor the
line of the location. So the only line left out is the empty rest behind the last newline exactly if
no line between the first and the last one is empty, that of the location apart. -/
theorem shows_nearby_iff (location : Location kind) :
    let texts := location.excerpt.filter fun text => !isPointer text
    location.excerpt = location.cutExcerpt ∧
      (∀ number ∈ location.nearby,
        ((render location.source).toList.splitOn '\n')[number - 1]? =
          some (render (lineAt location.source number)).toList) ∧
      texts = (location.nearby.filter location.stays).map location.lineText ∧
      (texts = (location.nearby.filter fun number => !location.isRest number).map
          location.lineText ↔
        ∀ number ∈ location.nearby, lineAt location.source number = [] →
          number = 1 ∨ number = location.line ∨ number = location.lineCount) := by
  intro texts
  have stay : texts = (location.nearby.filter location.stays).map location.lineText :=
    location.filter_not_isPointer_eq_map
  refine ⟨location.excerpt_eq_cutExcerpt, fun _ => getElem?_splitOn_of_mem_nearby, stay, ?_⟩
  rw [stay]
  constructor
  · intro same number near
    -- Fewer lines stay than are not the rest, so if these are as many, they are the same.
    have fewer := List.monotone_filter_right location.nearby
      fun one (kept : location.stays one = true) => not_isRest_of_stays kept
    have lengths := congrArg List.length same
    rw [List.length_map, List.length_map] at lengths
    have members : number ∈ location.nearby.filter location.stays ↔
        number ∈ location.nearby.filter fun one => !location.isRest one := by
      rw [fewer.eq_of_length lengths]
    rw [List.mem_filter, List.mem_filter, and_iff_right near, and_iff_right near] at members
    exact stays_eq_not_isRest_iff.1 (Bool.eq_iff_iff.2 members)
  · intro gapless
    refine congrArg (List.map location.lineText) (List.filter_congr fun number near => ?_)
    exact stays_eq_not_isRest_iff.2 (gapless number near)

/-- An empty line between two others is left out, although it is next to the line of the location
and not behind the last newline. -/
theorem blank_line_left_out :
    let a : CodeUnit .octet := ⟨0x61, by decide⟩
    let b : CodeUnit .octet := ⟨0x62, by decide⟩
    let location : Location .octet := ⟨[a, .newline, .newline, b], 0⟩
    location.excerpt = ["  > 1 | a", "        ^--- here", "    3 | b"] ∧
      location.nearby = [1, 2, 3] ∧ location.isRest 2 = false ∧
      location.lineText 2 = "    2 | " ∧ location.lineText 2 ∉ location.excerpt := by
  decide

end Location

end Charwise
