import Charwise.Proofs.SourceLines

/-!
# Excerpts

An excerpt can be cut out of the rendered source (`Location.excerpt_eq_cutExcerpt`). It marks one
line, that of its location, and has one pointer, right below it. The marked line is the piece of the
source between two newlines, rendered, and since each of its units is one character, the pointer is
below the character of the unit at the position, or one behind the last character if there is no
such unit in the line (`Location.excerpt_points`).
-/

namespace Charwise.Location

open CodeUnit

variable {kind : UnitKind} {location : Location kind}
variable {entry : List (CodeUnit kind) × Nat}

/-- The line of a location as it is cut by its position: the unit at the position has the offset for
its place in the line, and if the position is at the end or on a newline, the line has as many units
as the offset. -/
theorem exists_line (location : Location kind) :
    ∃ front content back,
      CutAround location.source location.line front content back ∧
        front.length + location.offset = location.position ∧
        (∀ unit, location.source[location.position]? = some unit → unit.isNewline = false →
          content[location.offset]? = some unit) ∧
        (location.position = location.source.length ∨
            location.source[location.position]? = some .newline →
          content.length = location.offset) := by
  obtain ⟨front, head, tail, back, cut, start, parts, behind⟩ := location.exists_cut
  have begins : front.length + location.offset = location.position := by
    rw [start, lineStart_add_offset]
  have here : location.source[location.position]? = (tail ++ back).head? := by
    rw [← behind, List.head?_drop]
  have reached (inside : location.position ≤ location.source.length) :
      head.length = location.offset := by
    have lengths := congrArg List.length parts
    rw [before, List.length_take_of_le inside, List.length_append] at lengths
    omega
  refine ⟨front, head ++ tail, back, cut, begins, fun unit present plain => ?_, fun stops => ?_⟩
  · have inside : location.position < location.source.length :=
      (List.getElem?_eq_some_iff.1 present).1
    have length := reached (Nat.le_of_lt inside)
    rw [List.getElem?_append_right (Nat.le_of_eq length), length, Nat.sub_self,
      ← List.head?_eq_getElem?]
    rw [here] at present
    cases tail with
    | cons first later => exact present
    | nil =>
      -- What follows the line is a newline, and the unit is none.
      obtain rfl | newline := cut.closed
      · cases present
      · cases newline.symm.trans present
        cases plain
  · have inside : location.position ≤ location.source.length := by
      obtain atEnd | present := stops
      · exact Nat.le_of_eq atEnd
      · exact Nat.le_of_lt (List.getElem?_eq_some_iff.1 present).1
    have length := reached inside
    cases tail with
    | nil => rw [List.append_nil, length]
    | cons first later =>
      have plain : first.isNewline = false := cut.unbroken first (by simp)
      obtain atEnd | present := stops
      · rw [List.getElem?_eq_none (Nat.le_of_eq atEnd.symm)] at here
        cases here
      · rw [present] at here
        cases here
        cases plain

/-! ## The lines of an excerpt -/

/-- Whether a line of an excerpt is marked. -/
def isMarked (text : String) : Bool :=
  "  > ".toList.isPrefixOf text.toList

/-- Whether a line of an excerpt is a pointer: any number of blanks, then the pointer itself. -/
def isPointer (text : String) : Bool :=
  text.toList.dropWhile (· == ' ') == "^--- here".toList

/-- A line of the source as an excerpt shows it, behind its number. -/
def numbered (location : Location kind) (entry : List (CodeUnit kind) × Nat) : String :=
  location.gutter entry.2 ++ render entry.1

/-- What an excerpt shows for a line of the source. -/
def shown (location : Location kind) (entry : List (CodeUnit kind) × Nat) : List String :=
  if entry.2 = location.line then [location.numbered entry, location.pointer]
  else [location.numbered entry]

/-- The line of the location is marked, and no other numbered line is. -/
theorem isMarked_numbered : isMarked (location.numbered entry) = (entry.2 == location.line) := by
  rw [isMarked, numbered, gutter, String.toList_append, String.toList_append,
    String.toList_append, List.append_assoc, List.append_assoc]
  by_cases same : entry.2 = location.line
  · rw [if_pos same, beq_iff_eq.2 same, List.isPrefixOf_iff_prefix]
    exact List.prefix_append _ _
  · rw [if_neg same, beq_eq_false_iff_ne.2 same]
    rfl

/-- A numbered line is no pointer, since there is a bar in it. -/
theorem isPointer_numbered : isPointer (location.numbered entry) = false := by
  rw [isPointer, beq_eq_false_iff_ne]
  intro same
  have bar : '|' ∈ (location.numbered entry).toList := by
    have separator : '|' ∈ " | ".toList := by decide
    rw [numbered, gutter, String.toList_append, String.toList_append]
    exact List.mem_append_left _ (List.mem_append_right _ separator)
  rw [← List.takeWhile_append_dropWhile (p := (· == ' ')) (l := (location.numbered entry).toList),
    same, List.mem_append] at bar
  obtain blank | sign := bar
  · exact absurd (List.mem_takeWhile_imp blank) (by decide)
  · exact absurd sign (by decide)

/-- The pointer is one. -/
theorem isPointer_pointer : isPointer location.pointer = true := by
  rw [isPointer, pointer, String.toList_append, String.toList_ofList,
    List.dropWhile_append_of_pos, beq_iff_eq]
  · rfl
  · intro c member
    rw [List.eq_of_mem_replicate member]
    rfl

/-- The pointer is not marked. -/
theorem isMarked_pointer : isMarked location.pointer = false := by
  rw [isMarked, Bool.eq_false_iff, Ne, List.isPrefixOf_iff_prefix]
  intro marked
  have mark : '>' ∈ location.pointer.toList := marked.subset (by decide)
  rw [pointer, String.toList_append, String.toList_ofList, List.mem_append] at mark
  obtain blank | sign := mark
  · exact absurd (List.eq_of_mem_replicate blank) (by decide)
  · exact absurd sign (by decide)

/-- An excerpt shows the lines of its window, one after the other. -/
theorem excerpt_eq_flatMap (location : Location kind) :
    location.excerpt = location.window.flatMap location.shown :=
  rfl

/-- The excerpt as it is cut out of the rendered source: the text is cut at its line feeds, and of
the pieces with their numbers those at most two away from the line of the location are shown, an
empty one only if it is the first or that line itself. -/
def cutExcerpt (location : Location kind) : List String :=
  let pieces := (render location.source).toList.splitOn '\n'
  let window := (pieces.zipIdx 1).filter fun (piece, number) =>
    location.line - 2 ≤ number && number ≤ location.line + 2 &&
      (!piece.isEmpty || number == location.line || number == 1)
  window.flatMap fun (piece, number) =>
    let text := location.gutter number ++ String.ofList piece
    if number = location.line then [text, location.pointer] else [text]

/-- Rendering the lines of a source and cutting the rendered source come to the same excerpt. -/
theorem excerpt_eq_cutExcerpt (location : Location kind) :
    location.excerpt = location.cutExcerpt := by
  rw [cutExcerpt, splitOn_render, List.zipIdx_map, List.filter_map, List.flatMap_map, excerpt,
    window]
  congr 2
  funext entry
  simp

/-- Lines away from the location are shown by themselves. -/
theorem flatMap_shown {entries : List (List (CodeUnit kind) × Nat)}
    (apart : ∀ entry ∈ entries, entry.2 ≠ location.line) :
    entries.flatMap location.shown = entries.map location.numbered := by
  induction entries with
  | nil => rfl
  | cons entry later ih =>
    have first : entry.2 ≠ location.line := apart entry (List.mem_cons_self ..)
    rw [List.flatMap_cons, ih fun other member => apart other (List.mem_cons_of_mem _ member),
      shown, if_neg first]
    rfl

/-- Whether a line of the source, with its number, is kept for the window. -/
def keeps (location : Location kind) (entry : List (CodeUnit kind) × Nat) : Bool :=
  location.line - 2 ≤ entry.2 && entry.2 ≤ location.line + 2 &&
    (!entry.1.isEmpty || entry.2 == location.line || entry.2 == 1)

/-- The window has the numbered lines of the source that are kept. -/
theorem window_eq_filter (location : Location kind) :
    location.window = ((lines location.source).zipIdx 1).filter location.keeps :=
  rfl

/-- The line of the location is kept. -/
theorem keeps_line (line : List (CodeUnit kind)) : location.keeps (line, location.line) = true := by
  simp [keeps]

/-- The line of the location is in the window, and no other line has its number. -/
theorem exists_window_eq {line : List (CodeUnit kind)}
    (found : (lines location.source)[location.line - 1]? = some line) :
    ∃ above below, location.window = above ++ (line, location.line) :: below ∧
      (∀ entry ∈ above, entry.2 ≠ location.line) ∧ ∀ entry ∈ below, entry.2 ≠ location.line := by
  obtain ⟨inside, here⟩ := List.getElem?_eq_some_iff.1 found
  have positive : 0 < location.line := Nat.succ_pos _
  let above := (lines location.source).take (location.line - 1)
  let below := (lines location.source).drop (location.line - 1 + 1)
  have parts : lines location.source = above ++ line :: below := by
    rw [← here, List.getElem_cons_drop]
    exact (List.take_append_drop _ _).symm
  have number : 1 + above.length = location.line := by
    have length : above.length = location.line - 1 := List.length_take_of_le (Nat.le_of_lt inside)
    omega
  refine ⟨(above.zipIdx 1).filter location.keeps,
    (below.zipIdx (location.line + 1)).filter location.keeps, ?_, ?_, ?_⟩
  · rw [window_eq_filter, parts, List.zipIdx_append, List.zipIdx_cons, number, List.filter_append,
      List.filter_cons_of_pos (keeps_line line)]
  · intro entry member
    have lower := List.snd_lt_add_of_mem_zipIdx (List.mem_filter.1 member).1
    omega
  · intro entry member
    have higher := List.le_snd_of_mem_zipIdx (List.mem_filter.1 member).1
    omega

/-- An excerpt has its marked line and the pointer next to each other. Above and below are numbered
lines of the window that are not the line of the location. -/
theorem exists_excerpt_eq {line : List (CodeUnit kind)}
    (found : (lines location.source)[location.line - 1]? = some line) :
    ∃ above below, location.window = above ++ (line, location.line) :: below ∧
      (∀ entry ∈ above, entry.2 ≠ location.line) ∧ (∀ entry ∈ below, entry.2 ≠ location.line) ∧
      location.excerpt = above.map location.numbered ++
        [location.numbered (line, location.line), location.pointer] ++
          below.map location.numbered := by
  obtain ⟨above, below, window, apartAbove, apartBelow⟩ := exists_window_eq found
  refine ⟨above, below, window, apartAbove, apartBelow, ?_⟩
  rw [excerpt_eq_flatMap, window, List.flatMap_append, List.flatMap_cons, flatMap_shown apartAbove,
    flatMap_shown apartBelow, shown, if_pos rfl, List.append_assoc]

/-- No numbered line is a pointer. -/
theorem filter_isPointer_map (entries : List (List (CodeUnit kind) × Nat)) :
    (entries.map location.numbered).filter isPointer = [] := by
  rw [List.filter_eq_nil_iff]
  intro text member
  obtain ⟨entry, _, rfl⟩ := List.mem_map.1 member
  rw [isPointer_numbered]
  exact Bool.false_ne_true

/-- Numbered lines away from the location are not marked. -/
theorem filter_isMarked_map {entries : List (List (CodeUnit kind) × Nat)}
    (apart : ∀ entry ∈ entries, entry.2 ≠ location.line) :
    (entries.map location.numbered).filter isMarked = [] := by
  rw [List.filter_eq_nil_iff]
  intro text member
  obtain ⟨entry, listed, rfl⟩ := List.mem_map.1 member
  rw [isMarked_numbered, beq_iff_eq]
  exact apart entry listed

/-- Behind a label, the columns of a rendered line are the places of its units. -/
theorem getElem?_append_render (label : String) (units : List (CodeUnit kind)) (offset : Nat) :
    (label ++ render units).toList[label.length + offset]? = units[offset]?.map toChar := by
  have within : label.toList.length ≤ label.length + offset := by
    rw [String.length_toList]
    exact Nat.le_add_right _ _
  have rest : label.length + offset - label.toList.length = offset := by
    rw [String.length_toList]
    exact Nat.add_sub_cancel_left ..
  rw [String.toList_append, List.getElem?_append_right within, rest, render,
    String.toList_ofList, List.getElem?_map]

/-- Behind a label, a rendered line is as long as it has units. -/
theorem length_append_render (label : String) (units : List (CodeUnit kind)) :
    (label ++ render units).length = label.length + units.length := by
  rw [String.length_append, ← String.length_toList (s := render units), length_toList_render]

/-- The number of the line of the location stands behind the mark. -/
theorem gutter_line (location : Location kind) :
    location.gutter location.line = "  > " ++ toString location.line ++ " | " := by
  rw [gutter, if_pos rfl]

/-- An excerpt is cut out of the rendered source and points at its location. It has one marked line,
which bears the number of the line of the location and shows what stands between the newlines around
that line: the piece of the rendered source of that number. It has one pointer, right below the
marked line and as far from the left as the offset behind the number. If there is a unit at the
position that is no newline, its character is right above the pointer; at a newline and at the end
the pointer is one behind the marked line. -/
theorem excerpt_points (location : Location kind) :
    location.excerpt = location.cutExcerpt ∧
      ∃ front content back,
        CutAround location.source location.line front content back ∧
        front.length + location.offset = location.position ∧
        ((render location.source).toList.splitOn '\n')[location.line - 1]? =
          some (render content).toList ∧
        let label := "  > " ++ toString location.line ++ " | "
        let marked := label ++ render content
        let indent := label.length + location.offset
        let arrow := String.ofList (List.replicate indent ' ') ++ "^--- here"
        location.excerpt.filter isMarked = [marked] ∧
          location.excerpt.filter isPointer = [arrow] ∧
          [marked, arrow] <:+: location.excerpt ∧
          (∀ unit, location.source[location.position]? = some unit → unit.isNewline = false →
            marked.toList[indent]? = some unit.toChar) ∧
          (location.position = location.source.length ∨
              location.source[location.position]? = some .newline →
            marked.length = indent) := by
  obtain ⟨front, content, back, cut, start, present, absent⟩ := location.exists_line
  have found := cut.getElem?_lines
  obtain ⟨above, below, _, apartAbove, apartBelow, excerpt⟩ := exists_excerpt_eq found
  refine ⟨location.excerpt_eq_cutExcerpt, front, content, back, cut, start, ?_, ?_⟩
  · rw [splitOn_render, List.getElem?_map, found, render, String.toList_ofList]
    rfl
  intro label marked indent arrow
  have text : location.numbered (content, location.line) = marked := by
    rw [numbered, gutter_line]
  have sign : location.pointer = arrow := by
    rw [pointer, gutter_line]
  have mark : isMarked marked = true := by
    rw [← text, isMarked_numbered, beq_self_eq_true]
  have plain : isPointer marked = false := text ▸ isPointer_numbered
  have unmarked : isMarked arrow = false := sign ▸ isMarked_pointer
  have points : isPointer arrow = true := sign ▸ isPointer_pointer
  rw [text, sign] at excerpt
  refine ⟨?_, ?_, ⟨_, _, excerpt.symm⟩, fun unit here held => ?_, fun stops => ?_⟩
  · rw [excerpt, List.filter_append, List.filter_append, filter_isMarked_map apartAbove,
      filter_isMarked_map apartBelow]
    simp [mark, unmarked]
  · rw [excerpt, List.filter_append, List.filter_append, filter_isPointer_map,
      filter_isPointer_map]
    simp [plain, points]
  · rw [getElem?_append_render, present unit here held]
    rfl
  · rw [length_append_render, absent stops]

/-- The pointer is below the second unit of the second line. -/
example :
    let unit (code : Fin 0x80) : CodeUnit .octet := ⟨code, UnitKind.octet.admits_of_lt code.isLt⟩
    Location.excerpt ⟨[unit 0x61, .newline, unit 0x63, unit 0x64, .newline], 3⟩ =
      ["    1 | a", "  > 2 | cd", "         ^--- here"] := by
  decide

end Charwise.Location
