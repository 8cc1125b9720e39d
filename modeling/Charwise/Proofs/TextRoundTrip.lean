import Charwise.CodeUnit.Widening
import Charwise.Proofs.SourceLines
import Charwise.Proofs.UnicodeClasses

/-!
# Texts as words and back

A text becomes a list of words, one for each character, and rendering the words gives the text back.
The other way round, words that are characters come back as they are, and each of the others comes
back as the replacement character (`CodeUnit.ofText_render`). In every kind of unit, rendering keeps
the number of units and the places of the newlines, so lines can be told from the units or from the
text.
-/

namespace Charwise.CodeUnit

variable {kind : UnitKind}

/-- The word that a character is. -/
def wordOf (c : Char) : CodeUnit .word := (ofChar c).widen UnitKind.scalar_within_word

/-- The replacement character as a word. -/
def replacement : CodeUnit .word := ⟨0xFFFD, by decide⟩

/-- A word with the replacement character in place of a surrogate, and of a number behind the last
code point. -/
def repaired (unit : CodeUnit .word) : CodeUnit .word :=
  if Unicode.isSurrogate unit.code = true ∨ 0x10FFFF < unit.code then replacement else unit

/-- The words that need no repair are the scalar values. -/
theorem repaired_eq_self_iff {unit : CodeUnit .word} :
    unit.repaired = unit ↔ UnitKind.scalar.Admits unit.code := by
  change _ ↔ unit.code < 0xD800 ∨ 0xDFFF < unit.code ∧ unit.code < 0x110000
  unfold repaired
  split
  · rename_i broken
    rw [Unicode.isSurrogate_iff] at broken
    refine iff_of_false (fun same => ?_) (by omega)
    have code : 0xFFFD = unit.code := congrArg CodeUnit.code same
    omega
  · rename_i regular
    rw [Unicode.isSurrogate_iff] at regular
    exact iff_of_true rfl (by omega)

/-- A character is shown as itself. -/
theorem toChar_wordOf (c : Char) : (wordOf c).toChar = c :=
  toChar_of_some (scalar?_eq_some_iff.2 rfl)

/-- The character that a word is shown as is the word, repaired. -/
theorem wordOf_toChar (unit : CodeUnit .word) : wordOf unit.toChar = unit.repaired := by
  cases character : unit.scalar? with
  | none =>
    rw [toChar_of_none character, repaired, if_pos (Unicode.scalar?_eq_none_iff.1 character)]
    rfl
  | some c =>
    have regular : ¬ (Unicode.isSurrogate unit.code = true ∨ 0x10FFFF < unit.code) := by
      rw [← Unicode.scalar?_eq_none_iff, character]
      exact Option.some_ne_none c
    rw [toChar_of_some character, repaired, if_neg regular]
    exact ext_code (scalar?_eq_some_iff.1 character)

/-- Rendering the words of a text gives the text. -/
theorem render_ofText (text : String) : render (ofText text) = text := by
  have shown : (toChar ∘ wordOf : Char → Char) = id := funext toChar_wordOf
  change String.ofList ((text.toList.map wordOf).map toChar) = text
  rw [List.map_map, shown, List.map_id, String.ofList_toList]

/-- The words of rendered words are the words, repaired. -/
theorem ofText_render (units : List (CodeUnit .word)) :
    ofText (render units) = units.map repaired := by
  change (render units).toList.map wordOf = units.map repaired
  rw [toList_render, List.map_map]
  exact List.map_congr_left fun unit _ => wordOf_toChar unit

/-- Rendered words are the same words again exactly if all of them are scalar values. -/
theorem ofText_render_eq_self_iff {units : List (CodeUnit .word)} :
    ofText (render units) = units ↔ ∀ unit ∈ units, UnitKind.scalar.Admits unit.code := by
  have itself : units.map repaired = units ↔ units.map repaired = units.map id := by
    rw [List.map_id]
  rw [ofText_render, itself, List.map_inj_left]
  exact forall₂_congr fun unit _ => repaired_eq_self_iff

/-- A run of source is rendered part by part. -/
theorem render_append (units later : List (CodeUnit kind)) :
    render (units ++ later) = render units ++ render later := by
  rw [render, List.map_append, String.ofList_append, render, render]

/-- Rendered source has a line feed exactly where the source has a newline. -/
theorem getElem?_render_eq_lineFeed_iff (units : List (CodeUnit kind)) (index : Nat) :
    (render units).toList[index]? = some '\n' ↔ units[index]?.any isNewline = true := by
  rw [toList_render, List.getElem?_map]
  cases units[index]? with
  | none => exact iff_of_false nofun nofun
  | some unit => rw [Option.map_some, Option.some.injEq, Option.any_some, toChar_eq_lineFeed_iff]

/-- Texts and units. The words of a text are rendered as the text. Rendered words are read as the
same words, but for the surrogates and the numbers behind the last code point, which are read as
replacement characters; so all are the same exactly if all are scalar values. In every kind, source
is rendered by one character for each unit, part by part, and with a line feed exactly where there
is a newline. -/
theorem text_round_trip :
    (∀ text : String, render (ofText text) = text) ∧
      (∀ units : List (CodeUnit .word), ofText (render units) = units.map repaired ∧
        (ofText (render units) = units ↔
          ∀ unit ∈ units, UnitKind.scalar.Admits unit.code)) ∧
      ∀ {kind : UnitKind} (units later : List (CodeUnit kind)),
        (render units).toList.length = units.length ∧
          render (units ++ later) = render units ++ render later ∧
          ∀ index : Nat, (render units).toList[index]? = some '\n' ↔
            units[index]?.any isNewline = true := by
  refine ⟨render_ofText, fun units => ⟨ofText_render units, ofText_render_eq_self_iff⟩, ?_⟩
  intro kind units later
  exact ⟨length_toList_render units, render_append units later,
    getElem?_render_eq_lineFeed_iff units⟩

end Charwise.CodeUnit
