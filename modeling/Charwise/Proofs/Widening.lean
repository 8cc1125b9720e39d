import Charwise.Grammar
import Charwise.Proofs.Equivalence

/-!
# Parsing wider units

An encoding may extend another one: its units are of a wider kind, and it puts the units of the
narrower kind into the same basic classes. Then a grammar under the wider encoding does to a source
of wider units what it does under the narrower one to the source itself. Places, reported codes and
errors are the same, and so is the excerpt that an error shows; only a description of units may
differ from kind to kind (`Encoding.Extends.runsLike`).
-/

namespace Charwise

variable {kind wider : UnitKind} {within : kind.Within wider}

/-! ## Excerpts of wider sources -/

/-- A source of wider units has the same lines. -/
theorem CodeUnit.lines_map_widen (source : List (CodeUnit kind)) :
    lines (source.map (widen within)) = (lines source).map (List.map (widen within)) := by
  induction source with
  | nil => rfl
  | cons unit rest ih =>
    rw [List.map_cons, lines, lines, isNewline_widen, ih]
    split
    · rfl
    · cases lines rest <;> rfl

namespace Location

/-- The same position in the source of wider units. -/
def widen (within : kind.Within wider) (location : Location kind) : Location wider :=
  ⟨location.source.map (CodeUnit.widen within), location.position⟩

variable {location : Location kind}

/-- The units in front of the position are the wider ones. -/
theorem before_widen :
    (location.widen within).before = location.before.map (CodeUnit.widen within) :=
  List.map_take.symm

/-- The position is on the same line. -/
theorem line_widen : (location.widen within).line = location.line := by
  rw [line, line, before_widen, List.countP_map]
  rfl

/-- The line begins at the same position. -/
theorem lineStart_widen : (location.widen within).lineStart = location.lineStart := by
  rw [lineStart, lineStart, before_widen, ← List.map_reverse, List.takeWhile_map,
    List.length_map, List.length_map]
  rfl

/-- The position has the same offset in its line. -/
theorem offset_widen : (location.widen within).offset = location.offset := by
  rw [offset, offset, lineStart_widen]
  rfl

/-- The same lines are shown, with wider units. -/
theorem window_widen : (location.widen within).window =
    location.window.map (Prod.map (List.map (CodeUnit.widen within)) id) := by
  rw [window, window, line_widen, widen, CodeUnit.lines_map_widen, List.zipIdx_map,
    List.filter_map]
  congr 2
  funext line
  simp

/-- Lines are marked in the same way. -/
theorem gutter_widen (number : Nat) :
    (location.widen within).gutter number = location.gutter number := by
  rw [gutter, gutter, line_widen]

/-- The pointer is at the same column. -/
theorem pointer_widen : (location.widen within).pointer = location.pointer := by
  rw [pointer, pointer, line_widen, offset_widen, gutter_widen]

/-- The same excerpt is shown. -/
theorem excerpt_widen : (location.widen within).excerpt = location.excerpt := by
  rw [excerpt, excerpt, window_widen, List.flatMap_map, line_widen, pointer_widen]
  congr 1
  funext line
  simp [gutter_widen]

end Location

/-! ## Patterns under a wider encoding -/

namespace CharSet

/-- A range goes on in the same way. -/
theorem continues_map_widen (definition : List (CodeUnit kind)) :
    continues (definition.map (CodeUnit.widen within)) = continues definition := by
  match definition with
  | [] => rfl
  | [_] => rfl
  | unit :: _ :: _ =>
    rw [Bool.eq_iff_iff]
    simp only [List.map_cons, continues, beq_iff_eq, CodeUnit.widen_eq_hyphen]

/-- The ranges of a set go from the same units to the same units. -/
theorem ranges_map_widen (definition : List (CodeUnit kind)) :
    ranges (definition.map (CodeUnit.widen within)) =
      (ranges definition).map (Prod.map (CodeUnit.widen within) (CodeUnit.widen within)) := by
  -- One case for a joined range, one for a single unit in front of others, and the short lists.
  fun_induction ranges definition with
  | case1 first last rest fromLast fromRest =>
    rw [List.map_cons] at fromLast
    simp only [List.map_cons, ranges, CodeUnit.widen_eq_hyphen, if_true, continues_map_widen,
      fromLast, fromRest]
    split <;> rfl
  | case2 first middle last rest other fromMiddle =>
    rw [List.map_cons, List.map_cons] at fromMiddle
    simp only [List.map_cons, ranges, CodeUnit.widen_eq_hyphen, other, if_false, fromMiddle]
    rfl
  | case3 => rfl
  | case4 => rfl
  | case5 => rfl

/-- A set has the same members. -/
theorem contains_widen (definition : List (CodeUnit kind)) (unit : CodeUnit kind) :
    contains (definition.map (CodeUnit.widen within)) (unit.widen within) =
      contains definition unit := by
  rw [contains, contains, ranges_map_widen, List.any_map]
  rfl

end CharSet

/-! ## Encodings that extend each other -/

namespace Encoding

/-- An encoding of wider units extends another one if it puts the units of that one into the same
basic classes. -/
def Extends (extended e : Encoding) (within : e.kind.Within extended.kind) : Prop :=
  ∀ (c : BasicClass) (unit : CodeUnit e.kind),
    extended.isBasic c (unit.widen within) = e.isBasic c unit

open UnitKind Unicode

/-- On characters the C locale classifies the octets as it does by themselves. -/
theorem wide_extends_narrow_c (data : CharacterData) :
    (wide data .c).Extends (narrow .c) octet_within_scalar :=
  fun _ _ => rfl

/-- On characters the locale of ISO-8859-1 classifies the octets as it does by themselves. -/
theorem wide_extends_narrow_latin1 (data : CharacterData) :
    (wide data .latin1).Extends (narrow .latin1) octet_within_scalar :=
  fun _ _ => rfl

/-- Unicode has the basic classes of the UTF-8 locale over the same data. -/
theorem unicode_extends_wide (data : CharacterData) :
    (unicode data).Extends (wide data .utf8) scalar_within_word := by
  intro c unit
  rw [isBasic_unicode, CodeUnit.scalar?_widen]
  rfl

end Encoding

variable {e extended : Encoding} {fits : e.kind.Within extended.kind}

/-- A pattern accepts a unit under both encodings or under none. -/
theorem Pattern.test_widen (same : extended.Extends e fits) (pattern : Pattern e.kind)
    (unit : CodeUnit e.kind) :
    ((pattern.widen fits).under extended).test (unit.widen fits) =
      (pattern.under e).test unit := by
  induction pattern with
  | any => rfl
  | literal expected =>
    rw [Bool.eq_iff_iff]
    simp only [widen, under, Matcher.test, beq_iff_eq, CodeUnit.widen_inj]
  | range first last => simp only [widen, under, Matcher.test, CodeUnit.widen_le_widen]
  | set definition => exact CharSet.contains_widen definition unit
  | basic c => exact same c unit
  | negated subject ih => exact congrArg not ih

/-! ## Runs over wider sources -/

/-- Two attributes have the same code if both are omitted or both are units of the same code. -/
inductive Attribute.SameCode : Attribute kind → Attribute wider → Prop where
  /-- Both are omitted. -/
  | omitted : SameCode .omitted .omitted
  /-- Both are units of the same code. -/
  | unit {a : CodeUnit kind} {b : CodeUnit wider} (code_eq : a.code = b.code) :
    SameCode (.unit a) (.unit b)

/-- Two errors look alike if a reader of their messages sees the same but for the reason of a
refusal. -/
structure ParseError.LooksLike (a : ParseError kind) (b : ParseError wider) : Prop where
  /-- The same went wrong. -/
  variant_eq : a.cause.variant = b.cause.variant
  /-- It went wrong at the same position. -/
  position_eq : a.location.position = b.location.position
  /-- The line is the same. -/
  line_eq : a.location.line = b.location.line
  /-- The offset in the line is the same. -/
  offset_eq : a.location.offset = b.location.offset
  /-- The same excerpt is shown. -/
  excerpt_eq : a.location.excerpt = b.location.excerpt

/-- Errors of the same variant look alike if one is located where the other one is. -/
theorem ParseError.looksLike_widen {location : Location kind} {cause otherCause : ErrorCause}
    (variants : cause.variant = otherCause.variant) :
    LooksLike ⟨cause, location⟩ ⟨otherCause, location.widen within⟩ :=
  ⟨variants, rfl, Location.line_widen.symm, Location.offset_widen.symm,
    Location.excerpt_widen.symm⟩

variable {source : List (CodeUnit kind)}

/-- A source is compared with that of the wider units: places are the same, attributes have the same
code and errors look alike. -/
def Comparison.widening (within : kind.Within wider) (source : List (CodeUnit kind)) :
    Comparison source (source.map (CodeUnit.widen within)) where
  places c d := c.position = d.position ∧ c.atEnd = d.atEnd
  attributes := Attribute.SameCode
  errors := ParseError.LooksLike
  atEnd_eq := And.right
  further_iff := by
    rintro c d next last ⟨same, _⟩ ⟨later, _⟩
    rw [same, later]
  omitted := by
    rintro _ _ rfl rfl
    exact .omitted

namespace Comparison

variable {c : Cursor source} {d : Cursor (source.map (CodeUnit.widen within))}

/-- Clamping a position to either source leads to the same place. -/
theorem places_clamped_widening (position : Nat) :
    (widening within source).places (.clamped source position)
      (.clamped (source.map (CodeUnit.widen within)) position) := by
  constructor
  · rw [Cursor.position_clamped, Cursor.position_clamped, List.length_map]
  · rw [Cursor.atEnd_clamped, Cursor.atEnd_clamped, List.length_map]

/-- The places behind the units at the same place are the same. -/
theorem places_next_widening (places : (widening within source).places c d) :
    (widening within source).places c.next d.next := by
  rw [Cursor.next, Cursor.next, ← places.1]
  exact places_clamped_widening (c.position + 1)

/-- Errors of the same variant at the same place look alike. -/
theorem errors_fail_widening {cause otherCause : ErrorCause}
    (variants : cause.variant = otherCause.variant)
    (places : (widening within source).places c d) :
    (widening within source).errors (c.fail cause) (d.fail otherCause) := by
  rw [Cursor.fail, Cursor.fail, ← places.1]
  exact ParseError.looksLike_widen variants

/-- The same error is raised at both ends. -/
theorem errors_failAtEnd_widening (cause : ErrorCause) :
    (widening within source).errors (Cursor.failAtEnd source cause)
      (Cursor.failAtEnd (source.map (CodeUnit.widen within)) cause) := by
  rw [Cursor.failAtEnd, Cursor.failAtEnd, List.length_map]
  exact ParseError.looksLike_widen rfl

/-- Matchers that agree on all units run over the wider units as over the narrower ones. -/
theorem simulates_unit_widening {matcher : Matcher kind} {otherMatcher : Matcher wider}
    (same : ∀ unit, otherMatcher.test (unit.widen within) = matcher.test unit) :
    (widening within source).Simulates (.unit matcher) (.unit otherMatcher) := by
  intro c d places
  have wider : (source.map (CodeUnit.widen within))[d.position]? =
      source[c.position]?.map (CodeUnit.widen within) := by
    rw [List.getElem?_map, places.1]
  cases present : source[c.position]? with
  | none =>
    rw [present] at wider
    exact outcomes_none present wider (errors_failAtEnd_widening .noUnitAtEnd)
  | some unit =>
    rw [present] at wider
    exact outcomes_unit present wider (same unit).symm (.unit rfl) (places_next_widening places)
      (errors_fail_widening rfl places)

end Comparison

namespace Grammar

/-- A grammar under an encoding is simulated by itself under an encoding that extends it. -/
theorem simulates_widen (same : extended.Extends e fits) (grammar : Grammar e.kind)
    (source : List (CodeUnit e.kind)) :
    (Comparison.widening fits source).Simulates (grammar.under e)
      ((grammar.widen fits).under extended) := by
  induction grammar with
  | unit pattern => exact Comparison.simulates_unit_widening (pattern.test_widen same)
  | skipping _ _ subjects skippers => exact subjects.skipping skippers
  | omitting _ subjects => exact subjects.omitting
  | nothing => exact .nothing
  | restart => exact .restart (Comparison.places_clamped_widening 0)
  | both _ _ firsts seconds => exact firsts.both seconds
  | either _ _ firsts seconds => exact firsts.either seconds

end Grammar

/-- One encoding runs like another one if every grammar, with any grammar for its skipper, does the
same over any source under both. -/
def Encoding.RunsLike (extended e : Encoding) (within : e.kind.Within extended.kind) : Prop :=
  ∀ (grammar skipper : Grammar e.kind) (source : List (CodeUnit e.kind)),
    (Comparison.widening within source).Runs (grammar.under e) (skipper.under e)
      ((grammar.widen within).under extended) ((skipper.widen within).under extended)

/-- An encoding runs like every encoding that it extends. -/
theorem Encoding.Extends.runsLike (same : extended.Extends e fits) : extended.RunsLike e fits := by
  intro grammar skipper source
  exact (grammar.simulates_widen same source).runs (skipper.simulates_widen same source)
    (Comparison.places_clamped_widening 0) (Comparison.errors_fail_widening rfl)

/-- Wider units are parsed like the narrower ones. In the C locale and in that of ISO-8859-1,
characters below 256 are parsed like octets. Code points under Unicode are parsed like characters
under the UTF-8 locale, whatever is known about each character. -/
theorem Encoding.runsLike_widened (data : Unicode.CharacterData) :
    (wide data .c).RunsLike (narrow .c) UnitKind.octet_within_scalar ∧
      (wide data .latin1).RunsLike (narrow .latin1) UnitKind.octet_within_scalar ∧
      (unicode data).RunsLike (wide data .utf8) UnitKind.scalar_within_word :=
  ⟨(wide_extends_narrow_c data).runsLike, (wide_extends_narrow_latin1 data).runsLike,
    (unicode_extends_wide data).runsLike⟩

/-- The reason of a refusal may differ, since a unit is described as one of its kind. -/
example :
    let unit : CodeUnit .octet := ⟨0xE9, by decide⟩
    unit.describe = "0xE9" ∧ (unit.widen UnitKind.octet_within_scalar).describe = "'é'" :=
  ⟨by cbv, by cbv⟩

end Charwise
