import Charwise.Proofs.Soundness
import Charwise.Proofs.Skipping

/-!
# The last unit

A parser that ends in a matcher reports the unit in front of the place where it stops. What is
skipped comes before that unit, and an alternative that failed leaves nothing behind, so neither is
ever reported (`Parser.last_unit_of_parseAt`). Conversions change how the unit is reported and lose
nothing of it: a value that is reported represents a single unit.
-/

namespace Charwise

variable {kind : UnitKind} {source : List (CodeUnit kind)}

namespace Attribute

/-- How a unit is reported: as it is, or converted. -/
def report (form : Option (Conversion kind)) (unit : CodeUnit kind) : Attribute kind :=
  match form with
  | none => .unit unit
  | some conversion => .converted conversion.target (conversion.value unit)

/-- Whether an attribute is a unit or a value that represents it. -/
def Shows : Attribute kind → CodeUnit kind → Prop
  | .omitted, _ => False
  | .unit found, shown => found = shown
  | .converted target value, shown => target.Represents value shown.code

/-- However a unit is reported, the attribute shows it. -/
theorem shows_report (form : Option (Conversion kind)) (unit : CodeUnit kind) :
    (report form unit).Shows unit := by
  cases form with
  | none => rfl
  | some conversion => exact conversion.represents_value unit

/-- An attribute shows no more than one unit. -/
theorem Shows.unique {found : Attribute kind} {one other : CodeUnit kind}
    (shown : found.Shows one) (otherShown : found.Shows other) : one = other := by
  cases found with
  | omitted => contradiction
  | unit found => exact shown.symm.trans otherShown
  | converted target value =>
    have same : one.code = other.code := by
      rw [← Target.Represents.code_eq shown, Target.Represents.code_eq otherShown]
    exact CodeUnit.ext_code same

/-- Converting a reported unit reports it converted, whatever was made of it before. -/
theorem apply_report (conversion : Conversion kind) (form : Option (Conversion kind))
    (unit : CodeUnit kind) :
    conversion.apply (report form unit) = report (some conversion) unit := by
  cases form with
  | none => rfl
  | some inner =>
    have code : (inner.value unit).code = unit.code := (inner.represents_value unit).code_eq
    simp only [report, Conversion.apply, Conversion.value] at code ⊢
    rw [code]

end Attribute

namespace Parser

/-- The parsers that report a unit: matchers, behind anything that is skipped, converted, and as
alternatives. -/
inductive Reporting : Parser kind → Prop where
  /-- A matcher reports the unit that it accepts. -/
  | unit (matcher : Matcher kind) : Reporting (.unit matcher)
  /-- A parser reports the same behind a skipper, whatever that is made of. -/
  | skipping {subject : Parser kind} (skipper : Parser kind) (inner : Reporting subject) :
    Reporting (.skipping subject skipper)
  /-- What is reported may be converted. -/
  | converting {subject : Parser kind} (conversion : Conversion kind)
    (inner : Reporting subject) : Reporting (.converting conversion subject)
  /-- An alternative reports what one of its parsers does. -/
  | either {first second : Parser kind} (one : Reporting first) (other : Reporting second) :
    Reporting (.either first second)

/-- A matcher stands where a parser reports from, outside all skippers, and its units are reported
in a form: as they are, or by the outermost conversion around the matcher. -/
inductive ReportsFrom (matcher : Matcher kind) : Option (Conversion kind) → Parser kind → Prop where
  /-- A matcher reports its units as they are. -/
  | unit : ReportsFrom matcher none (.unit matcher)
  /-- Skipping keeps the form. -/
  | behind {form : Option (Conversion kind)} {subject skipper : Parser kind}
    (inner : ReportsFrom matcher form subject) :
    ReportsFrom matcher form (.skipping subject skipper)
  /-- A conversion replaces the form. -/
  | converted {form : Option (Conversion kind)} {conversion : Conversion kind}
    {subject : Parser kind} (inner : ReportsFrom matcher form subject) :
    ReportsFrom matcher (some conversion) (.converting conversion subject)
  /-- The first parser of an alternative keeps its form. -/
  | preferred {form : Option (Conversion kind)} {first second : Parser kind}
    (inner : ReportsFrom matcher form first) : ReportsFrom matcher form (.either first second)
  /-- The second parser of an alternative keeps its form. -/
  | otherwise {form : Option (Conversion kind)} {first second : Parser kind}
    (inner : ReportsFrom matcher form second) : ReportsFrom matcher form (.either first second)

/-- A success that reports the last unit it went over: a matcher of the parser accepts that unit,
which lies behind the place where the parser started. -/
structure LastUnit (parser : Parser kind) (source : List (CodeUnit kind)) (start stop : Nat)
    (found : Attribute kind) (unit : CodeUnit kind) : Prop where
  /-- The parser has moved on. -/
  advances : start < stop
  /-- The unit is the last one in front of the place where the parser stops. -/
  present : source[stop - 1]? = some unit
  /-- A matcher that the parser reports from accepts the unit, which is reported in its form. -/
  accepted : ∃ matcher form, ReportsFrom matcher form parser ∧ matcher.test unit = true ∧
    found = Attribute.report form unit

variable {parser : Parser kind} {c last : Cursor source} {found : Attribute kind}

/-- What is reported from a part is reported from the whole, if the matchers of the part belong to
the whole. -/
theorem LastUnit.of_part {part whole : Parser kind} {start stop : Nat} {unit : CodeUnit kind}
    (lastUnit : LastUnit part source start stop found unit)
    (among : ∀ {matcher form}, ReportsFrom matcher form part → ReportsFrom matcher form whole) :
    LastUnit whole source start stop found unit := by
  obtain ⟨advances, present, matcher, form, inner, test, reported⟩ := lastUnit
  exact ⟨advances, present, matcher, form, among inner, test, reported⟩

/-- A matcher reports the unit that it goes over. -/
theorem lastUnit_of_unit {matcher : Matcher kind}
    (success : (Parser.unit matcher).parseAt c = .ok (found, last)) :
    ∃ unit, LastUnit (.unit matcher) source c.position last.position found unit := by
  obtain ⟨unit, present, test, reported, rfl⟩ := Matcher.parse_eq_ok.1 success
  have inside : c.position < source.length := (List.getElem?_eq_some_iff.1 present).1
  have behind : c.next.position = c.position + 1 := Cursor.position_next_of_lt inside
  refine ⟨unit, ?_, ?_, matcher, none, .unit, test, reported⟩
  · omega
  · rw [behind, Nat.add_sub_cancel]
    exact present

/-- A parser that reports a unit reports the last one in front of the place where it stops. -/
theorem last_unit_of_parseAt (reports : parser.Reporting)
    (success : parser.parseAt c = .ok (found, last)) :
    ∃ unit, LastUnit parser source c.position last.position found unit := by
  induction reports generalizing c last found with
  | unit matcher => exact lastUnit_of_unit success
  | skipping skipper _ subjectReports =>
    obtain ⟨unit, lastUnit⟩ := subjectReports success
    -- The skipper may try to go back, but the loop around it does not.
    have forward := skipper.position_le_skip c
    have advances := Nat.lt_of_le_of_lt forward lastUnit.advances
    exact ⟨unit, { lastUnit.of_part .behind with advances }⟩
  | converting conversion _ subjectReports =>
    obtain ⟨raw, subjectSuccess, rfl⟩ := converting_eq_ok.1 success
    obtain ⟨unit, advances, present, matcher, form, inner, test, rfl⟩ :=
      subjectReports subjectSuccess
    exact ⟨unit, advances, present, matcher, some conversion, .converted inner, test,
      Attribute.apply_report conversion form unit⟩
  | either _ _ firstReports secondReports =>
    obtain success | ⟨_, success⟩ := either_eq_ok.1 success
    · obtain ⟨unit, lastUnit⟩ := firstReports success
      exact ⟨unit, lastUnit.of_part .preferred⟩
    · obtain ⟨unit, lastUnit⟩ := secondReports success
      exact ⟨unit, lastUnit.of_part .otherwise⟩

/-- A parser that reports a unit, under any skippers, conversions and alternatives, moves on from
every place where it succeeds and stays in the source. It reports the unit in front of the place
where it stops, which one of the matchers that it reports from accepts. The unit is reported as it
is or as a value that represents this unit and no other one. -/
theorem reports_last_unit (parser : Parser kind) (reports : parser.Reporting)
    (source : List (CodeUnit kind)) (position : Nat) (found : Attribute kind)
    (last : Cursor source)
    (success : parser.parseAt (.clamped source position) = .ok (found, last)) :
    let c := Cursor.clamped source position
    last.position ≤ source.length ∧
      ∃ unit, LastUnit parser source c.position last.position found unit ∧
        ∀ other, found.Shows other ↔ other = unit := by
  intro c
  have within : last.position ≤ source.length :=
    (parser.sound_of_parseAt (Cursor.sound_clamped position) success).position_le
  obtain ⟨unit, lastUnit⟩ := last_unit_of_parseAt reports success
  refine ⟨within, unit, lastUnit, fun other => ?_⟩
  obtain ⟨matcher, form, _, _, rfl⟩ := lastUnit.accepted
  constructor
  · intro shown
    exact shown.unique (Attribute.shows_report form unit)
  · rintro rfl
    exact Attribute.shows_report form other

/-- A letter behind two blanks, under a skipper that takes blanks and goes back to the start where
there is none. The first parser of the alternative fails behind the blanks, and the second one
starts over in front of them and reports the letter as a number of 32 bits. -/
theorem reports_last_unit_letter :
    let blank : CodeUnit .octet := ⟨0x20, by decide⟩
    let letter : CodeUnit .octet := ⟨0x78, by decide⟩
    let source := [blank, blank, letter, blank]
    let skipper := Parser.either (.unit (.literal blank)) .restart
    let wide : Conversion .octet := ⟨.integer true 32, by decide⟩
    let parser := Parser.converting wide (.either (.skipping (.unit (.literal blank)) skipper)
      (.skipping (.unit (.negated (.literal blank))) skipper))
    let found := Attribute.converted (.integer true 32) (.integer 0x78)
    parser.Reporting ∧ parser.parseAt (.clamped source 0) = .ok (found, .clamped source 3) ∧
      ∀ other, found.Shows other ↔ other = letter := by
  intro blank letter source skipper wide parser found
  have reports : parser.Reporting :=
    .converting _ (.either (.skipping _ (.unit _)) (.skipping _ (.unit _)))
  have stuck : skipper.Stuck (.clamped source 2) := Or.inr (Or.inr ⟨_, _, rfl, by decide⟩)
  have skipped : skipper.skip (.clamped source 0) = .clamped source 2 := by
    have one : skipper.Takes (.clamped source 0) (.clamped source 1) := ⟨rfl, _, rfl, by decide⟩
    have two : skipper.Takes (.clamped source 1) (.clamped source 2) := ⟨rfl, _, rfl, by decide⟩
    rw [skip_of_takes one, skip_of_takes two, skip_of_stuck stuck]
  have success : parser.parseAt (.clamped source 0) = .ok (found, .clamped source 3) := by
    let refused : ParseError .octet := ⟨(Matcher.literal blank).refusal letter, source, 2⟩
    refine converting_eq_ok.2 ⟨.unit letter, either_eq_ok.2 (Or.inr ⟨⟨refused, ?_⟩, ?_⟩), rfl⟩
    · rw [parseAt_skipping, skipped]
      rfl
    · rw [parseAt_skipping, skipped]
      rfl
  obtain ⟨_, unit, lastUnit, shows⟩ := reports_last_unit parser reports source 0 _ _ success
  cases lastUnit.present
  exact ⟨reports, success, shows⟩

end Parser

end Charwise
