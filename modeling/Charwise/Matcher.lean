import Charwise.CodeUnit.Text
import Charwise.Encoding
import Charwise.Matcher.CharSet

/-!
# Matchers

A matcher says which single units of a kind are accepted. Only a class needs an encoding, and any
encoding will do that reads units of the kind. Negations may be stacked on a matcher; each one
inverts the answer and is spoken of in the description.
-/

namespace Charwise

/-- A description of the units that are accepted. -/
inductive Matcher (kind : UnitKind) where
  /-- Every unit. -/
  | any
  /-- A single unit. -/
  | literal (unit : CodeUnit kind)
  /-- The units from the first to the last, both included. -/
  | range (first last : CodeUnit kind)
  /-- The units of a set, given by its definition. -/
  | set (definition : List (CodeUnit kind))
  /-- The units of a class of an encoding. -/
  | classified (e : Encoding) (reads : e.kind = kind) (c : e.Class)
  /-- The units that another matcher rejects. -/
  | negated (subject : Matcher kind)

namespace Matcher

variable {kind : UnitKind}

/-- The units of a class. -/
def ofClass {e : Encoding} (c : e.Class) : Matcher e.kind := classified e rfl c

/-- Whether a unit is accepted. -/
def test : Matcher kind → CodeUnit kind → Bool
  | any, _ => true
  | literal expected, unit => unit == expected
  | range first last, unit => decide (first ≤ unit ∧ unit ≤ last)
  | set definition, unit => CharSet.contains definition unit
  | classified e reads c, unit => e.holds c (unit.recast reads.symm)
  | negated subject, unit => !subject.test unit

/-- What a matcher expects, as it is put into a message. -/
def text : Matcher kind → String
  | any => "any character"
  | literal expected => expected.describe
  | range first last => first.describe ++ "..=" ++ last.describe
  | set definition => "one of [" ++ CodeUnit.render definition ++ "]"
  | classified e _ c => e.classText c
  | negated subject => "not " ++ subject.text

/-- The matcher with the opposite answers: a negation is taken off, or else one is put on. -/
def negate : Matcher kind → Matcher kind
  | negated subject => subject
  | matcher => negated matcher

/-- The matcher below the topmost negation, if there is one. -/
def subject? : Matcher kind → Option (Matcher kind)
  | negated subject => some subject
  | _ => none

/-- A negation inverts the answer, whether it takes a layer off or puts one on. -/
theorem test_negate (matcher : Matcher kind) (unit : CodeUnit kind) :
    matcher.negate.test unit = !matcher.test unit := by
  cases matcher <;> simp [negate, test]

end Matcher

end Charwise
