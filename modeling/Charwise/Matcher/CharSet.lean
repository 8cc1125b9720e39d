import Charwise.CodeUnit

/-!
# Character sets

A set is defined by a list of units in which `a-z` stands for a range. A hyphen joins its neighbours
only if it has one on each side, and the end of one range may be the beginning of the next, as in
`a-f-z`.
-/

namespace Charwise.CharSet

variable {kind : UnitKind}

/-- Whether the units behind a range continue it: a hyphen with a unit after it. -/
def continues : List (CodeUnit kind) → Bool
  | unit :: _ :: _ => unit == .hyphen
  | _ => false

/-- The ranges of a definition, from left to right. A unit that belongs to no range is the range
from itself to itself. -/
def ranges : List (CodeUnit kind) → List (CodeUnit kind × CodeUnit kind)
  | first :: middle :: last :: rest =>
    if middle = .hyphen then
      (first, last) :: if continues rest then ranges (last :: rest) else ranges rest
    else (first, first) :: ranges (middle :: last :: rest)
  | [first, second] => [(first, first), (second, second)]
  | [single] => [(single, single)]
  | [] => []

/-- Whether a unit lies in one of the ranges of a definition. -/
def contains (definition : List (CodeUnit kind)) (unit : CodeUnit kind) : Bool :=
  (ranges definition).any fun (first, last) => first ≤ unit && unit ≤ last

end Charwise.CharSet
