import Charwise.Matcher

/-!
# Runs of accepted numbers

The numbers of an interval that are units and that a matcher accepts, summed up as the maximal runs
of consecutive numbers.
-/

namespace Charwise.Matcher

variable {kind : UnitKind}

/-- Add a number above all numbers so far to a list of runs, which has the highest run first. -/
def extendRuns (runs : List (Nat × Nat)) (code : Nat) : List (Nat × Nat) :=
  match runs with
  | [] => [(code, code)]
  | (first, last) :: lower =>
    if last + 1 = code then (first, code) :: lower else (code, code) :: runs

/-- Whether a number is a unit that the matcher accepts. -/
def acceptsCode (matcher : Matcher kind) (code : Nat) : Bool :=
  (CodeUnit.ofNat? kind code).any matcher.test

/-- The maximal runs of accepted numbers from `first` to `last`, in ascending order. -/
def runs (matcher : Matcher kind) (first last : Nat) : List (Nat × Nat) :=
  let codes := (List.range' first (last + 1 - first)).filter matcher.acceptsCode
  (codes.foldl extendRuns []).reverse

end Charwise.Matcher
