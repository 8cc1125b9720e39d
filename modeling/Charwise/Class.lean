/-!
# Character classes

The twelve classes that every encoding knows, under the names they have had since `ctype`.
-/

namespace Charwise

/-- A class that every encoding can test for. -/
inductive BasicClass where
  | alnum
  | alpha
  | blank
  | cntrl
  | digit
  | graph
  | lower
  | print
  | punct
  | space
  | upper
  | xdigit
  deriving DecidableEq

namespace BasicClass

/-- Every basic class, by name. -/
def all : List BasicClass :=
  [.alnum, .alpha, .blank, .cntrl, .digit, .graph, .lower, .print, .punct, .space, .upper, .xdigit]

/-- The name of a class. -/
def name : BasicClass → String
  | .alnum => "alnum"
  | .alpha => "alpha"
  | .blank => "blank"
  | .cntrl => "cntrl"
  | .digit => "digit"
  | .graph => "graph"
  | .lower => "lower"
  | .print => "print"
  | .punct => "punct"
  | .space => "space"
  | .upper => "upper"
  | .xdigit => "xdigit"

/-- The class of a name. -/
def ofName? (name : String) : Option BasicClass :=
  all.find? (·.name == name)

/-- The list of classes leaves none out. -/
theorem mem_all (c : BasicClass) : c ∈ all := by
  cases c <;> decide

end BasicClass

end Charwise
