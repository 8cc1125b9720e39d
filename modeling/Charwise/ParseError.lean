import Charwise.Location

/-!
# Parse errors

An error has a cause and a location. Its message names both and shows the source around the
location.
-/

namespace Charwise

/-- What went wrong. -/
inductive ErrorCause where
  /-- A step led to the end of the input. -/
  | unexpectedEnd
  /-- A step was tried at the end of the input. -/
  | alreadyAtEnd
  /-- A unit was asked for at the end of the input. -/
  | noUnitAtEnd
  /-- The input was refused, for the reason given. -/
  | refused (reason : String)
  /-- Input was left over that should have been consumed. -/
  | trailingInput
  deriving DecidableEq

/-- The headline of a message. -/
def ErrorCause.headline : ErrorCause → String
  | .unexpectedEnd => "Unexpected end of file"
  | .alreadyAtEnd => "Already at end of file"
  | .noUnitAtEnd => "Cannot read value at EOF"
  | .refused reason => "Syntax error: " ++ reason
  | .trailingInput => "Unconsumed trailing input"

/-- An error with its location. -/
structure ParseError (kind : UnitKind) where
  /-- What went wrong. -/
  cause : ErrorCause
  /-- Where it went wrong. -/
  location : Location kind
  deriving DecidableEq

/-- The message: a headline, an empty line, and the excerpt. -/
def ParseError.message {kind : UnitKind} (error : ParseError kind) : String :=
  let location := error.location
  let headline :=
    error.cause.headline ++ " at line " ++ toString location.line ++ ", offset " ++
      toString location.offset ++ " (absolute position: " ++ toString location.position ++ ")"
  String.join ((headline :: "" :: location.excerpt).map (· ++ "\n"))

end Charwise
