/-!
# Trace records

A trace is a list of records, in the order in which the events happened. Each kind of event says how
it is recorded.
-/

namespace Charwise

/-- The levels at which an event may be recorded. -/
inductive TraceLevel where
  | trace
  | debug
  | warn
  deriving DecidableEq

/-- The name of a level. -/
def TraceLevel.name : TraceLevel → String
  | .trace => "TRACE"
  | .debug => "DEBUG"
  | .warn => "WARN"

/-- The value of a field of a record. -/
inductive TraceValue where
  | count (value : Nat)
  | text (value : String)
  deriving DecidableEq

/-- A record of an event, with named fields. -/
structure TraceRecord where
  /-- The level of the event. -/
  level : TraceLevel
  /-- What happened. -/
  message : String
  /-- The details, each with its name. -/
  fields : List (String × TraceValue)
  deriving DecidableEq

/-- A result together with the events that led to it, the earliest first. -/
structure Traced (ε α : Type) where
  /-- The events, in order. -/
  events : List ε
  /-- The result. -/
  result : α

end Charwise
