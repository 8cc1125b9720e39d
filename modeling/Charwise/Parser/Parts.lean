import Charwise.Parser

/-!
# Parts of parsers

The parsers that a parser is made of, itself included. A skipper only decides where its subject
starts, so the parts of skippers are counted or left out, as a statement needs it.
-/

namespace Charwise.Parser

variable {kind : UnitKind}

/-- Which parts of a parser are counted. -/
inductive Scope where
  /-- All parts. -/
  | everywhere
  /-- The parts that do not belong to a skipper. -/
  | outsideSkippers
  deriving DecidableEq

/-- Whether a parser is a part of another one, among the parts that are counted. -/
inductive PartOf (scope : Scope) (part : Parser kind) : Parser kind → Prop where
  /-- Every parser is a part of itself. -/
  | self : PartOf scope part part
  /-- The parts of what is parsed behind a skipper. -/
  | behind {subject skipper : Parser kind} (inner : PartOf scope part subject) :
    PartOf scope part (.skipping subject skipper)
  /-- The parts of a skipper, if they are counted. -/
  | skipper {subject skipper : Parser kind} (counted : scope = .everywhere)
    (inner : PartOf scope part skipper) : PartOf scope part (.skipping subject skipper)
  /-- The parts of what is omitted. -/
  | omitted {subject : Parser kind} (inner : PartOf scope part subject) :
    PartOf scope part (.omitting subject)
  /-- The parts of what is converted. -/
  | converted {conversion : Conversion kind} {subject : Parser kind}
    (inner : PartOf scope part subject) : PartOf scope part (.converting conversion subject)
  /-- The parts of the first of two parsers in turn. -/
  | first {first second : Parser kind} (inner : PartOf scope part first) :
    PartOf scope part (.both first second)
  /-- The parts of the second of two parsers in turn. -/
  | second {first second : Parser kind} (inner : PartOf scope part second) :
    PartOf scope part (.both first second)
  /-- The parts of the first parser of an alternative. -/
  | preferred {first second : Parser kind} (inner : PartOf scope part first) :
    PartOf scope part (.either first second)
  /-- The parts of the second parser of an alternative. -/
  | otherwise {first second : Parser kind} (inner : PartOf scope part second) :
    PartOf scope part (.either first second)

end Charwise.Parser
