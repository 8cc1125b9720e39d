import Charwise.Parser
import Charwise.Trace

/-!
# Running a parser over a source

A whole source is parsed from its start, with or without a skipper for the input around the match,
and it may be required that nothing is left. Each run records what was skipped and consumed. These
amounts are unsigned and their subtractions are checked, so a run that would have to record fewer
units than none panics.
-/

namespace Charwise

/-- Whether the input behind a match is skipped as well. -/
inductive PostSkip where
  | yes
  | no
  deriving DecidableEq

/-- The input behind a match is skipped unless something else is asked for. -/
def PostSkip.default : PostSkip := .yes

/-- What is recorded while a source is parsed, each with a number of units. -/
inductive ParseEvent where
  /-- A parser succeeded without a skipper. -/
  | matched (consumed : Nat)
  /-- The skipper ran in front of the match. -/
  | skippedLeading (skipped : Nat)
  /-- A parser succeeded behind the skipped input. -/
  | matchedPhrase (consumed : Nat)
  /-- The skipper ran behind the match. -/
  | skippedTrailing (skipped : Nat)
  /-- Input was left over. -/
  | leftOver (remaining : Nat)
  deriving DecidableEq

/-- The record of an event. -/
def ParseEvent.record : ParseEvent → TraceRecord
  | .matched consumed => ⟨.trace, "parse matched", [("consumed", .count consumed)]⟩
  | .skippedLeading skipped => ⟨.trace, "skipped leading input", [("skipped", .count skipped)]⟩
  | .matchedPhrase consumed => ⟨.trace, "phrase parse matched", [("consumed", .count consumed)]⟩
  | .skippedTrailing skipped => ⟨.trace, "skipped trailing input", [("skipped", .count skipped)]⟩
  | .leftOver remaining =>
    ⟨.trace, "complete parse left trailing input", [("remaining", .count remaining)]⟩

/-- How a run ends: with a value, with an error, or in a panic, which leaves neither. -/
inductive Ending (ε α : Type) where
  /-- The run succeeds. -/
  | ok (value : α)
  /-- The run fails. -/
  | error (error : ε)
  /-- The run is broken off. -/
  | panicked

/-- A result with which a run ends. -/
def Ending.ofExcept {ε α : Type} : Except ε α → Ending ε α
  | .ok value => .ok value
  | .error failure => .error failure

/-- How a run over a source ends. -/
abbrev RunOutcome {kind : UnitKind} (source : List (CodeUnit kind)) : Type :=
  Ending (ParseError kind) (Attribute kind × Cursor source)

/-- How a run that must consume the whole source ends. -/
abbrev CompleteOutcome (kind : UnitKind) : Type := Ending (ParseError kind) (Attribute kind)

namespace Traced

variable {ε α : Type}

/-- Go on with a run behind the events of an earlier one. -/
def after (events : List ParseEvent) (run : Traced ParseEvent (Ending ε α)) :
    Traced ParseEvent (Ending ε α) :=
  ⟨events ++ run.events, run.result⟩

/-- Record how far it is from one position to another, and go on with a run. If the other position
is further back, the subtraction underflows and the run panics without the record. -/
def measure (event : Nat → ParseEvent) (start stop : Nat)
    (rest : Traced ParseEvent (Ending ε α)) : Traced ParseEvent (Ending ε α) :=
  if start ≤ stop then rest.after [event (stop - start)] else ⟨[], .panicked⟩

variable {event : Nat → ParseEvent} {start stop : Nat} {rest : Traced ParseEvent (Ending ε α)}

/-- Forward, the distance is recorded. -/
theorem measure_of_le (forward : start ≤ stop) :
    rest.measure event start stop = rest.after [event (stop - start)] :=
  if_pos forward

/-- Backward, there is no distance to record. -/
theorem measure_of_lt (back : stop < start) :
    rest.measure event start stop = ⟨[], .panicked⟩ :=
  if_neg (Nat.not_le_of_lt back)

/-- Require that a run has reached the end of its source. -/
def complete {kind : UnitKind} {source : List (CodeUnit kind)}
    (run : Traced ParseEvent (RunOutcome source)) : Traced ParseEvent (CompleteOutcome kind) :=
  .after run.events <|
    match run.result with
    | .panicked => ⟨[], .panicked⟩
    | .error error => ⟨[], .error error⟩
    | .ok (found, c) =>
      if c.atEnd then ⟨[], .ok found⟩
      else .measure .leftOver c.position source.length ⟨[], .error (c.fail .trailingInput)⟩

end Traced

namespace Parser

variable {kind : UnitKind}

/-- Run a parser at the start of a source. -/
def parse (parser : Parser kind) (source : List (CodeUnit kind)) :
    Traced ParseEvent (RunOutcome source) :=
  match parser.parseAt (.start source) with
  | .ok (found, c) => ⟨[.matched c.position], .ok (found, c)⟩
  | .error error => ⟨[], .error error⟩

/-- Run a parser over the whole of a source. -/
def parseComplete (parser : Parser kind) (source : List (CodeUnit kind)) :
    Traced ParseEvent (CompleteOutcome kind) :=
  (parser.parse source).complete

/-- Run a parser behind the input that the skipper takes from the start of a source, and if asked
for skip the input behind the match. -/
def phraseParse (parser skipper : Parser kind) (postSkip : PostSkip)
    (source : List (CodeUnit kind)) : Traced ParseEvent (RunOutcome source) :=
  let first := skipper.skip (.start source)
  .after [.skippedLeading first.position] <|
    match parser.parseAt first with
    | .error error => ⟨[], .error error⟩
    | .ok (found, c) =>
      .measure .matchedPhrase first.position c.position <|
        match postSkip with
        | .no => ⟨[], .ok (found, c)⟩
        | .yes =>
          let last := skipper.skip c
          .measure .skippedTrailing c.position last.position ⟨[], .ok (found, last)⟩

/-- Run a parser and a skipper over the whole of a source. -/
def phraseParseComplete (parser skipper : Parser kind) (postSkip : PostSkip)
    (source : List (CodeUnit kind)) : Traced ParseEvent (CompleteOutcome kind) :=
  (parser.phraseParse skipper postSkip source).complete

end Parser

end Charwise
