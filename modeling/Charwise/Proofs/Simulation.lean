import Charwise.Proofs.Drivers
import Charwise.Proofs.Skipping

/-!
# Simulation

Runs over two sources, possibly of different kinds, are compared place by place. A comparison says
which places, attributes and errors correspond to each other; a parser is simulated by another one
if from corresponding places their outcomes correspond. Every form of parser keeps simulation. For
skipping this is where the two loops go through corresponding places, since corresponding steps lead
further on both sides or on neither (`Comparison.Simulates.places_skip`).
-/

namespace Charwise

variable {kind other : UnitKind}

/-- Two endings correspond if both are successes that do, or both are errors that do, or both are
panics. -/
inductive Parallel {ε δ α β : Type} (errors : ε → δ → Prop) (successes : α → β → Prop) :
    Ending ε α → Ending δ β → Prop where
  /-- Corresponding successes. -/
  | ok {a : α} {b : β} (related : successes a b) : Parallel errors successes (.ok a) (.ok b)
  /-- Corresponding errors. -/
  | error {a : ε} {b : δ} (related : errors a b) :
    Parallel errors successes (.error a) (.error b)
  /-- Panics. -/
  | panicked : Parallel errors successes .panicked .panicked

/-- Corresponding endings correspond in every wider sense of corresponding successes. -/
theorem Parallel.imp {ε δ α β : Type} {errors : ε → δ → Prop} {successes wider : α → β → Prop}
    {one : Ending ε α} {two : Ending δ β} (parallel : Parallel errors successes one two)
    (implies : ∀ {a b}, successes a b → wider a b) : Parallel errors wider one two := by
  cases parallel with
  | ok related => exact .ok (implies related)
  | error related => exact .error related
  | panicked => exact .panicked

/-- What corresponds to what in the runs over two sources. -/
structure Comparison (source : List (CodeUnit kind)) (image : List (CodeUnit other)) where
  /-- The places that correspond. -/
  places : Cursor source → Cursor image → Prop
  /-- The attributes that correspond. -/
  attributes : Attribute kind → Attribute other → Prop
  /-- The errors that correspond. -/
  errors : ParseError kind → ParseError other → Prop
  /-- Of corresponding places, both are the end or none is. -/
  atEnd_eq : ∀ {c d}, places c d → c.atEnd = d.atEnd
  /-- Between corresponding places, both ways lead further or none does. -/
  further_iff : ∀ {c d next last}, places c d → places next last →
    (c.position < next.position ↔ d.position < last.position)
  /-- Omitted attributes correspond. -/
  omitted : ∀ {a b}, a = .omitted → b = .omitted → attributes a b

namespace Comparison

variable {source : List (CodeUnit kind)} {image : List (CodeUnit other)}

/-- Two runs end in corresponding outcomes if their attributes and places correspond, or else their
errors, or if both panic. -/
def Outcomes (r : Comparison source image) (a : RunOutcome source) (b : RunOutcome image) : Prop :=
  Parallel r.errors (fun a b => r.attributes a.1 b.1 ∧ r.places a.2 b.2) a b

/-- A parser is simulated by another one if their outcomes correspond from corresponding places. -/
def Simulates (r : Comparison source image) (p : Parser kind) (q : Parser other) : Prop :=
  ∀ ⦃c d⦄, r.places c d → r.Outcomes (.ofExcept (p.parseAt c)) (.ofExcept (q.parseAt d))

variable {r : Comparison source image} {c next : Cursor source} {d last : Cursor image}

/-- Corresponding attributes at corresponding places are corresponding outcomes. -/
theorem outcomes_ok {a : Attribute kind} {b : Attribute other} (attributes : r.attributes a b)
    (places : r.places c d) : r.Outcomes (.ok (a, c)) (.ok (b, d)) :=
  .ok ⟨attributes, places⟩

/-- Corresponding errors are corresponding outcomes. -/
theorem outcomes_error {a : ParseError kind} {b : ParseError other} (errors : r.errors a b) :
    r.Outcomes (.error a) (.error b) :=
  .error errors

/-- Matchers have corresponding outcomes in front of units on which they agree. -/
theorem outcomes_unit {matcher : Matcher kind} {otherMatcher : Matcher other} {unit : CodeUnit kind}
    {otherUnit : CodeUnit other} (present : source[c.position]? = some unit)
    (otherPresent : image[d.position]? = some otherUnit)
    (same : matcher.test unit = otherMatcher.test otherUnit)
    (attributes : r.attributes (.unit unit) (.unit otherUnit)) (places : r.places c.next d.next)
    (errors : r.errors (c.fail (matcher.refusal unit)) (d.fail (otherMatcher.refusal otherUnit))) :
    r.Outcomes (.ofExcept (matcher.parse c)) (.ofExcept (otherMatcher.parse d)) := by
  cases accepted : matcher.test unit with
  | true =>
    have otherAccepted : otherMatcher.test otherUnit = true := same ▸ accepted
    rw [Matcher.parse_eq_ok.2 ⟨unit, present, accepted, rfl, rfl⟩,
      Matcher.parse_eq_ok.2 ⟨otherUnit, otherPresent, otherAccepted, rfl, rfl⟩]
    exact outcomes_ok attributes places
  | false =>
    have otherRejected : otherMatcher.test otherUnit = false := same ▸ accepted
    rw [Matcher.parse_eq_error.2 (Or.inr ⟨unit, present, accepted, rfl⟩),
      Matcher.parse_eq_error.2 (Or.inr ⟨otherUnit, otherPresent, otherRejected, rfl⟩)]
    exact outcomes_error errors

/-- Matchers have corresponding outcomes behind the last units. -/
theorem outcomes_none {matcher : Matcher kind} {otherMatcher : Matcher other}
    (outside : source[c.position]? = none) (otherOutside : image[d.position]? = none)
    (errors : r.errors (Cursor.failAtEnd source .noUnitAtEnd)
      (Cursor.failAtEnd image .noUnitAtEnd)) :
    r.Outcomes (.ofExcept (matcher.parse c)) (.ofExcept (otherMatcher.parse d)) := by
  rw [Matcher.parse_eq_error.2 (Or.inl ⟨outside, rfl⟩),
    Matcher.parse_eq_error.2 (Or.inl ⟨otherOutside, rfl⟩)]
  exact outcomes_error errors

namespace Simulates

variable {p : Parser kind} {q : Parser other}
variable {first second : Parser kind} {otherFirst otherSecond : Parser other}

/-- From corresponding places, simulated parsers succeed both or fail both. -/
theorem cases (simulates : r.Simulates p q) (places : r.places c d) :
    (∃ a b next last, p.parseAt c = .ok (a, next) ∧ q.parseAt d = .ok (b, last) ∧
        r.attributes a b ∧ r.places next last) ∨
      ∃ a b, p.parseAt c = .error a ∧ q.parseAt d = .error b ∧ r.errors a b := by
  have outcomes := simulates places
  generalize one : Ending.ofExcept (p.parseAt c) = ranP at outcomes
  generalize two : Ending.ofExcept (q.parseAt d) = ranQ at outcomes
  cases outcomes with
  | ok related =>
    exact Or.inl ⟨_, _, _, _, Ending.ofExcept_eq_ok.1 one, Ending.ofExcept_eq_ok.1 two, related⟩
  | error related =>
    exact Or.inr ⟨_, _, Ending.ofExcept_eq_error.1 one, Ending.ofExcept_eq_error.1 two, related⟩
  | panicked => exact absurd one Ending.ofExcept_ne_panicked

/-- Where one skipper takes a step, so does the other, to a corresponding place. -/
theorem takes (simulates : r.Simulates p q) (places : r.places c d) (step : p.Takes c next) :
    ∃ last, q.Takes d last ∧ r.places next last := by
  obtain ⟨more, found, success, further⟩ := step
  obtain ⟨_, b, _, last, one, two, _, later⟩ | ⟨_, _, one, _, _⟩ := simulates.cases places
  · cases success.symm.trans one
    have otherMore : d.atEnd = false := (r.atEnd_eq places).symm.trans more
    exact ⟨last, ⟨otherMore, b, two, (r.further_iff places later).1 further⟩, later⟩
  · cases success.symm.trans one

/-- Where one skipper is stuck, so is the other. -/
theorem stuck (simulates : r.Simulates p q) (places : r.places c d) (stuck : p.Stuck c) :
    q.Stuck d := by
  obtain done | ⟨error, failed⟩ | ⟨found, next, success, back⟩ := stuck
  · exact Or.inl ((r.atEnd_eq places).symm.trans done)
  · obtain ⟨_, _, _, _, one, _, _, _⟩ | ⟨_, b, _, two, _⟩ := simulates.cases places
    · cases failed.symm.trans one
    · exact Or.inr (Or.inl ⟨b, two⟩)
  · obtain ⟨_, b, _, last, one, two, _, later⟩ | ⟨_, _, one, _, _⟩ := simulates.cases places
    · cases success.symm.trans one
      have otherBack := mt (r.further_iff places later).2 (Nat.not_lt_of_le back)
      exact Or.inr (Or.inr ⟨b, last, two, Nat.le_of_not_lt otherBack⟩)
    · cases success.symm.trans one

/-- Skipping leads from corresponding places to corresponding ones. -/
theorem places_skip (simulates : r.Simulates p q) (places : r.places c d) :
    r.places (p.skip c) (q.skip d) := by
  -- The induction follows the steps of `p`, which `q` takes as well.
  induction c using (Parser.wellFounded_takes p).induction generalizing d with
  | _ c later =>
    obtain stuck | ⟨next, step⟩ := p.stuck_or_takes c
    · rw [Parser.skip_of_stuck stuck, Parser.skip_of_stuck (simulates.stuck places stuck)]
      exact places
    · obtain ⟨last, otherStep, following⟩ := simulates.takes places step
      rw [Parser.skip_of_takes step, Parser.skip_of_takes otherStep]
      exact later next step following

/-- Skipping keeps simulation in both parts. -/
theorem skipping (subjects : r.Simulates p q) (skippers : r.Simulates first otherFirst) :
    r.Simulates (.skipping p first) (.skipping q otherFirst) :=
  fun _ _ places => subjects (skippers.places_skip places)

/-- Omitting keeps simulation. -/
theorem omitting (simulates : r.Simulates p q) :
    r.Simulates (.omitting p) (.omitting q) := by
  intro c d places
  obtain ⟨a, b, next, last, one, two, _, later⟩ | ⟨_, _, one, two, errors⟩ :=
    simulates.cases places
  · rw [Parser.omitting_eq_ok.2 ⟨rfl, a, one⟩, Parser.omitting_eq_ok.2 ⟨rfl, b, two⟩]
    exact outcomes_ok (r.omitted rfl rfl) later
  · rw [Parser.omitting_eq_error.2 one, Parser.omitting_eq_error.2 two]
    exact outcomes_error errors

/-- Converting keeps simulation if the conversions keep the correspondence of attributes. -/
theorem converting {conversion : Conversion kind} {otherConversion : Conversion other}
    (kept : ∀ {a b}, r.attributes a b →
      r.attributes (conversion.apply a) (otherConversion.apply b))
    (simulates : r.Simulates p q) :
    r.Simulates (.converting conversion p) (.converting otherConversion q) := by
  intro c d places
  obtain ⟨a, b, next, last, one, two, attributes, later⟩ | ⟨_, _, one, two, errors⟩ :=
    simulates.cases places
  · rw [Parser.converting_eq_ok.2 ⟨a, one, rfl⟩, Parser.converting_eq_ok.2 ⟨b, two, rfl⟩]
    exact outcomes_ok (kept attributes) later
  · rw [Parser.converting_eq_error.2 one, Parser.converting_eq_error.2 two]
    exact outcomes_error errors

/-- The parser that consumes nothing simulates itself. -/
theorem nothing : r.Simulates .nothing .nothing :=
  fun _ _ places => outcomes_ok (r.omitted rfl rfl) places

/-- The parser that goes back simulates itself if the starts correspond. -/
theorem restart (starts : r.places (.start source) (.start image)) :
    r.Simulates .restart .restart :=
  fun _ _ _ => outcomes_ok (r.omitted rfl rfl) starts

/-- Parsing in turn keeps simulation. -/
theorem both (firsts : r.Simulates first otherFirst) (seconds : r.Simulates second otherSecond) :
    r.Simulates (.both first second) (.both otherFirst otherSecond) := by
  intro c d places
  obtain ⟨a, b, middle, otherMiddle, one, two, _, later⟩ | ⟨_, _, one, two, errors⟩ :=
    firsts.cases places
  · obtain ⟨_, _, _, _, three, four, _, last⟩ | ⟨_, _, three, four, errors⟩ := seconds.cases later
    · rw [Parser.both_eq_ok.2 ⟨rfl, a, middle, _, one, three⟩,
        Parser.both_eq_ok.2 ⟨rfl, b, otherMiddle, _, two, four⟩]
      exact outcomes_ok (r.omitted rfl rfl) last
    · rw [Parser.both_eq_error.2 (Or.inr ⟨a, middle, one, three⟩),
        Parser.both_eq_error.2 (Or.inr ⟨b, otherMiddle, two, four⟩)]
      exact outcomes_error errors
  · rw [Parser.both_eq_error.2 (Or.inl one), Parser.both_eq_error.2 (Or.inl two)]
    exact outcomes_error errors

/-- Alternatives keep simulation. -/
theorem either (firsts : r.Simulates first otherFirst) (seconds : r.Simulates second otherSecond) :
    r.Simulates (.either first second) (.either otherFirst otherSecond) := by
  intro c d places
  obtain ⟨_, _, _, _, one, two, attributes, later⟩ | ⟨a, b, one, two, _⟩ := firsts.cases places
  · rw [Parser.either_eq_ok.2 (Or.inl one), Parser.either_eq_ok.2 (Or.inl two)]
    exact outcomes_ok attributes later
  · rw [Parser.parseAt_either, Parser.parseAt_either, one, two]
    exact seconds places

variable {skipper : Parser kind} {otherSkipper : Parser other}

/-- Runs over the two sources have corresponding outcomes if their starts correspond. -/
theorem parse (simulates : r.Simulates p q) (starts : r.places (.start source) (.start image)) :
    r.Outcomes (p.parse source).result (q.parse image).result := by
  rw [Parser.result_parse, Parser.result_parse]
  exact simulates starts

/-- Phrases over the two sources have corresponding outcomes if their starts correspond. -/
theorem phraseParse (simulates : r.Simulates p q) (skippers : r.Simulates skipper otherSkipper)
    (starts : r.places (.start source) (.start image)) (postSkip : PostSkip) :
    r.Outcomes (p.phraseParse skipper postSkip source).result
      (q.phraseParse otherSkipper postSkip image).result := by
  obtain ⟨_, _, next, last, one, two, attributes, places⟩ | ⟨_, _, one, two, errors⟩ :=
    simulates.cases (skippers.places_skip starts)
  · -- A match leads back on both sides or on neither, and if it does, both phrases panic.
    have back_iff := r.further_iff places (skippers.places_skip starts)
    by_cases back : next.position < (skipper.skip (.start source)).position
    · rw [Parser.phraseParse_eq_panicked.2 ⟨_, next, one, back⟩,
        Parser.phraseParse_eq_panicked.2 ⟨_, last, two, back_iff.1 back⟩]
      exact .panicked
    · have forward := Nat.le_of_not_lt back
      have otherForward := Nat.le_of_not_lt (mt back_iff.2 back)
      have finish : r.places (postSkip.finish skipper next)
          (postSkip.finish otherSkipper last) := by
        cases postSkip with
        | yes => exact skippers.places_skip places
        | no => exact places
      rw [Parser.phraseParse_eq_ok.2 ⟨next, one, forward, rfl⟩,
        Parser.phraseParse_eq_ok.2 ⟨last, two, otherForward, rfl⟩]
      exact .ok ⟨attributes, finish⟩
  · rw [Parser.phraseParse_eq_error.2 one, Parser.phraseParse_eq_error.2 two]
    exact outcomes_error errors

end Simulates

/-- Corresponding outcomes still correspond if they are held to the end of their sources, where the
errors for input that is left over correspond. -/
theorem Outcomes.requireEnd {a : RunOutcome source} {b : RunOutcome image}
    (trailing : ∀ {c d}, r.places c d → r.errors (c.fail .trailingInput) (d.fail .trailingInput))
    (outcomes : r.Outcomes a b) :
    Parallel r.errors r.attributes (requireEnd a) (requireEnd b) := by
  cases outcomes with
  | ok related =>
    obtain ⟨attributes, places⟩ := related
    simp only [Charwise.requireEnd, r.atEnd_eq places]
    split
    · exact .ok attributes
    · exact .error (trailing places)
  | error errors => exact .error errors
  | panicked => exact .panicked

/-- The runs of two parsers correspond, each with its own skipper, if the results of all four
drivers do. -/
structure Runs (r : Comparison source image) (p skipper : Parser kind)
    (q otherSkipper : Parser other) : Prop where
  /-- The runs from the start correspond. -/
  parse : r.Outcomes (p.parse source).result (q.parse image).result
  /-- The runs over the whole source correspond. -/
  parseComplete :
    Parallel r.errors r.attributes (p.parseComplete source).result (q.parseComplete image).result
  /-- The runs behind the skipped input correspond. -/
  phraseParse : ∀ postSkip, r.Outcomes (p.phraseParse skipper postSkip source).result
    (q.phraseParse otherSkipper postSkip image).result
  /-- The runs over the whole source with the skipped input around the match correspond. -/
  phraseParseComplete : ∀ postSkip, Parallel r.errors r.attributes
    (p.phraseParseComplete skipper postSkip source).result
    (q.phraseParseComplete otherSkipper postSkip image).result

/-- The runs of simulated parsers with simulated skippers correspond. -/
theorem Simulates.runs {p skipper : Parser kind} {q otherSkipper : Parser other}
    (simulates : r.Simulates p q) (skippers : r.Simulates skipper otherSkipper)
    (starts : r.places (.start source) (.start image))
    (trailing : ∀ {c d}, r.places c d → r.errors (c.fail .trailingInput) (d.fail .trailingInput)) :
    r.Runs p skipper q otherSkipper := by
  constructor
  · exact simulates.parse starts
  · rw [Parser.result_parseComplete, Parser.result_parseComplete]
    exact (simulates.parse starts).requireEnd trailing
  · exact simulates.phraseParse skippers starts
  · intro postSkip
    rw [Parser.result_phraseParseComplete, Parser.result_phraseParseComplete]
    exact (simulates.phraseParse skippers starts postSkip).requireEnd trailing

end Comparison

end Charwise
