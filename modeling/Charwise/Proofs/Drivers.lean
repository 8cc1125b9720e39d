import Charwise.Parser.Run
import Charwise.Proofs.Skipping

/-!
# The results of runs

How the four drivers end, apart from what they record on the way: each ends with the outcome of the
parser at the place where the driver starts it, moved on by the skipper or held to the end of the
source. Only a phrase can panic, and only if its match stops in front of the place where it was
started (`Parser.phraseParse_eq_panicked`).
-/

namespace Charwise

variable {kind : UnitKind} {source : List (CodeUnit kind)}
variable {found : Attribute kind} {last : Cursor source} {error : ParseError kind}

namespace Ending

variable {ε α : Type} {result : Except ε α} {value : α} {failure : ε}

/-- A run that ends with a result succeeds if the result is a success. -/
theorem ofExcept_eq_ok : ofExcept result = .ok value ↔ result = .ok value := by
  cases result <;> simp [ofExcept]

/-- A run that ends with a result fails if the result is an error. -/
theorem ofExcept_eq_error : ofExcept result = .error failure ↔ result = .error failure := by
  cases result <;> simp [ofExcept]

/-- A run that ends with a result does not panic. -/
theorem ofExcept_ne_panicked : ofExcept result ≠ .panicked := by
  cases result <;> simp [ofExcept]

end Ending

/-- Where a phrase stops, for a match that stops at `c`. -/
def PostSkip.finish (postSkip : PostSkip) (skipper : Parser kind) (c : Cursor source) :
    Cursor source :=
  match postSkip with
  | .yes => skipper.skip c
  | .no => c

/-- The ending of a run that is held to the end of the source. -/
def requireEnd (outcome : RunOutcome source) : CompleteOutcome kind :=
  match outcome with
  | .panicked => .panicked
  | .error error => .error error
  | .ok (found, c) => if c.atEnd then .ok found else .error (c.fail .trailingInput)

/-- A success is kept at the end of the source, and is an error in front of it. -/
theorem requireEnd_clamped (found : Attribute kind) (position : Nat) :
    requireEnd (.ok (found, Cursor.clamped source position)) =
      if source.length ≤ position then .ok found
      else .error ⟨.trailingInput, source, position⟩ := by
  unfold requireEnd
  by_cases outside : source.length ≤ position
  · simp [outside]
  · have inside : min position source.length = position := Nat.min_eq_left (by omega)
    simp [outside, inside, Cursor.fail]

/-- Held to the end of the source, a run fails with the error that it fails with anyway, or with
that of a success in front of the end. -/
theorem requireEnd_eq_error {outcome : RunOutcome source} :
    requireEnd outcome = .error error ↔
      outcome = .error error ∨ ∃ found c, outcome = .ok (found, c) ∧ c.atEnd = false ∧
        error = c.fail .trailingInput := by
  cases outcome with
  | panicked => simp [requireEnd]
  | error other => simp [requireEnd]
  | ok success =>
    obtain ⟨other, c⟩ := success
    cases done : c.atEnd <;> simp [requireEnd, done, and_assoc, @eq_comm _ error]

/-- Held to the end of the source, a run panics if it does so anyway, and only then. -/
theorem requireEnd_eq_panicked {outcome : RunOutcome source} :
    requireEnd outcome = .panicked ↔ outcome = .panicked := by
  cases outcome with
  | panicked => simp [requireEnd]
  | error other => simp [requireEnd]
  | ok success =>
    obtain ⟨other, c⟩ := success
    cases done : c.atEnd <;> simp [requireEnd, done]

namespace Traced

variable {run : Traced ParseEvent (RunOutcome source)} {c : Cursor source}

/-- The complete form of a run that panics panics. -/
theorem complete_of_panicked (ran : run.result = .panicked) :
    run.complete = ⟨run.events, .panicked⟩ := by
  simp [complete, after, ran]

/-- The complete form of a run that fails is that run. -/
theorem complete_of_error (ran : run.result = .error error) :
    run.complete = ⟨run.events, .error error⟩ := by
  simp [complete, after, ran]

/-- The complete form of a run that stops at the end succeeds and records nothing more. -/
theorem complete_of_atEnd (ran : run.result = .ok (found, c)) (done : c.atEnd = true) :
    run.complete = ⟨run.events, .ok found⟩ := by
  simp [complete, after, ran, done]

/-- The complete form of a run that stops in front of the end records what is left over. No run
leaves its source, so this can always be counted. -/
theorem complete_of_more (ran : run.result = .ok (found, c)) (sound : c.Sound)
    (more : c.atEnd = false) :
    run.complete = ⟨run.events ++ [.leftOver (source.length - c.position)],
      .error (c.fail .trailingInput)⟩ := by
  simp [complete, after, ran, more, measure_of_le sound.position_le]

/-- A complete run holds the ending of the run to the end of the source. -/
theorem result_complete (sound : ∀ {found c}, run.result = .ok (found, c) → c.Sound) :
    run.complete.result = requireEnd run.result := by
  cases ran : run.result with
  | panicked => rw [complete_of_panicked ran, requireEnd]
  | error error => rw [complete_of_error ran, requireEnd]
  | ok success =>
    obtain ⟨found, c⟩ := success
    cases done : c.atEnd with
    | true => simp [complete_of_atEnd ran done, requireEnd, done]
    | false => simp [complete_of_more ran (sound ran) done, requireEnd, done]

end Traced

namespace Parser

variable {parser skipper : Parser kind} {postSkip : PostSkip} {stop : Cursor source}

/-- A parser is run at the start of the source. -/
theorem result_parse (parser : Parser kind) (source : List (CodeUnit kind)) :
    (parser.parse source).result = .ofExcept (parser.parseAt (.start source)) := by
  unfold parse
  cases parser.parseAt (.start source) <;> rfl

/-- A run succeeds as the parser does at the start. -/
theorem parse_eq_ok : (parser.parse source).result = .ok (found, last) ↔
    parser.parseAt (.start source) = .ok (found, last) := by
  rw [result_parse, Ending.ofExcept_eq_ok]

/-- A run fails as the parser does at the start. -/
theorem parse_eq_error : (parser.parse source).result = .error error ↔
    parser.parseAt (.start source) = .error error := by
  rw [result_parse, Ending.ofExcept_eq_error]

/-- A run without a skipper does not panic. -/
theorem parse_ne_panicked : (parser.parse source).result ≠ .panicked := by
  rw [result_parse]
  exact Ending.ofExcept_ne_panicked

/-- A phrase whose parser fails records what was skipped in front of it. -/
theorem phraseParse_of_error
    (failed : parser.parseAt (skipper.skip (.start source)) = .error error) :
    parser.phraseParse skipper postSkip source =
      ⟨[.skippedLeading (skipper.skip (.start source)).position], .error error⟩ := by
  simp [phraseParse, Traced.after, failed]

/-- A phrase whose match leads back panics once it has recorded what was skipped. -/
theorem phraseParse_of_lt
    (matched : parser.parseAt (skipper.skip (.start source)) = .ok (found, stop))
    (back : stop.position < (skipper.skip (.start source)).position) :
    parser.phraseParse skipper postSkip source =
      ⟨[.skippedLeading (skipper.skip (.start source)).position], .panicked⟩ := by
  simp [phraseParse, Traced.after, matched, Traced.measure_of_lt back]

/-- A phrase whose match does not lead back records how far it leads. -/
theorem phraseParse_no_of_le
    (matched : parser.parseAt (skipper.skip (.start source)) = .ok (found, stop))
    (forward : (skipper.skip (.start source)).position ≤ stop.position) :
    parser.phraseParse skipper .no source =
      ⟨[.skippedLeading (skipper.skip (.start source)).position,
        .matchedPhrase (stop.position - (skipper.skip (.start source)).position)],
        .ok (found, stop)⟩ := by
  simp [phraseParse, Traced.after, matched, Traced.measure_of_le forward]

/-- A phrase that skips behind the match records this as well. The skipper does not lead back, so
this can always be counted. -/
theorem phraseParse_yes_of_le
    (matched : parser.parseAt (skipper.skip (.start source)) = .ok (found, stop))
    (forward : (skipper.skip (.start source)).position ≤ stop.position) :
    parser.phraseParse skipper .yes source =
      ⟨[.skippedLeading (skipper.skip (.start source)).position,
        .matchedPhrase (stop.position - (skipper.skip (.start source)).position),
        .skippedTrailing ((skipper.skip stop).position - stop.position)],
        .ok (found, skipper.skip stop)⟩ := by
  simp [phraseParse, Traced.after, matched, Traced.measure_of_le forward,
    Traced.measure_of_le (skipper.position_le_skip stop)]

/-- A phrase is the outcome of the parser behind what the skipper takes, moved on if asked for. A
match that leads back panics. -/
theorem result_phraseParse (parser skipper : Parser kind) (postSkip : PostSkip)
    (source : List (CodeUnit kind)) :
    (parser.phraseParse skipper postSkip source).result =
      match parser.parseAt (skipper.skip (.start source)) with
      | .error error => .error error
      | .ok (found, stop) =>
        if stop.position < (skipper.skip (.start source)).position then .panicked
        else .ok (found, postSkip.finish skipper stop) := by
  cases ran : parser.parseAt (skipper.skip (.start source)) with
  | error error => rw [phraseParse_of_error ran]
  | ok success =>
    obtain ⟨found, stop⟩ := success
    by_cases back : stop.position < (skipper.skip (.start source)).position
    · rw [phraseParse_of_lt ran back]
      exact (if_pos back).symm
    · have forward := Nat.le_of_not_lt back
      dsimp only
      rw [if_neg back]
      cases postSkip with
      | no => rw [phraseParse_no_of_le ran forward, PostSkip.finish]
      | yes => rw [phraseParse_yes_of_le ran forward, PostSkip.finish]

/-- A phrase succeeds with the parser behind what the skipper takes, if the match does not lead
back, and stops where the skipper leads from there if asked for. -/
theorem phraseParse_eq_ok :
    (parser.phraseParse skipper postSkip source).result = .ok (found, last) ↔
      ∃ stop, parser.parseAt (skipper.skip (.start source)) = .ok (found, stop) ∧
        (skipper.skip (.start source)).position ≤ stop.position ∧
        last = postSkip.finish skipper stop := by
  rw [result_phraseParse]
  cases parser.parseAt (skipper.skip (.start source)) with
  | error error => simp
  | ok success =>
    obtain ⟨other, stop⟩ := success
    by_cases back : stop.position < (skipper.skip (.start source)).position
    · simp [back, Nat.not_le_of_lt back]
    · simp [back, Nat.le_of_not_lt back, and_assoc, @eq_comm _ last]

/-- A phrase fails with the parser behind what the skipper takes. -/
theorem phraseParse_eq_error :
    (parser.phraseParse skipper postSkip source).result = .error error ↔
      parser.parseAt (skipper.skip (.start source)) = .error error := by
  rw [result_phraseParse]
  cases parser.parseAt (skipper.skip (.start source)) with
  | error other => simp
  | ok success =>
    dsimp only
    split <;> simp

/-- A phrase panics if its match leads back, and only then. -/
theorem phraseParse_eq_panicked :
    (parser.phraseParse skipper postSkip source).result = .panicked ↔
      ∃ found stop, parser.parseAt (skipper.skip (.start source)) = .ok (found, stop) ∧
        stop.position < (skipper.skip (.start source)).position := by
  rw [result_phraseParse]
  cases parser.parseAt (skipper.skip (.start source)) with
  | error error => simp
  | ok success => simp [Prod.ext_iff, and_assoc]

/-- A parser that is run over a source stops at a sound place. -/
theorem sound_of_parse (success : (parser.parse source).result = .ok (found, last)) :
    last.Sound :=
  parser.sound_of_parseAt Cursor.sound_start (parse_eq_ok.1 success)

/-- A phrase stops at a sound place. -/
theorem sound_of_phraseParse
    (success : (parser.phraseParse skipper postSkip source).result = .ok (found, last)) :
    last.Sound := by
  obtain ⟨stop, matched, _, rfl⟩ := phraseParse_eq_ok.1 success
  have sound := parser.sound_of_parseAt (skipper.sound_skip Cursor.sound_start) matched
  cases postSkip with
  | yes => exact skipper.sound_skip sound
  | no => exact sound

/-- A complete parse is a parse that is held to the end of the source. -/
theorem result_parseComplete (parser : Parser kind) (source : List (CodeUnit kind)) :
    (parser.parseComplete source).result = requireEnd (parser.parse source).result :=
  Traced.result_complete sound_of_parse

/-- A complete run without a skipper does not panic. -/
theorem parseComplete_ne_panicked : (parser.parseComplete source).result ≠ .panicked := by
  rw [result_parseComplete]
  exact mt requireEnd_eq_panicked.1 parse_ne_panicked

/-- A complete phrase is a phrase that is held to the end of the source. -/
theorem result_phraseParseComplete (parser skipper : Parser kind) (postSkip : PostSkip)
    (source : List (CodeUnit kind)) :
    (parser.phraseParseComplete skipper postSkip source).result =
      requireEnd (parser.phraseParse skipper postSkip source).result :=
  Traced.result_complete sound_of_phraseParse

/-- A complete phrase panics if the phrase does, and only then. -/
theorem phraseParseComplete_eq_panicked :
    (parser.phraseParseComplete skipper postSkip source).result = .panicked ↔
      (parser.phraseParse skipper postSkip source).result = .panicked := by
  rw [result_phraseParseComplete, requireEnd_eq_panicked]

end Parser

end Charwise
