import Charwise.Parser.Parts
import Charwise.Proofs.Drivers
import Charwise.Proofs.LeadingRun
import Charwise.Proofs.Soundness

/-!
# Explained failures

The error of a parser can be checked in the source. It either says at the end that there is no unit
to read, or it names the unit at its own position together with a matcher of the parser that rejects
this unit. Skippers fail all the time, but the loop drops their errors, and so no matcher of a
skipper is ever named (`Parser.explained_of_parseAt`). The only other error is that of a complete
run, in front of the input that is left over.
-/

namespace Charwise

variable {kind : UnitKind} {source : List (CodeUnit kind)}
variable {error : ParseError kind} {part whole : Parser kind}

/-- Why a parser fails over a source: it asked for a unit at the end, or one of its matchers outside
skippers rejects the unit at the position of the error, which the message describes. -/
structure ParseError.Explains (error : ParseError kind) (parser : Parser kind)
    (source : List (CodeUnit kind)) : Prop where
  /-- The error names the source. -/
  source_eq : error.location.source = source
  /-- What went wrong at the position of the error. -/
  reason : (error.cause = .noUnitAtEnd ∧ error.location.position = source.length) ∨
    ∃ matcher unit, (Parser.unit matcher).PartOf .outsideSkippers parser ∧
      source[error.location.position]? = some unit ∧ matcher.test unit = false ∧
      error.cause = .refused ("expected " ++ matcher.text ++ ", found " ++ unit.describe)

/-- Input is left over at an error that is located in front of a unit of the source. -/
structure ParseError.LeavesOver (error : ParseError kind) (source : List (CodeUnit kind)) :
    Prop where
  /-- The error names the source. -/
  source_eq : error.location.source = source
  /-- Input was left over. -/
  cause_eq : error.cause = .trailingInput
  /-- There are units behind the position. -/
  position_lt : error.location.position < source.length

namespace ParseError.Explains

/-- What explains the failure of a part explains that of the whole, if the matchers of the part
belong to the whole. -/
theorem of_part (explains : error.Explains part source)
    (among : ∀ matcher, (Parser.unit matcher).PartOf .outsideSkippers part →
      (Parser.unit matcher).PartOf .outsideSkippers whole) :
    error.Explains whole source := by
  refine ⟨explains.source_eq, ?_⟩
  obtain done | ⟨matcher, unit, inner, found⟩ := explains.reason
  · exact Or.inl done
  · exact Or.inr ⟨matcher, unit, among matcher inner, found⟩

/-- A parser does not fail as a step of a cursor fails, nor for input that is left over. -/
theorem cause_eq (explains : error.Explains whole source) :
    error.cause = .noUnitAtEnd ∨ ∃ reason, error.cause = .refused reason := by
  obtain ⟨cause, _⟩ | ⟨_, _, _, _, _, cause⟩ := explains.reason
  · exact Or.inl cause
  · exact Or.inr ⟨_, cause⟩

/-- A parser does not fail for input that is left over. -/
theorem cause_ne_trailingInput (explains : error.Explains whole source) :
    error.cause ≠ .trailingInput := by
  obtain cause | ⟨_, cause⟩ := explains.cause_eq <;> simp [cause]

end ParseError.Explains

namespace Parser

/-- A parser that fails from a sound place explains why. -/
theorem explained_of_parseAt (parser : Parser kind) {c : Cursor source} (sound : c.Sound)
    (failed : parser.parseAt c = .error error) : error.Explains parser source := by
  induction parser generalizing c with
  | unit matcher =>
    obtain ⟨_, rfl⟩ | ⟨unit, present, rejects, rfl⟩ := Matcher.parse_eq_error.1 failed
    · exact ⟨rfl, Or.inl ⟨rfl, rfl⟩⟩
    · exact ⟨rfl, Or.inr ⟨matcher, unit, .self, present, rejects, rfl⟩⟩
  | skipping subject skipper subjectExplained _ =>
    have explained := subjectExplained (skipper.sound_skip sound) failed
    exact explained.of_part fun _ => .behind
  | omitting subject subjectExplained =>
    have explained := subjectExplained sound (omitting_eq_error.1 failed)
    exact explained.of_part fun _ => .omitted
  | converting conversion subject subjectExplained =>
    have explained := subjectExplained sound (converting_eq_error.1 failed)
    exact explained.of_part fun _ => .converted
  | nothing => contradiction
  | restart => contradiction
  | both first second firstExplained secondExplained =>
    obtain failed | ⟨_, middle, success, failed⟩ := both_eq_error.1 failed
    · exact (firstExplained sound failed).of_part fun _ => .first
    · have explained := secondExplained (first.sound_of_parseAt sound success) failed
      exact explained.of_part fun _ => .second
  | either first second _ secondExplained =>
    have explained := secondExplained sound (either_eq_error.1 failed).2
    exact explained.of_part fun _ => .otherwise

variable {parser skipper : Parser kind} {postSkip : PostSkip}

/-- A run over a source explains why it fails. -/
theorem explained_of_parse (failed : (parser.parse source).result = .error error) :
    error.Explains parser source :=
  parser.explained_of_parseAt Cursor.sound_start (parse_eq_error.1 failed)

/-- A phrase explains why it fails by its parser alone. -/
theorem explained_of_phraseParse
    (failed : (parser.phraseParse skipper postSkip source).result = .error error) :
    error.Explains parser source :=
  parser.explained_of_parseAt (skipper.sound_skip Cursor.sound_start)
    (phraseParse_eq_error.1 failed)

/-- A success in front of the end leaves input over. -/
theorem leavesOver_of_atEnd {c : Cursor source} (sound : c.Sound) (more : c.atEnd = false) :
    (c.fail .trailingInput).LeavesOver source :=
  ⟨rfl, rfl, sound.position_lt (Bool.eq_false_iff.1 more)⟩

/-- A complete run explains why it fails, or leaves input over. -/
theorem explained_of_parseComplete (failed : (parser.parseComplete source).result = .error error) :
    error.Explains parser source ∨ error.LeavesOver source := by
  rw [result_parseComplete] at failed
  obtain failed | ⟨found, c, success, more, rfl⟩ := requireEnd_eq_error.1 failed
  · exact Or.inl (explained_of_parse failed)
  · exact Or.inr (leavesOver_of_atEnd (sound_of_parse success) more)

/-- A complete phrase explains why it fails, or leaves input over. -/
theorem explained_of_phraseParseComplete
    (failed : (parser.phraseParseComplete skipper postSkip source).result = .error error) :
    error.Explains parser source ∨ error.LeavesOver source := by
  rw [result_phraseParseComplete] at failed
  obtain failed | ⟨found, c, success, more, rfl⟩ := requireEnd_eq_error.1 failed
  · exact Or.inl (explained_of_phraseParse failed)
  · exact Or.inr (leavesOver_of_atEnd (sound_of_phraseParse success) more)

/-- Failures tell the truth about the source. From every place a parser explains why it fails: it
asked for a unit at the end of the source, or one of its matchers, none that belongs to a skipper,
rejects the unit at the position of the error, and the message says what was expected and found.
Nothing else comes out of a parser or a phrase. A complete run in addition fails in front of input
that is left over. -/
theorem failures_explained (parser skipper : Parser kind) (postSkip : PostSkip)
    (source : List (CodeUnit kind)) (error : ParseError kind) :
    (∀ position, parser.parseAt (.clamped source position) = .error error →
      error.Explains parser source) ∧
      ((parser.parse source).result = .error error → error.Explains parser source) ∧
      ((parser.phraseParse skipper postSkip source).result = .error error →
        error.Explains parser source) ∧
      ((parser.parseComplete source).result = .error error →
        error.Explains parser source ∨ error.LeavesOver source) ∧
      ((parser.phraseParseComplete skipper postSkip source).result = .error error →
        error.Explains parser source ∨ error.LeavesOver source) ∧
      (error.Explains parser source →
        error.cause = .noUnitAtEnd ∨ ∃ reason, error.cause = .refused reason) :=
  ⟨fun position => parser.explained_of_parseAt (Cursor.sound_clamped position),
    explained_of_parse, explained_of_phraseParse, explained_of_parseComplete,
    explained_of_phraseParseComplete, ParseError.Explains.cause_eq⟩

/-- Behind two blanks, where it comes although it starts between them, an alternative names the
matcher of its second parser. The blank that is skipped in front of it is not spoken of. -/
theorem failures_explained_letter :
    let blank : CodeUnit .octet := ⟨0x20, by decide⟩
    let letter : CodeUnit .octet := ⟨0x79, by decide⟩
    let source := [blank, blank, letter]
    let skipper := Parser.unit (.literal blank)
    let choice := Parser.either (.unit (.literal blank)) (.unit (.negated (.range blank letter)))
    let parser := Parser.both .restart (.skipping choice skipper)
    let error : ParseError .octet := ⟨.refused "expected not ' '..='y', found 'y'", source, 2⟩
    parser.parseAt (.clamped source 1) = .error error ∧ error.Explains parser source := by
  intro blank letter source skipper choice parser error
  have skipped : skipper.skip (.start source) = .clamped source 2 :=
    skip_unit (.literal blank) source 0
  have failed : parser.parseAt (.clamped source 1) = .error error := by
    refine both_eq_error.2 (Or.inr ⟨.omitted, .start source, rfl, ?_⟩)
    rw [parseAt_skipping, skipped]
    rfl
  exact ⟨failed, (failures_explained parser skipper .yes source error).1 1 failed⟩

end Parser

end Charwise
