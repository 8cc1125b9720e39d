import Charwise.Proofs.Equivalence

/-!
# Congruence

Parsers may be replaced by equivalent ones wherever they stand: in the subjects and skippers of a
larger parser, nested to any depth, and in the parser and the skipper that a driver runs. A parser
with holes in it is a context. The replacement is not seen in the places and the variants of errors,
and if the parts are indistinguishable it is not seen in the attributes (`Parser.fill_congruence`).
-/

namespace Charwise

variable {kind : UnitKind} {source : List (CodeUnit kind)}
variable {attributes : Attribute kind → Attribute kind → Prop}

/-- A parser with holes that are all filled by the same part. -/
inductive Context (kind : UnitKind) where
  /-- The place of the part. -/
  | hole
  /-- A parser without holes. -/
  | closed (parser : Parser kind)
  /-- Skipping, with holes in the subject and in the skipper. -/
  | skipping (subject skipper : Context kind)
  /-- Omitting, with holes in the subject. -/
  | omitting (subject : Context kind)
  /-- Converting, with holes in the subject. -/
  | converting (conversion : Conversion kind) (subject : Context kind)
  /-- Two parsers in turn, with holes in each. -/
  | both (first second : Context kind)
  /-- An alternative, with holes in each of its parsers. -/
  | either (first second : Context kind)

/-- The parser that a context is with a part in its holes. -/
def Context.fill (part : Parser kind) : Context kind → Parser kind
  | hole => part
  | closed parser => parser
  | skipping subject skipper => .skipping (subject.fill part) (skipper.fill part)
  | omitting subject => .omitting (subject.fill part)
  | converting conversion subject => .converting conversion (subject.fill part)
  | both first second => .both (first.fill part) (second.fill part)
  | either first second => .either (first.fill part) (second.fill part)

/-- Contexts keep equivalence: filled with equivalent parts, they are equivalent. -/
theorem Parser.EquivalentUpTo.fill {part other : Parser kind} (kept : Attribute.Kept attributes)
    (equivalent : EquivalentUpTo attributes part other) (context : Context kind) :
    EquivalentUpTo attributes (context.fill part) (context.fill other) := by
  rw [equivalentUpTo_iff_simulates kept] at equivalent ⊢
  intro source
  induction context with
  | hole => exact equivalent source
  | closed parser => exact (equivalentUpTo_iff_simulates kept).1 (.refl kept parser) source
  | skipping _ _ subjects skippers => exact subjects.skipping skippers
  | omitting _ subjects => exact subjects.omitting
  | converting conversion _ subjects => exact subjects.converting (kept.apply conversion)
  | both _ _ firsts seconds => exact firsts.both seconds
  | either _ _ firsts seconds => exact firsts.either seconds

namespace Parser

variable {p q skipper otherSkipper : Parser kind}

/-- The runs of two parsers agree, each with its own skipper, if all four drivers lead to the same
place or to errors that are alike, and panic only together. -/
structure RunsAgree (attributes : Attribute kind → Attribute kind → Prop)
    (p skipper q otherSkipper : Parser kind) (source : List (CodeUnit kind)) : Prop where
  /-- The runs agree over the source from its start. -/
  parse : RunOutcome.AgreeUpTo attributes (p.parse source).result (q.parse source).result
  /-- The runs agree over the whole of the source. -/
  parseComplete : Agree attributes (p.parseComplete source).result (q.parseComplete source).result
  /-- The runs agree behind the skipped input. -/
  phraseParse : ∀ postSkip, RunOutcome.AgreeUpTo attributes
    (p.phraseParse skipper postSkip source).result
    (q.phraseParse otherSkipper postSkip source).result
  /-- The runs agree over the whole of the source with the skipped input around the match. -/
  phraseParseComplete : ∀ postSkip, Agree attributes
    (p.phraseParseComplete skipper postSkip source).result
    (q.phraseParseComplete otherSkipper postSkip source).result

/-- The runs of equivalent parsers with equivalent skippers agree. -/
theorem EquivalentUpTo.runsAgree (kept : Attribute.Kept attributes)
    (equivalent : EquivalentUpTo attributes p q)
    (skippers : EquivalentUpTo attributes skipper otherSkipper) (source : List (CodeUnit kind)) :
    RunsAgree attributes p skipper q otherSkipper source := by
  have simulates := (equivalentUpTo_iff_simulates kept).1 equivalent source
  have simulatesSkipper := (equivalentUpTo_iff_simulates kept).1 skippers source
  have runs : (Comparison.itself kept source).Runs p skipper q otherSkipper := by
    refine simulates.runs simulatesSkipper ⟨rfl, Cursor.sound_start⟩ ?_
    rintro c _ ⟨rfl, _⟩
    exact .refl _
  constructor
  · exact runs.parse.agreeUpTo
  · exact runs.parseComplete
  · exact fun postSkip => (runs.phraseParse postSkip).agreeUpTo
  · exact runs.phraseParseComplete

/-- The runs of contexts that are filled with equivalent parts agree. -/
theorem EquivalentUpTo.fill_runsAgree {part other : Parser kind}
    (kept : Attribute.Kept attributes) (equivalent : EquivalentUpTo attributes part other)
    (context skipper : Context kind) (source : List (CodeUnit kind)) :
    RunsAgree attributes (context.fill part) (skipper.fill part) (context.fill other)
      (skipper.fill other) source := by
  have parsers := equivalent.fill kept context
  have skippers := equivalent.fill kept skipper
  exact parsers.runsAgree kept skippers source

/-- Parsers may be replaced by equivalent ones in every context: the filled contexts are equivalent,
and so are the runs of all drivers, whose skippers may be filled contexts as well. Indistinguishable
parsers are in addition not seen in the attributes. A matcher is indistinguishable from each one
that accepts the same units, and so from itself below two negations, whether these are stacked or
cancel, and it is equivalent to itself without its attribute. -/
theorem fill_congruence (kind : UnitKind) :
    (∀ part other : Parser kind, Equivalent part other → ∀ context : Context kind,
      Equivalent (context.fill part) (context.fill other) ∧
        ∀ (skipper : Context kind) (source : List (CodeUnit kind)),
          RunsAgree (fun _ _ => True) (context.fill part) (skipper.fill part)
            (context.fill other) (skipper.fill other) source) ∧
      (∀ part other : Parser kind, Indistinguishable part other → ∀ context : Context kind,
        Indistinguishable (context.fill part) (context.fill other) ∧
          ∀ (skipper : Context kind) (source : List (CodeUnit kind)),
            RunsAgree (fun a b => a = b) (context.fill part) (skipper.fill part)
              (context.fill other) (skipper.fill other) source) ∧
      (∀ p q : Matcher kind, (∀ one, p.test one = q.test one) →
        Indistinguishable (unit p) (unit q)) ∧
      ∀ p : Matcher kind,
        Equivalent (unit p) (omitting (unit p)) ∧
          Indistinguishable (unit p) (unit (.negated (.negated p))) ∧
          Indistinguishable (unit p) (unit p.negate.negate) := by
  refine ⟨fun part other equivalent context => ⟨?_, ?_⟩,
    fun part other equivalent context => ⟨?_, ?_⟩, fun p q => indistinguishable_unit,
    fun p => ⟨equivalent_omitting _, ?_, ?_⟩⟩
  · exact EquivalentUpTo.fill Attribute.kept_all equivalent context
  · exact EquivalentUpTo.fill_runsAgree Attribute.kept_all equivalent context
  · exact EquivalentUpTo.fill Attribute.kept_eq equivalent context
  · exact EquivalentUpTo.fill_runsAgree Attribute.kept_eq equivalent context
  · apply indistinguishable_unit
    intro one
    simp [Matcher.test]
  · apply indistinguishable_unit
    intro one
    simp [Matcher.test_negate]

/-- A blank and the range from blank to blank can replace each other, here as the skipper of a
larger parser, in the runs of all drivers. -/
theorem fill_congruence_blank :
    let blank : CodeUnit .octet := ⟨0x20, by decide⟩
    let one := Parser.unit (.literal blank)
    let other := Parser.unit (.range blank blank)
    Indistinguishable one other ∧
      Indistinguishable (skipping (unit .any) one) (skipping (unit .any) other) ∧
      ∀ source, RunsAgree (fun _ _ => True) (skipping (unit .any) one) one
        (skipping (unit .any) (omitting one)) (omitting one) source := by
  intro blank one other
  obtain ⟨ignored, compared, matchers, alone⟩ := fill_congruence .octet
  have same : Indistinguishable one other := by
    apply matchers
    intro found
    rw [Bool.eq_iff_iff]
    simp only [Matcher.test, CodeUnit.le_iff_code, beq_iff_eq, decide_eq_true_eq]
    constructor
    · rintro rfl
      exact ⟨Nat.le_refl _, Nat.le_refl _⟩
    · rintro ⟨least, most⟩
      exact CodeUnit.ext_code (Nat.le_antisymm most least)
  let context : Context .octet := .skipping (.closed (unit .any)) .hole
  exact ⟨same, (compared one other same context).1,
    (ignored one (omitting one) (alone _).1 context).2 .hole⟩

end Parser

end Charwise
