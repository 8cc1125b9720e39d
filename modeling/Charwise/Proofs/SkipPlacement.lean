import Charwise.Proofs.Accounting

/-!
# Where the skipper runs

The input in front of a match is skipped by the driver of a phrase, or by the parser itself if it is
a skipping one. Both run the same loop from the same place, so a phrase is a parse of the skipping
parser, as long as the driver can count what was matched: if the match leads back in front of what
was skipped, the phrase panics and the parse succeeds (`Parser.skip_placement_iff_forward`). Where
the skipper is asked for twice, it rests the second time whatever it is made of
(`Parser.skip_skip`), and so the driver sees no difference, not even in what it records
(`Parser.phraseParse_skipping`).
-/

namespace Charwise.Parser

variable {kind : UnitKind} {source : List (CodeUnit kind)} {parser skipper : Parser kind}

/-- Behind what its skipper takes, a skipping parser is its subject. -/
theorem parseAt_skipping_skip (subject skipper : Parser kind) (c : Cursor source) :
    (skipping subject skipper).parseAt (skipper.skip c) = subject.parseAt (skipper.skip c) := by
  rw [parseAt_skipping, skip_skip]

/-- Skipping twice in front of a parser is skipping once. -/
theorem parseAt_skipping_skipping (subject skipper : Parser kind) (c : Cursor source) :
    (skipping (skipping subject skipper) skipper).parseAt c =
      (skipping subject skipper).parseAt c :=
  calc (skipping (skipping subject skipper) skipper).parseAt c
    _ = (skipping subject skipper).parseAt (skipper.skip c) := parseAt_skipping
    _ = subject.parseAt (skipper.skip c) := parseAt_skipping_skip subject skipper c
    _ = (skipping subject skipper).parseAt c := parseAt_skipping.symm

/-- Behind what is skipped over a source, the match of a parser leads back in front of it. -/
def LeadsBack (parser skipper : Parser kind) (source : List (CodeUnit kind)) : Prop :=
  ∃ found stop, ((skipping parser skipper).parse source).result = .ok (found, stop) ∧
    stop.position < (skipper.skip (.start source)).position

/-- A phrase panics exactly if the match of its parser leads back. -/
theorem phraseParse_eq_panicked_iff (postSkip : PostSkip) :
    (parser.phraseParse skipper postSkip source).result = .panicked ↔
      LeadsBack parser skipper source := by
  rw [phraseParse_eq_panicked]
  simp only [LeadsBack, parse_eq_ok, parseAt_skipping]

/-- Only a parser that goes back to the start outside its skippers leads back. -/
theorem not_leadsBack (forward : ¬ restart.PartOf .outsideSkippers parser) :
    ¬ LeadsBack parser skipper source :=
  mt (phraseParse_eq_panicked_iff .no).2 (phraseParse_ne_panicked forward)

/-- A phrase that skips nothing behind the match ends as the skipping parser does, if its match does
not lead back. -/
theorem result_phraseParse_no (forward : ¬ LeadsBack parser skipper source) :
    (parser.phraseParse skipper .no source).result =
      ((skipping parser skipper).parse source).result := by
  rw [result_phraseParse, result_parse, parseAt_skipping]
  cases ran : parser.parseAt (skipper.skip (.start source)) with
  | error error => rfl
  | ok success =>
    obtain ⟨found, stop⟩ := success
    have ahead : ¬ stop.position < (skipper.skip (.start source)).position := fun back =>
      forward ⟨found, stop, parse_eq_ok.2 (parseAt_skipping.trans ran), back⟩
    exact if_neg ahead

/-- For a phrase with the same skipper, a skipping parser is its subject: the results are the same
and so are the records. -/
theorem phraseParse_skipping (parser skipper : Parser kind) (postSkip : PostSkip)
    (source : List (CodeUnit kind)) :
    (skipping parser skipper).phraseParse skipper postSkip source =
      parser.phraseParse skipper postSkip source := by
  unfold phraseParse
  dsimp only
  rw [parseAt_skipping_skip]

/-- Whether the driver or the parser skips the input in front of a match, for every parser and every
skipper. A phrase that skips nothing behind the match ends as the skipping parser does, also if the
whole source is to be consumed, unless the match leads back in front of what was skipped: then the
skipping parser succeeds with it and the phrase panics. Only parsers that go back to the start
outside their skippers can do this. Nothing else makes a difference. A phrase of the skipping parser
is the phrase of its subject, in all that it returns and records. From every place, a parser that
skips twice with the same skipper does the same as one that skips once. -/
theorem skip_placement_iff_forward (parser skipper : Parser kind)
    (source : List (CodeUnit kind)) :
    let skipped := skipping parser skipper
    let phrase := parser.phraseParse skipper .no source
    let whole := parser.phraseParseComplete skipper .no source
    (phrase.result = (skipped.parse source).result ↔ ¬ LeadsBack parser skipper source) ∧
      (whole.result = (skipped.parseComplete source).result ↔
        ¬ LeadsBack parser skipper source) ∧
      (LeadsBack parser skipper source → phrase.result = .panicked ∧ whole.result = .panicked) ∧
      (¬ restart.PartOf .outsideSkippers parser → ¬ LeadsBack parser skipper source) ∧
      (∀ postSkip, skipped.phraseParse skipper postSkip source =
        parser.phraseParse skipper postSkip source) ∧
      (∀ postSkip, skipped.phraseParseComplete skipper postSkip source =
        parser.phraseParseComplete skipper postSkip source) ∧
      ∀ c : Cursor source, (skipping skipped skipper).parseAt c = skipped.parseAt c := by
  intro skipped phrase whole
  have panics (back : LeadsBack parser skipper source) :
      phrase.result = .panicked ∧ whole.result = .panicked := by
    have panicked : phrase.result = .panicked := (phraseParse_eq_panicked_iff .no).2 back
    exact ⟨panicked, phraseParseComplete_eq_panicked.2 panicked⟩
  have phrases : ∀ postSkip, skipped.phraseParse skipper postSkip source =
      parser.phraseParse skipper postSkip source :=
    fun postSkip => phraseParse_skipping parser skipper postSkip source
  refine ⟨⟨fun same back => ?_, result_phraseParse_no⟩, ⟨fun same back => ?_, fun forward => ?_⟩,
    panics, not_leadsBack, phrases, fun postSkip => congrArg Traced.complete (phrases postSkip),
    parseAt_skipping_skipping parser skipper⟩
  · exact parse_ne_panicked (same.symm.trans (panics back).1)
  · exact parseComplete_ne_panicked (same.symm.trans (panics back).2)
  · change (parser.phraseParseComplete skipper .no source).result = _
    rw [result_phraseParseComplete, result_parseComplete, result_phraseParse_no forward]

/-- Behind two blanks that are skipped, the parser that goes back to the start succeeds in front of
them if it skips them itself. If the driver does, the phrase panics. -/
theorem skip_placement_restart :
    let blank : CodeUnit .octet := ⟨0x20, by decide⟩
    let letter : CodeUnit .octet := ⟨0x78, by decide⟩
    let source := [blank, blank, letter]
    let skipper := Parser.unit (.literal blank)
    ((skipping restart skipper).parse source).result = .ok (.omitted, .start source) ∧
      (restart.phraseParse skipper .no source).result = .panicked := by
  intro blank letter source skipper
  have skipped : skipper.skip (.start source) = .clamped source 2 :=
    skip_unit (.literal blank) source 0
  have success : ((skipping restart skipper).parse source).result = .ok (.omitted, .start source) :=
    parse_eq_ok.2 parseAt_skipping
  have back : (Cursor.start source).position < (skipper.skip (.start source)).position := by
    rw [skipped]
    decide
  exact ⟨success, (phraseParse_eq_panicked_iff .no).2 ⟨_, _, success, back⟩⟩

end Charwise.Parser
