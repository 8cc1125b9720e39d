import Charwise.Proofs.Accounting

/-!
# Matches that go back

The amount that a phrase records for its match is the distance from the place behind the leading
skip to the place where the match stops. It is the only amount of a run that may not exist. Skippers
never lead back and no run leaves its source, so what is skipped and what is left over can always be
counted. But a parser may go back to the start, and if that is in front of the place where the match
began, the subtraction underflows and the phrase panics, in place of the success that its parser has
found (`Parser.panics_iff_back`).
-/

namespace Charwise

variable {kind : UnitKind} {source : List (CodeUnit kind)}

namespace Parser

variable {parser skipper : Parser kind} {postSkip : PostSkip}

/-- A phrase that panics has recorded how far the skipper leads, and nothing else. The skipper has
taken something there, and the parser is one that goes back to the start outside its skippers. -/
theorem records_phraseParse_of_panicked
    (panicked : (parser.phraseParse skipper postSkip source).result = .panicked) :
    (parser.phraseParse skipper postSkip source).records =
        [.counting "skipped leading input" "skipped" (skipper.skip (.start source)).position] ∧
      0 < (skipper.skip (.start source)).position ∧ restart.PartOf .outsideSkippers parser := by
  obtain ⟨found, stop, matched, back⟩ := phraseParse_eq_panicked.1 panicked
  refine ⟨?_, Nat.zero_lt_of_lt back, ?_⟩
  · rw [phraseParse_of_lt matched back]
    rfl
  · by_contra forward
    exact phraseParse_ne_panicked forward panicked

/-- When the amounts of a run cannot be counted, for every parser and every skipper. A phrase panics
if its parser succeeds in front of the place where it started, and only then, and a complete phrase
with it. It has recorded by then what was skipped in front of the match. This takes a parser that
goes back to the start outside its skippers, and something that was skipped. If the match does not
lead back, the phrase succeeds with it, and the amounts of the match and of what is skipped are
exact. So is what a complete phrase records in addition, if input is left over. A run without a
skipper never panics. -/
theorem panics_iff_back (parser skipper : Parser kind) (postSkip : PostSkip)
    (source : List (CodeUnit kind)) :
    let first := skipper.skip (.start source)
    let leading := TraceRecord.counting "skipped leading input" "skipped" first.position
    let phrase := parser.phraseParse skipper postSkip source
    let whole := parser.phraseParseComplete skipper postSkip source
    (phrase.result = .panicked ↔ ∃ found stop, parser.parseAt first = .ok (found, stop) ∧
        stop.position < first.position) ∧
      (whole.result = .panicked ↔ phrase.result = .panicked) ∧
      (phrase.result = .panicked → phrase.records = [leading] ∧ whole.records = [leading] ∧
        0 < first.position ∧ restart.PartOf .outsideSkippers parser) ∧
      (∀ found stop, parser.parseAt first = .ok (found, stop) →
        first.position ≤ stop.position →
        let last := postSkip.finish skipper stop
        phrase.result = .ok (found, last) ∧
          PhraseRecords first.position stop.position last.position postSkip phrase.records) ∧
      phrase.CompletedBy whole ∧
      (parser.parse source).result ≠ .panicked ∧
      (parser.parseComplete source).result ≠ .panicked := by
  intro first leading phrase whole
  refine ⟨phraseParse_eq_panicked, phraseParseComplete_eq_panicked, fun panicked => ?_,
    fun found stop matched forward => ⟨?_, phraseRecords_of_le matched forward⟩,
    completedBy_phraseParseComplete parser skipper postSkip source, parse_ne_panicked,
    parseComplete_ne_panicked⟩
  · obtain ⟨recorded, skips, goesBack⟩ := records_phraseParse_of_panicked panicked
    have same : whole = ⟨phrase.events, .panicked⟩ := Traced.complete_of_panicked panicked
    exact ⟨recorded, by rw [same]; exact recorded, skips, goesBack⟩
  · exact phraseParse_eq_ok.2 ⟨stop, matched, forward, rfl⟩

/-- A parser that takes a letter behind two blanks and then goes back to the start, in front of the
blanks. The phrase panics, whether or not the whole source is to be consumed, and all that it has
recorded are the two blanks. -/
theorem panics_iff_back_letter :
    let blank : CodeUnit .octet := ⟨0x20, by decide⟩
    let letter : CodeUnit .octet := ⟨0x78, by decide⟩
    let source := [blank, blank, letter]
    let skipper := Parser.unit (.literal blank)
    let parser := Parser.both (.unit .any) .restart
    let whole := parser.phraseParseComplete skipper .yes source
    parser.parseAt (skipper.skip (.start source)) = .ok (.omitted, .start source) ∧
      whole.result = .panicked ∧
      whole.records = [.counting "skipped leading input" "skipped" 2] := by
  intro blank letter source skipper parser whole
  have skipped : skipper.skip (.start source) = .clamped source 2 :=
    skip_unit (.literal blank) source 0
  have matched : parser.parseAt (skipper.skip (.start source)) = .ok (.omitted, .start source) := by
    rw [skipped]
    rfl
  have back : (Cursor.start source).position < (skipper.skip (.start source)).position := by
    rw [skipped]
    decide
  obtain ⟨panics, completed, broken, _⟩ := panics_iff_back parser skipper .yes source
  have panicked := panics.2 ⟨_, _, matched, back⟩
  obtain ⟨_, recorded, _, _⟩ := broken panicked
  rw [skipped] at recorded
  exact ⟨matched, completed.2 panicked, recorded⟩

/-- The parser that goes back to the start succeeds behind two blanks that were skipped, and stops
in front of them. There is no number of units that it has consumed, and the phrase panics. -/
theorem panics_restart :
    let blank : CodeUnit .octet := ⟨0x20, by decide⟩
    let letter : CodeUnit .octet := ⟨0x78, by decide⟩
    let source := [blank, blank, letter]
    let skipper := Parser.unit (.literal blank)
    let first := skipper.skip (.start source)
    ∃ stop, restart.parseAt first = .ok (.omitted, stop) ∧ stop.position < first.position ∧
      ∀ postSkip, (restart.phraseParse skipper postSkip source).result = .panicked := by
  intro blank letter source skipper first
  have skipped : first = .clamped source 2 := skip_unit (.literal blank) source 0
  have matched : restart.parseAt first = .ok (.omitted, .start source) := rfl
  have back : (Cursor.start source).position < first.position := by
    rw [skipped]
    decide
  exact ⟨.start source, matched, back, fun _ => phraseParse_eq_panicked.2 ⟨_, _, matched, back⟩⟩

end Parser

end Charwise
