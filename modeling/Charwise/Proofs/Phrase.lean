import Charwise.Proofs.Drivers
import Charwise.Proofs.LeadingRun
import Mathlib.Computability.Language

/-!
# Phrases of single units

A phrase of two matchers is decided by the first unit that is not skipped. The sources that are a
phrase as a whole form a regular language: units that are skipped, one unit that is wanted and not
skipped, and if asked for more units that are skipped (`phraseParse_unit`).
-/

namespace Charwise

open Computability

variable {kind : UnitKind} {source : List (CodeUnit kind)} {wanted skipped : Matcher kind}

/-- The words of one unit that a matcher accepts. -/
def Matcher.language (matcher : Matcher kind) : Language (CodeUnit kind) :=
  {word | ∃ unit, matcher.test unit = true ∧ word = [unit]}

/-- The sources that are a phrase as a whole. -/
def phraseLanguage (wanted skipped : Matcher kind) : PostSkip → Language (CodeUnit kind)
  | .yes => skipped.language∗ * (wanted.language - skipped.language) * skipped.language∗
  | .no => skipped.language∗ * (wanted.language - skipped.language)

/-- The position where a phrase stops: behind the skipped units and one more, and if asked for
behind the skipped units that follow. -/
def phraseStop (skipped : Matcher kind) : PostSkip → List (CodeUnit kind) → Nat
  | .yes, source =>
    skipped.leading source + 1 + skipped.leading (source.drop (skipped.leading source + 1))
  | .no, source => skipped.leading source + 1

/-- The words over the units that a matcher accepts. -/
theorem Matcher.mem_star_language {matcher : Matcher kind} {word : List (CodeUnit kind)} :
    word ∈ matcher.language∗ ↔ ∀ unit ∈ word, matcher.test unit = true := by
  constructor
  · rintro ⟨words, rfl, single⟩ unit member
    obtain ⟨word, listed, member⟩ := List.mem_flatten.1 member
    obtain ⟨accepted, test, rfl⟩ := single word listed
    rw [List.mem_singleton] at member
    exact member ▸ test
  · intro accepted
    refine ⟨word.map fun unit => [unit], by simp [← List.flatMap_def], fun one listed => ?_⟩
    obtain ⟨unit, member, rfl⟩ := List.mem_map.1 listed
    exact ⟨unit, accepted unit member, rfl⟩

/-- The words of one unit that one matcher accepts and another one does not. -/
theorem Matcher.mem_language_sub {word : List (CodeUnit kind)} :
    word ∈ wanted.language - skipped.language ↔
      ∃ unit, wanted.test unit = true ∧ skipped.test unit = false ∧ word = [unit] := by
  rw [Language.mem_sub]
  constructor
  · rintro ⟨⟨unit, accepted, rfl⟩, notSkipped⟩
    refine ⟨unit, accepted, Bool.eq_false_iff.2 fun test => notSkipped ⟨unit, test, rfl⟩, rfl⟩
  · rintro ⟨unit, accepted, refused, rfl⟩
    refine ⟨⟨unit, accepted, rfl⟩, ?_⟩
    rintro ⟨other, test, same⟩
    cases same
    rw [refused] at test
    contradiction

/-- A whole phrase is skipped units in front of one that is wanted and not skipped, with skipped
units behind it only if asked for. -/
theorem mem_phraseLanguage {postSkip : PostSkip} :
    source ∈ phraseLanguage wanted skipped postSkip ↔
      ∃ front unit back, source = front ++ unit :: back ∧
        (∀ unit ∈ front, skipped.test unit = true) ∧
        wanted.test unit = true ∧ skipped.test unit = false ∧
        (∀ unit ∈ back, skipped.test unit = true) ∧ (postSkip = .no → back = []) := by
  cases postSkip with
  | yes =>
    constructor
    · rintro ⟨_, ⟨front, skippedFront, one, single, rfl⟩, back, skippedBack, rfl⟩
      obtain ⟨unit, accepted, refused, rfl⟩ := Matcher.mem_language_sub.1 single
      exact ⟨front, unit, back, by simp, Matcher.mem_star_language.1 skippedFront, accepted,
        refused, Matcher.mem_star_language.1 skippedBack, by simp⟩
    · rintro ⟨front, unit, back, rfl, skippedFront, accepted, refused, skippedBack, _⟩
      have single := Matcher.mem_language_sub.2 ⟨unit, accepted, refused, rfl⟩
      have both := Language.append_mem_mul (Language.append_mem_mul
        (Matcher.mem_star_language.2 skippedFront) single) (Matcher.mem_star_language.2 skippedBack)
      simpa [phraseLanguage] using both
  | no =>
    constructor
    · rintro ⟨front, skippedFront, one, single, rfl⟩
      obtain ⟨unit, accepted, refused, rfl⟩ := Matcher.mem_language_sub.1 single
      exact ⟨front, unit, [], by simp, Matcher.mem_star_language.1 skippedFront, accepted, refused,
        by simp, by simp⟩
    · rintro ⟨front, unit, back, rfl, skippedFront, accepted, refused, _, none⟩
      rw [none rfl]
      exact Language.append_mem_mul (Matcher.mem_star_language.2 skippedFront)
        (Matcher.mem_language_sub.2 ⟨unit, accepted, refused, rfl⟩)

/-- A source is a whole phrase exactly if the first unit that is not skipped is wanted and the
phrase stops at the end. -/
theorem mem_phraseLanguage_iff_stop {postSkip : PostSkip} :
    source ∈ phraseLanguage wanted skipped postSkip ↔
      ∃ unit, source[skipped.leading source]? = some unit ∧ wanted.test unit = true ∧
        phraseStop skipped postSkip source = source.length := by
  rw [mem_phraseLanguage]
  constructor
  · rintro ⟨front, unit, back, rfl, skippedFront, accepted, refused, skippedBack, none⟩
    have lead := Matcher.leading_append skippedFront refused back
    have behind : (front ++ unit :: back).drop (front.length + 1) = back := by simp
    refine ⟨unit, by simp [lead], accepted, ?_⟩
    cases postSkip with
    | yes =>
      rw [phraseStop, lead, behind, Matcher.leading_eq_length_iff.2 skippedBack]
      simp only [List.length_append, List.length_cons]
      omega
    | no =>
      rw [phraseStop, lead, none rfl]
      simp
  · rintro ⟨unit, present, accepted, stop⟩
    obtain ⟨inside, same⟩ := List.getElem?_eq_some_iff.1 present
    refine ⟨source.take (skipped.leading source), unit,
      source.drop (skipped.leading source + 1), ?_, fun _ => Matcher.test_of_mem_take, accepted,
      Matcher.test_of_leading present, ?_, ?_⟩
    · rw [← same, ← List.drop_eq_getElem_cons inside, List.take_append_drop]
    · cases postSkip with
      | yes =>
        apply Matcher.leading_eq_length_iff.1
        rw [phraseStop] at stop
        rw [List.length_drop]
        omega
      | no =>
        rw [phraseStop] at stop
        simp [stop]
    · rintro rfl
      rw [phraseStop] at stop
      simp [stop]

/-- A phrase of units stops in the source. -/
theorem phraseStop_le {postSkip : PostSkip} (inside : skipped.leading source < source.length) :
    phraseStop skipped postSkip source ≤ source.length := by
  cases postSkip with
  | yes =>
    have rest := skipped.leading_le (source.drop (skipped.leading source + 1))
    rw [List.length_drop] at rest
    rw [phraseStop]
    omega
  | no => exact inside

/-- The skipper of a phrase stops in front of the first unit that it does not accept. -/
theorem skip_unit_start (skipped : Matcher kind) (source : List (CodeUnit kind)) :
    (Parser.unit skipped).skip (.start source) = .clamped source (skipped.leading source) := by
  have skips := Parser.skip_unit skipped source 0
  rw [List.drop_zero, Nat.zero_add] at skips
  exact skips

/-- A match of one unit is moved on to where the phrase stops. -/
theorem finish_unit (skipped : Matcher kind) (postSkip : PostSkip)
    (source : List (CodeUnit kind)) :
    postSkip.finish (.unit skipped) (.clamped source (skipped.leading source + 1)) =
      .clamped source (phraseStop skipped postSkip source) := by
  cases postSkip with
  | yes => exact Parser.skip_unit skipped source _
  | no => rfl

/-- A phrase is the match of the first unit that is not skipped, moved on to where it stops. -/
theorem result_phraseParse_unit (wanted skipped : Matcher kind) (postSkip : PostSkip)
    (source : List (CodeUnit kind)) :
    ((Parser.unit wanted).phraseParse (.unit skipped) postSkip source).result =
      match source[skipped.leading source]? with
      | some unit =>
        if wanted.test unit = true then
          .ok (.unit unit, .clamped source (phraseStop skipped postSkip source))
        else .error ⟨.refused ("expected " ++ wanted.text ++ ", found " ++ unit.describe), source,
          skipped.leading source⟩
      | none => .error ⟨.noUnitAtEnd, source, source.length⟩ := by
  rw [Parser.result_phraseParse, skip_unit_start, Parser.parseAt_unit]
  cases present : source[skipped.leading source]? with
  | none => rw [wanted.parse_clamped_of_le (List.getElem?_eq_none_iff.1 present)]
  | some unit =>
    have inside : skipped.leading source < source.length :=
      (List.getElem?_eq_some_iff.1 present).1
    rw [wanted.parse_clamped present]
    by_cases accepted : wanted.test unit = true
    · have forward : ¬ (Cursor.clamped source (skipped.leading source + 1)).position <
          (Cursor.clamped source (skipped.leading source)).position := by
        rw [Cursor.position_clamped, Cursor.position_clamped]
        omega
      simp only [accepted, if_true]
      rw [if_neg forward, finish_unit]
    · simp [accepted, Matcher.refusal]

/-- A complete phrase succeeds on the sources that are a phrase as a whole, and on no others. -/
theorem exists_ok_phraseParseComplete_unit (wanted skipped : Matcher kind) (postSkip : PostSkip)
    (source : List (CodeUnit kind)) :
    (∃ found,
        ((Parser.unit wanted).phraseParseComplete (.unit skipped) postSkip source).result =
          .ok found) ↔
      source ∈ phraseLanguage wanted skipped postSkip := by
  rw [mem_phraseLanguage_iff_stop, Parser.result_phraseParseComplete, result_phraseParse_unit]
  cases present : source[skipped.leading source]? with
  | none => simp [requireEnd]
  | some unit =>
    have stop_le : phraseStop skipped postSkip source ≤ source.length :=
      phraseStop_le (List.getElem?_eq_some_iff.1 present).1
    by_cases accepted : wanted.test unit = true
    · dsimp only
      rw [if_pos accepted, requireEnd_clamped]
      by_cases all : source.length ≤ phraseStop skipped postSkip source
      · simp [accepted, Nat.le_antisymm stop_le all]
      · have short : phraseStop skipped postSkip source ≠ source.length := by omega
        simp [all, short]
    · simp [accepted, requireEnd]

/-- A phrase of two matchers. Let `lead` be the number of units that are skipped at the front. If
these are all, the phrase fails at the end of the source. Otherwise the unit behind them decides: if
it is not wanted, the phrase fails there, and if it is, the phrase reports it and stops behind it,
or if asked for behind the skipped units that follow. A complete phrase returns the same, and fails
in addition where units are left over: it succeeds on the sources of a regular language. -/
theorem phraseParse_unit (wanted skipped : Matcher kind) (postSkip : PostSkip)
    (source : List (CodeUnit kind)) :
    let lead := skipped.leading source
    let stop := phraseStop skipped postSkip source
    let phrase := ((Parser.unit wanted).phraseParse (.unit skipped) postSkip source).result
    let whole := ((Parser.unit wanted).phraseParseComplete (.unit skipped) postSkip source).result
    lead ≤ source.length ∧
      (lead = source.length →
        phrase = .error ⟨.noUnitAtEnd, source, source.length⟩ ∧
          whole = .error ⟨.noUnitAtEnd, source, source.length⟩) ∧
      (∀ unit, source[lead]? = some unit → wanted.test unit = false →
        let refusal := "expected " ++ wanted.text ++ ", found " ++ unit.describe
        phrase = .error ⟨.refused refusal, source, lead⟩ ∧
          whole = .error ⟨.refused refusal, source, lead⟩) ∧
      (∀ unit, source[lead]? = some unit → wanted.test unit = true →
        phrase = .ok (.unit unit, .clamped source stop) ∧ stop ≤ source.length ∧
          (stop = source.length → whole = .ok (.unit unit)) ∧
          (stop < source.length → whole = .error ⟨.trailingInput, source, stop⟩)) ∧
      ((∃ found, whole = .ok found) ↔ source ∈ phraseLanguage wanted skipped postSkip) := by
  intro lead stop phrase whole
  have ran := result_phraseParse_unit wanted skipped postSkip source
  have held : whole = requireEnd phrase := Parser.result_phraseParseComplete ..
  refine ⟨skipped.leading_le source, ?_, ?_, ?_, ?_⟩
  · intro none
    have failed : phrase = .error ⟨.noUnitAtEnd, source, source.length⟩ := by
      rw [List.getElem?_eq_none (Nat.le_of_eq none.symm)] at ran
      exact ran
    exact ⟨failed, by rw [held, failed]; rfl⟩
  · intro unit present refused refusal
    have failed : phrase = .error ⟨.refused refusal, source, lead⟩ := by
      rw [present] at ran
      simpa [refused] using ran
    exact ⟨failed, by rw [held, failed]; rfl⟩
  · intro unit present accepted
    have success : phrase = .ok (.unit unit, .clamped source stop) := by
      rw [present] at ran
      simpa [accepted] using ran
    have inside : lead < source.length := (List.getElem?_eq_some_iff.1 present).1
    rw [held, success, requireEnd_clamped]
    refine ⟨rfl, phraseStop_le inside, fun all => ?_, fun some => ?_⟩
    · exact if_pos (Nat.le_of_eq all.symm)
    · exact if_neg (Nat.not_le_of_lt some)
  · exact exists_ok_phraseParseComplete_unit wanted skipped postSkip source

/-- A letter between blanks is a phrase, and the whole source is one if the blanks behind the letter
are skipped as well. If a digit is wanted in its place, the phrase fails at the letter and names
both. -/
theorem phraseParse_unit_blanks :
    let blank : CodeUnit .octet := ⟨0x20, by decide⟩
    let letter : CodeUnit .octet := ⟨0x78, by decide⟩
    let digit : CodeUnit .octet := ⟨0x37, by decide⟩
    let source := [blank, blank, letter, blank]
    let skipped := Parser.unit (.literal blank)
    ((Parser.unit .any).phraseParse skipped .yes source).result =
        .ok (.unit letter, .clamped source 4) ∧
      ((Parser.unit .any).phraseParseComplete skipped .yes source).result = .ok (.unit letter) ∧
      ((Parser.unit .any).phraseParseComplete skipped .no source).result =
        .error ⟨.trailingInput, source, 3⟩ ∧
      ((Parser.unit (.literal digit)).phraseParse skipped .yes source).result =
        .error ⟨.refused "expected '7', found 'x'", source, 2⟩ := by
  intro blank letter digit source skipped
  have behind := (phraseParse_unit .any (.literal blank) .yes source).2.2.2.1 letter rfl rfl
  have short := (phraseParse_unit .any (.literal blank) .no source).2.2.2.1 letter rfl rfl
  have refused :=
    (phraseParse_unit (.literal digit) (.literal blank) .yes source).2.2.1 letter rfl rfl
  exact ⟨behind.1, behind.2.2.1 rfl, short.2.2.2 (by decide), refused.1⟩

end Charwise
