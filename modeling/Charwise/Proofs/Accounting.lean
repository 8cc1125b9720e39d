import Charwise.Proofs.Diagnostics
import Mathlib.Algebra.Ring.Nat

/-!
# The amounts in a trace

The amounts that a run records add up to the position where it stops (`Parser.total_phraseParse`),
and with the amount that is left over to the length of the source
(`Parser.completedBy_phraseParseComplete`). Amounts are distances between places, and a run that has
one to record that leads back panics. Skippers never lead back, whatever they are made of, and a
parser does not unless it goes back to the start outside its skippers; so the phrases of all other
parsers account for their source without panicking (`Parser.records_account`).
-/

namespace Charwise

variable {kind : UnitKind} {source : List (CodeUnit kind)}
variable {found : Attribute kind} {c last : Cursor source} {error : ParseError kind}

/-- The number that a value counts; a text counts nothing. -/
def TraceValue.amount : TraceValue → Nat
  | count value => value
  | text _ => 0

/-- The number that the fields of a record count together. -/
def TraceRecord.amount (record : TraceRecord) : Nat :=
  (record.fields.map fun field => field.2.amount).sum

/-- A record of a number of units, under a message and with the number as its only field. -/
def TraceRecord.counting (message field : String) (units : Nat) : TraceRecord :=
  ⟨.trace, message, [(field, .count units)]⟩

/-- The amount of a record of a number of units is that number. -/
theorem TraceRecord.amount_counting (message field : String) (units : Nat) :
    (counting message field units).amount = units := by
  simp [amount, counting, TraceValue.amount]

/-- The records of a phrase that leads to the positions `first` behind the leading skip, `stop`
behind the match, and `last`. Each record tells how far it is to the next position. -/
inductive PhraseRecords (first : Nat) : Nat → Nat → PostSkip → List TraceRecord → Prop where
  /-- The phrase stops behind the match. -/
  | no {stop consumed : Nat} (matched : first + consumed = stop) :
    PhraseRecords first stop stop .no [.counting "skipped leading input" "skipped" first,
      .counting "phrase parse matched" "consumed" consumed]
  /-- The phrase stops behind what the skipper takes after the match. -/
  | yes {stop last consumed skipped : Nat} (matched : first + consumed = stop)
    (trailing : stop + skipped = last) :
    PhraseRecords first stop last .yes [.counting "skipped leading input" "skipped" first,
      .counting "phrase parse matched" "consumed" consumed,
      .counting "skipped trailing input" "skipped" skipped]

/-- The amounts of a phrase add up to the position where it stops. -/
theorem PhraseRecords.sum_amount {first stop last : Nat} {postSkip : PostSkip}
    {records : List TraceRecord} (recorded : PhraseRecords first stop last postSkip records) :
    (records.map TraceRecord.amount).sum = last := by
  cases recorded with
  | no matched => simp [TraceRecord.amount_counting, matched]
  | yes matched trailing =>
    simp only [List.map_cons, List.map_nil, List.sum_cons, List.sum_nil,
      TraceRecord.amount_counting]
    omega

namespace Traced

/-- What is recorded of a run. -/
def records {α : Type} (run : Traced ParseEvent α) : List TraceRecord :=
  run.events.map ParseEvent.record

/-- The amounts that are recorded of a run, added up. -/
def total {α : Type} (run : Traced ParseEvent α) : Nat :=
  (run.records.map TraceRecord.amount).sum

/-- A run fails with the error for input that is left over. -/
def TrailsOff {α : Type} (run : Traced ParseEvent (Ending (ParseError kind) α)) : Prop :=
  ∃ location, run.result = .error ⟨.trailingInput, location⟩

/-- What a complete run records in addition to the run that it holds to the end of the source. -/
structure CompletedBy (run : Traced ParseEvent (RunOutcome source))
    (whole : Traced ParseEvent (CompleteOutcome kind)) : Prop where
  /-- There is one record more exactly if input is left over. -/
  leftOver_iff : whole.TrailsOff ↔ ∃ remaining, whole.records =
    run.records ++ [.counting "complete parse left trailing input" "remaining" remaining]
  /-- Otherwise there is no record more. -/
  records_eq : ¬ whole.TrailsOff → whole.records = run.records
  /-- If input is left over, the amounts add up to the length of the source. -/
  total_of_trailsOff : whole.TrailsOff → whole.total = source.length
  /-- If the run succeeds, the amounts add up to the length of the source. -/
  total_of_ok : ∀ found, whole.result = .ok found → whole.total = source.length

variable {run : Traced ParseEvent (RunOutcome source)}

/-- A run that records the position where it stops is completed by its complete form. -/
theorem completedBy_complete
    (stops : ∀ {found c}, run.result = .ok (found, c) → c.Sound ∧ run.total = c.position)
    (fails : ∀ {error}, run.result = .error error → error.cause ≠ .trailingInput) :
    run.CompletedBy run.complete := by
  cases ran : run.result with
  | panicked =>
    rw [complete_of_panicked ran]
    exact ⟨by simp [TrailsOff, records], fun _ => rfl, by simp [TrailsOff], by simp⟩
  | error error =>
    have ended : ¬ run.complete.TrailsOff := by
      rintro ⟨location, trailing⟩
      rw [complete_of_error ran] at trailing
      cases trailing
      exact fails ran rfl
    rw [complete_of_error ran] at ended ⊢
    exact ⟨by simp [ended, records], fun _ => rfl, fun trails => absurd trails ended, by simp⟩
  | ok success =>
    obtain ⟨found, c⟩ := success
    obtain ⟨sound, amounts⟩ := stops ran
    cases done : c.atEnd with
    | true =>
      have all : run.total = source.length := amounts.trans (sound.atEnd_iff.1 done)
      rw [complete_of_atEnd ran done]
      exact ⟨by simp [TrailsOff, records], fun _ => rfl, fun _ => all, fun _ _ => all⟩
    | false =>
      have trails : run.complete.TrailsOff := by
        rw [complete_of_more ran sound done]
        exact ⟨_, rfl⟩
      have added : run.complete.records = run.records ++
          [.counting "complete parse left trailing input" "remaining"
            (source.length - c.position)] := by
        rw [complete_of_more ran sound done, records, List.map_append]
        rfl
      have all : run.complete.total = source.length := by
        rw [total, added, List.map_append, List.sum_append, ← total, amounts]
        simp only [List.map_cons, TraceRecord.amount_counting]
        exact Nat.add_sub_cancel' sound.position_le
      exact ⟨iff_of_true trails ⟨_, added⟩, fun ended => absurd trails ended, fun _ => all,
        fun _ _ => all⟩

end Traced

namespace Parser

/-- A parser that does not go back to the start outside its skippers never leads back. -/
theorem position_le_of_parseAt (parser : Parser kind)
    (forward : ¬ restart.PartOf .outsideSkippers parser)
    (success : parser.parseAt c = .ok (found, last)) : c.position ≤ last.position := by
  induction parser generalizing c found last with
  | unit matcher =>
    obtain ⟨unit, present, _, _, rfl⟩ := Matcher.parse_eq_ok.1 success
    have inside : c.position < source.length := (List.getElem?_eq_some_iff.1 present).1
    rw [Cursor.position_next_of_lt inside]
    exact Nat.le_succ _
  | skipping subject skipper subjectAdvances _ =>
    have subjects := subjectAdvances (fun inner => forward (.behind inner)) success
    exact Nat.le_trans (skipper.position_le_skip c) subjects
  | omitting subject subjectAdvances =>
    obtain ⟨_, dropped, success⟩ := omitting_eq_ok.1 success
    exact subjectAdvances (fun inner => forward (.omitted inner)) success
  | converting conversion subject subjectAdvances =>
    obtain ⟨raw, success, _⟩ := converting_eq_ok.1 success
    exact subjectAdvances (fun inner => forward (.converted inner)) success
  | nothing =>
    cases success
    exact Nat.le_refl _
  | restart => exact absurd .self forward
  | both first second firstAdvances secondAdvances =>
    obtain ⟨_, one, middle, two, firstSuccess, secondSuccess⟩ := both_eq_ok.1 success
    have firsts := firstAdvances (fun inner => forward (.first inner)) firstSuccess
    exact Nat.le_trans firsts (secondAdvances (fun inner => forward (.second inner)) secondSuccess)
  | either first second firstAdvances secondAdvances =>
    obtain success | ⟨_, success⟩ := either_eq_ok.1 success
    · exact firstAdvances (fun inner => forward (.preferred inner)) success
    · exact secondAdvances (fun inner => forward (.otherwise inner)) success

variable {parser skipper : Parser kind} {postSkip : PostSkip}

/-- A parser that does not go back to the start outside its skippers never panics as a phrase. -/
theorem phraseParse_ne_panicked (forward : ¬ restart.PartOf .outsideSkippers parser) :
    (parser.phraseParse skipper postSkip source).result ≠ .panicked := by
  intro panicked
  obtain ⟨found, stop, matched, back⟩ := phraseParse_eq_panicked.1 panicked
  exact Nat.not_le_of_lt back (parser.position_le_of_parseAt forward matched)

/-- A phrase records how far each of its stages leads, if the match does not lead back. -/
theorem phraseRecords_of_le
    (matched : parser.parseAt (skipper.skip (.start source)) = .ok (found, c))
    (forward : (skipper.skip (.start source)).position ≤ c.position) :
    PhraseRecords (skipper.skip (.start source)).position c.position
      (postSkip.finish skipper c).position postSkip
      (parser.phraseParse skipper postSkip source).records := by
  have exact := Nat.add_sub_cancel' forward
  cases postSkip with
  | no =>
    rw [phraseParse_no_of_le matched forward]
    exact .no exact
  | yes =>
    rw [phraseParse_yes_of_le matched forward]
    exact .yes exact (Nat.add_sub_cancel' (skipper.position_le_skip c))

/-- A phrase that succeeds records how far each of its stages leads. -/
theorem records_phraseParse
    (success : (parser.phraseParse skipper postSkip source).result = .ok (found, last)) :
    ∃ stop, parser.parseAt (skipper.skip (.start source)) = .ok (found, stop) ∧
      PhraseRecords (skipper.skip (.start source)).position stop.position last.position postSkip
        (parser.phraseParse skipper postSkip source).records := by
  obtain ⟨stop, matched, ahead, rfl⟩ := phraseParse_eq_ok.1 success
  exact ⟨stop, matched, phraseRecords_of_le matched ahead⟩

/-- The amounts of a phrase that succeeds add up to the position where it stops. -/
theorem total_phraseParse
    (success : (parser.phraseParse skipper postSkip source).result = .ok (found, last)) :
    (parser.phraseParse skipper postSkip source).total = last.position := by
  obtain ⟨stop, _, recorded⟩ := records_phraseParse success
  exact recorded.sum_amount

/-- A phrase is completed by the complete phrase. -/
theorem completedBy_phraseParseComplete (parser skipper : Parser kind) (postSkip : PostSkip)
    (source : List (CodeUnit kind)) :
    (parser.phraseParse skipper postSkip source).CompletedBy
      (parser.phraseParseComplete skipper postSkip source) :=
  Traced.completedBy_complete
    (fun success => ⟨sound_of_phraseParse success, total_phraseParse success⟩)
    (fun failed => (explained_of_phraseParse failed).cause_ne_trailingInput)

end Parser

end Charwise
