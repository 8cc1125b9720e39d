import Charwise.Parser.Forms

/-!
# Sound places

Parsing, skipping and repeating never build an unsound place. A parser that succeeds stops at a
sound place or where it started (`Parser.same_or_sound`), so what starts at a sound place stays in
its source (`Parser.sound_of_parseAt`). Failures stay in the source as well: an error names the
source that the parser ran over and a position in it (`Parser.located_of_parseAt`).
-/

namespace Charwise

variable {kind : UnitKind} {source : List (CodeUnit kind)}

/-- An error is located in a source if it names the source and a position that is not behind it. -/
structure ParseError.LocatedIn (error : ParseError kind) (source : List (CodeUnit kind)) :
    Prop where
  /-- The error names the source. -/
  source_eq : error.location.source = source
  /-- The position is in the source or at its end. -/
  position_le : error.location.position ≤ source.length

namespace Cursor

/-- An error at a sound place is located in the source. -/
theorem Sound.located_fail {c : Cursor source} (sound : c.Sound) (cause : ErrorCause) :
    (c.fail cause).LocatedIn source :=
  ⟨rfl, sound.position_le⟩

/-- An error at the end of a source is located in the source. -/
theorem located_failAtEnd (cause : ErrorCause) : (failAtEnd source cause).LocatedIn source :=
  ⟨rfl, Nat.le_refl _⟩

/-- Reading fails only at the end of the source. -/
theorem located_of_value {c : Cursor source} {error : ParseError kind}
    (failed : c.value = .error error) : error.LocatedIn source := by
  unfold value at failed
  split at failed
  · contradiction
  · cases failed
    exact located_failAtEnd _

/-- A step that fails does so at the end of the source. -/
theorem located_of_tryNext {c : Cursor source} {error : ParseError kind}
    (failed : c.tryNext = .error error) : error.LocatedIn source := by
  unfold tryNext at failed
  split at failed
  · cases failed
    exact located_failAtEnd _
  · split at failed
    · cases failed
      exact located_failAtEnd _
    · contradiction

/-- A step that succeeds is the step to the next place. -/
theorem eq_next_of_tryNext {c next : Cursor source} (success : c.tryNext = .ok next) :
    next = c.next := by
  unfold tryNext at success
  split at success
  · contradiction
  · split at success
    · contradiction
    · cases success
      rfl

end Cursor

/-- If every step leads to a sound place or nowhere, so does skipping. -/
theorem same_or_sound_skipOver {step : Cursor source → Outcome source}
    (stays : ∀ c found next, step c = .ok (found, next) → next = c ∨ next.Sound)
    (c : Cursor source) : skipOver step c = c ∨ (skipOver step c).Sound := by
  fun_induction skipOver step c with
  | case1 => exact Or.inl rfl
  | case2 c _ found next success further ih =>
    have sound : next.Sound := by
      obtain same | sound := stays c found next success
      · exact absurd (same ▸ further.1) (Nat.lt_irrefl _)
      · exact sound
    right
    obtain same | later := ih
    · rw [same]
      exact sound
    · exact later
  | case3 => exact Or.inl rfl
  | case4 => exact Or.inl rfl

namespace Parser

/-- A parser that succeeds stops where it started or at a sound place. -/
theorem same_or_sound (parser : Parser kind) {c last : Cursor source} {found : Attribute kind}
    (success : parser.parseAt c = .ok (found, last)) : last = c ∨ last.Sound := by
  -- The start need not be sound here: the loop inside a skipper is opened by the same induction,
  -- before anything is known of the places that it goes through.
  induction parser generalizing c last found with
  | unit matcher =>
    obtain ⟨unit, _, _, _, rfl⟩ := Matcher.parse_eq_ok.1 success
    exact Or.inr c.sound_next
  | skipping subject skipper subjectStays skipperStays =>
    have skipped := same_or_sound_skipOver
      (fun c found next (success : skipper.parseAt c = _) => skipperStays success) c
    obtain same | sound := subjectStays success
    · rw [same]
      exact skipped
    · exact Or.inr sound
  | omitting subject subjectStays =>
    obtain ⟨_, dropped, success⟩ := omitting_eq_ok.1 success
    exact subjectStays success
  | converting conversion subject subjectStays =>
    obtain ⟨raw, success, _⟩ := converting_eq_ok.1 success
    exact subjectStays success
  | nothing =>
    cases success
    exact Or.inl rfl
  | restart =>
    cases success
    exact Or.inr Cursor.sound_start
  | both first second firstStays secondStays =>
    obtain ⟨_, one, middle, two, firstSuccess, secondSuccess⟩ := both_eq_ok.1 success
    obtain same | sound := secondStays secondSuccess
    · rw [same]
      exact firstStays firstSuccess
    · exact Or.inr sound
  | either first second firstStays secondStays =>
    obtain success | ⟨_, success⟩ := either_eq_ok.1 success
    · exact firstStays success
    · exact secondStays success

/-- A parser that starts at a sound place stops at one. -/
theorem sound_of_parseAt (parser : Parser kind) {c last : Cursor source} {found : Attribute kind}
    (sound : c.Sound) (success : parser.parseAt c = .ok (found, last)) : last.Sound := by
  obtain rfl | later := parser.same_or_sound success
  · exact sound
  · exact later

/-- Skipping from a sound place leads to one. -/
theorem sound_skip (skipper : Parser kind) {c : Cursor source} (sound : c.Sound) :
    (skipper.skip c).Sound := by
  obtain same | later := same_or_sound_skipOver (fun _ _ _ => skipper.same_or_sound) c
  · rw [skip, same]
    exact sound
  · exact later

/-- Repeating a parser from a sound place leads to one. -/
theorem sound_repeatAt (parser : Parser kind) {c : Cursor source} (sound : c.Sound) :
    (parser.repeatAt c).2.Sound := by
  fun_induction repeatAt parser c with
  | case1 c found next success further later last repeated ih =>
    rw [repeated] at ih
    exact ih (parser.sound_of_parseAt sound success)
  | case2 => exact sound
  | case3 => exact sound

/-- A parser that fails from a sound place fails in the source. -/
theorem located_of_parseAt (parser : Parser kind) {c : Cursor source} {error : ParseError kind}
    (sound : c.Sound) (failed : parser.parseAt c = .error error) : error.LocatedIn source := by
  induction parser generalizing c error with
  | unit matcher =>
    obtain ⟨_, rfl⟩ | ⟨unit, _, _, rfl⟩ := Matcher.parse_eq_error.1 failed
    · exact Cursor.located_failAtEnd _
    · exact sound.located_fail _
  | skipping subject skipper subjectLocated _ =>
    exact subjectLocated (skipper.sound_skip sound) failed
  | omitting subject subjectLocated =>
    exact subjectLocated sound (omitting_eq_error.1 failed)
  | converting conversion subject subjectLocated =>
    exact subjectLocated sound (converting_eq_error.1 failed)
  | nothing => contradiction
  | restart => contradiction
  | both first second firstLocated secondLocated =>
    obtain failed | ⟨one, middle, success, failed⟩ := both_eq_error.1 failed
    · exact firstLocated sound failed
    · exact secondLocated (first.sound_of_parseAt sound success) failed
  | either first second _ secondLocated =>
    exact secondLocated sound (either_eq_error.1 failed).2

end Parser

end Charwise
