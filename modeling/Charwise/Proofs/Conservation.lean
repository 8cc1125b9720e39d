import Charwise.Parser.Forms
import Charwise.Proofs.SessionInvariant

/-!
# No unit is lost

A session that only runs matchers, once or for as long as they succeed, goes over its source unit by
unit: what it was given so far and what is left make up the source, in order
(`Session.State.readings_conserve`). A matcher that is repeated takes the longest run of units that
it accepts, so a matcher and its negation in turn go through any source to the end.
-/

namespace Charwise

variable {kind : UnitKind}

namespace Cursor

variable {source : List (CodeUnit kind)} {c : Cursor source} {unit : CodeUnit kind}

/-- One step further on, the first of the remaining units is gone. -/
theorem remaining_next (c : Cursor source) : c.next.remaining = c.remaining.tail := by
  rw [remaining, remaining, List.tail_drop, position_next]
  obtain inside | outside := Nat.le_total (c.position + 1) source.length
  · rw [Nat.min_eq_left inside]
  · rw [Nat.min_eq_right outside, List.drop_eq_nil_of_le outside,
      List.drop_eq_nil_of_le (Nat.le_refl _)]

/-- The unit at a place is the first of the remaining ones. -/
theorem remaining_eq_cons (present : source[c.position]? = some unit) :
    c.remaining = unit :: c.next.remaining := by
  rw [← unit?_eq_getElem?, unit?] at present
  obtain ⟨later, same⟩ := List.head?_eq_some_iff.1 present
  rw [remaining_next, same, List.tail_cons]

/-- Where there is no unit, none remain. -/
theorem remaining_eq_nil (absent : source[c.position]? = none) : c.remaining = [] := by
  rwa [← unit?_eq_getElem?, unit?, List.head?_eq_none_iff] at absent

/-- From a place with a unit, the next place is further on. -/
theorem advances_next (present : source[c.position]? = some unit) : c.Advances c.next := by
  have inside : c.position < source.length := (List.getElem?_eq_some_iff.1 present).1
  rw [c.sound_next.advances_iff, position_next_of_lt inside]
  exact Nat.lt_succ_self _

/-- A sound place with no units remaining is the end. -/
theorem Sound.atEnd_of_remaining (sound : c.Sound) (none : c.remaining = []) : c.atEnd = true := by
  have behind : source.length ≤ c.position := List.drop_eq_nil_iff.1 none
  exact sound.atEnd_iff.2 (Nat.le_antisymm sound.position_le behind)

end Cursor

namespace Parser

variable {source : List (CodeUnit kind)}

/-- A matcher that is repeated reports the remaining units up to the first that it does not accept,
and stops in front of that one. -/
theorem repeatAt_unit (matcher : Matcher kind) (c : Cursor source) :
    ((unit matcher).repeatAt c).1 = (c.remaining.takeWhile matcher.test).map .unit ∧
      ((unit matcher).repeatAt c).2.remaining = c.remaining.dropWhile matcher.test := by
  fun_induction repeatAt (unit matcher) c with
  | case1 c found next success further later last repeated ih =>
    obtain ⟨one, present, accepted, rfl, rfl⟩ := Matcher.parse_eq_ok.1 success
    obtain ⟨taken, left⟩ := ih
    rw [repeated] at taken left
    rw [Cursor.remaining_eq_cons present, List.takeWhile_cons_of_pos accepted,
      List.dropWhile_cons_of_pos accepted]
    exact ⟨congrArg _ taken, left⟩
  | case2 c found next success stays =>
    -- A matcher that succeeds has gone over a unit, so it does not stay.
    obtain ⟨one, present, _, _, rfl⟩ := Matcher.parse_eq_ok.1 success
    exact absurd (Cursor.advances_next present) stays
  | case3 c error failed =>
    obtain ⟨absent, _⟩ | ⟨one, present, refused, _⟩ := Matcher.parse_eq_error.1 failed
    · rw [Cursor.remaining_eq_nil absent]
      exact ⟨rfl, rfl⟩
    · have stops : ¬ matcher.test one = true := Bool.eq_false_iff.1 refused
      rw [Cursor.remaining_eq_cons present, List.takeWhile_cons_of_neg stops,
        List.dropWhile_cons_of_neg stops]
      exact ⟨rfl, rfl⟩

/-- A matcher that is repeated only stops where it fails. -/
theorem parse_repeatAt_unit (matcher : Matcher kind) (c : Cursor source) :
    ∃ error, matcher.parse ((unit matcher).repeatAt c).2 = .error error := by
  fun_induction repeatAt (unit matcher) c with
  | case1 c found next success further later last repeated ih =>
    rw [repeated] at ih
    exact ih
  | case2 c found next success stays =>
    obtain ⟨one, present, _, _, rfl⟩ := Matcher.parse_eq_ok.1 success
    exact absurd (Cursor.advances_next present) stays
  | case3 c error failed => exact ⟨error, failed⟩

end Parser

namespace Session

/-- A step that runs a matcher: once, or for as long as it succeeds. -/
inductive Reading (kind : UnitKind) where
  /-- Run a matcher. -/
  | once (matcher : Matcher kind)
  /-- Repeat a matcher. -/
  | repeated (matcher : Matcher kind)

/-- The step that a reading is. -/
def Reading.step : Reading kind → Step kind
  | .once matcher => .parse (.unit matcher)
  | .repeated matcher => .repeated (.unit matcher)

/-- Repeat a matcher and its negation in turn, for a number of rounds. -/
def alternating (matcher : Matcher kind) : Nat → List (Reading kind)
  | 0 => []
  | rounds + 1 =>
    .repeated matcher :: .repeated matcher.negate :: alternating matcher rounds

/-- The attributes in an answer. A step that failed has none. -/
def Answer.attributes : Answer kind → List (Attribute kind)
  | .found value => [value]
  | .allFound values => values
  | _ => []

namespace State

variable {sources : Side → List (CodeUnit kind)}

/-- The units that remain at the current place. -/
def remaining (state : State sources) : List (CodeUnit kind) :=
  state.current.cursor.remaining

/-- At first, the whole first source remains. -/
theorem remaining_initial (sources : Side → List (CodeUnit kind)) :
    (initial sources).remaining = sources .first := by
  change (sources .first).drop (Cursor.start (sources .first)).position = sources .first
  rw [Cursor.position_start, List.drop_zero]

/-- A repeated matcher answers with the longest run of units that it accepts. -/
theorem perform_repeated (state : State sources) (matcher : Matcher kind) :
    (state.perform (.repeated (.unit matcher))).1 =
        .allFound ((state.remaining.takeWhile matcher.test).map .unit) ∧
      (state.perform (.repeated (.unit matcher))).2.remaining =
        state.remaining.dropWhile matcher.test := by
  obtain ⟨taken, left⟩ := Parser.repeatAt_unit matcher state.current.cursor
  exact ⟨congrArg Answer.allFound taken, left⟩

/-- A reading answers with the units that it takes from the remaining ones. -/
theorem perform_reading (state : State sources) (reading : Reading kind) :
    (state.perform reading.step).1.attributes ++
        (state.perform reading.step).2.remaining.map .unit =
      state.remaining.map .unit := by
  cases reading with
  | once matcher =>
    rw [Reading.step, perform]
    cases ran : (Parser.unit matcher).parseAt state.current.cursor with
    | error error => rfl
    | ok success =>
      obtain ⟨found, next⟩ := success
      obtain ⟨unit, present, _, rfl, rfl⟩ := Matcher.parse_eq_ok.1 ran
      rw [remaining, remaining, Cursor.remaining_eq_cons present]
      rfl
  | repeated matcher =>
    obtain ⟨taken, left⟩ := state.perform_repeated matcher
    rw [Reading.step, taken, left, Answer.attributes, ← List.map_append,
      List.takeWhile_append_dropWhile]

/-- Readings in order answer with the units that they take from the remaining ones. -/
theorem run_readings (state : State sources) (readings : List (Reading kind)) :
    (state.run (readings.map Reading.step)).flatMap (·.1.attributes) ++
        (state.after (readings.map Reading.step)).remaining.map .unit =
      state.remaining.map .unit := by
  induction readings generalizing state with
  | nil => rfl
  | cons reading later ih =>
    rw [List.map_cons, run, after, List.flatMap_cons, List.append_assoc, ih]
    exact state.perform_reading reading

/-- Where nothing is left, a repeated matcher leaves nothing. -/
theorem remaining_repeated_of_nil {state : State sources} (matcher : Matcher kind)
    (none : state.remaining = []) :
    (state.perform (.repeated (.unit matcher))).2.remaining = [] := by
  rw [(perform_repeated state matcher).2, none, List.dropWhile_nil]

/-- A matcher and its negation, one after the other, leave less of what is left. -/
theorem length_remaining_round (state : State sources) (matcher : Matcher kind)
    (more : state.remaining ≠ []) :
    ((state.perform (.repeated (.unit matcher))).2.perform
        (.repeated (.unit matcher.negate))).2.remaining.length < state.remaining.length := by
  rw [(perform_repeated _ matcher.negate).2, (perform_repeated _ matcher).2]
  obtain ⟨unit, later, same⟩ := List.exists_cons_of_ne_nil more
  rw [same, List.length_cons]
  -- The first unit is taken by the one or by the other, and both leave a suffix.
  by_cases accepted : matcher.test unit = true
  · have first := (List.dropWhile_suffix (p := matcher.test) (l := later)).length_le
    have second := (List.dropWhile_suffix (p := matcher.negate.test)
      (l := later.dropWhile matcher.test)).length_le
    rw [List.dropWhile_cons_of_pos accepted]
    omega
  · have opposite : matcher.negate.test unit = true := by simpa [matcher.test_negate] using accepted
    have second := (List.dropWhile_suffix (p := matcher.negate.test) (l := later)).length_le
    rw [List.dropWhile_cons_of_neg accepted, List.dropWhile_cons_of_pos opposite]
    omega

/-- With as many rounds as there are units, a matcher and its negation in turn leave none. -/
theorem remaining_alternating (state : State sources) (matcher : Matcher kind) {rounds : Nat}
    (enough : state.remaining.length ≤ rounds) :
    (state.after ((alternating matcher rounds).map Reading.step)).remaining = [] := by
  induction rounds generalizing state with
  | zero => exact List.eq_nil_of_length_eq_zero (Nat.le_zero.1 enough)
  | succ rounds ih =>
    rw [alternating, List.map_cons, List.map_cons, after, after, Reading.step, Reading.step]
    apply ih
    by_cases none : state.remaining = []
    · have first := remaining_repeated_of_nil matcher none
      rw [remaining_repeated_of_nil matcher.negate first]
      exact Nat.zero_le _
    · have shorter := state.length_remaining_round matcher none
      omega

/-- Whatever matchers a session has run, once or for as long as they succeed, the attributes that it
was given and the units that are left make up the first source. From there, a repeated matcher is
given the longest run of units that it accepts, its negation the longest run that it rejects, and
both stop where they fail. In turn they reach the end of the source. -/
theorem readings_conserve (sources : Side → List (CodeUnit kind)) (readings : List (Reading kind))
    (matcher : Matcher kind) :
    let given := ((initial sources).run (readings.map Reading.step)).flatMap (·.1.attributes)
    let state := (initial sources).after (readings.map Reading.step)
    let accepted := state.perform (.repeated (.unit matcher))
    let rejected := state.perform (.repeated (.unit matcher.negate))
    given ++ state.remaining.map .unit = (sources .first).map .unit ∧
      accepted.1 = .allFound ((state.remaining.takeWhile matcher.test).map .unit) ∧
      (∃ error, matcher.parse accepted.2.current.cursor = .error error) ∧
      rejected.1 = .allFound ((state.remaining.takeWhile (!matcher.test ·)).map .unit) ∧
      (∃ error, matcher.negate.parse rejected.2.current.cursor = .error error) ∧
      ∀ more, (state.after ((alternating matcher (state.remaining.length + more)).map
        Reading.step)).current.cursor.atEnd = true := by
  intro given state accepted rejected
  have opposite : matcher.negate.test = (!matcher.test ·) := funext matcher.test_negate
  refine ⟨?_, (perform_repeated state matcher).1, Parser.parse_repeatAt_unit matcher _, ?_,
    Parser.parse_repeatAt_unit matcher.negate _, fun more => ?_⟩
  · have whole := (initial sources).run_readings readings
    rw [remaining_initial] at whole
    exact whole
  · rw [← opposite]
    exact (perform_repeated state matcher.negate).1
  · have sound := ((sound_initial sources).after (readings.map Reading.step)).after
      ((alternating matcher (state.remaining.length + more)).map Reading.step)
    exact sound.current.atEnd_of_remaining
      (state.remaining_alternating matcher (Nat.le_add_right _ _))

end State

end Session

end Charwise
