import Charwise.Proofs.Soundness
import Charwise.Session

/-!
# The places of a session

Every place that a session keeps is sound, the current one and the saved ones: each step keeps this
(`State.Sound.perform`), and so do all steps in order (`State.Sound.after`). A sound place tells the
truth about its source (`Cursor.Sound.faithful`), and steps fail only in the source that they were
taken in.
-/

namespace Charwise

variable {kind : UnitKind}

/-- A place is faithful if what can be asked of it agrees with its position in the source. -/
structure Cursor.Faithful {source : List (CodeUnit kind)} (c : Cursor source) : Prop where
  /-- The position is in the source or at its end. -/
  position_le : c.position ≤ source.length
  /-- The place stands in front of a unit exactly if there are units behind its position. -/
  inside_iff : (∃ index, c = .inside index) ↔ c.position < source.length
  /-- The place is the end exactly if all units are in front of it. -/
  ended_iff : c = .ended ↔ c.position = source.length
  /-- Asked whether it is the end, the place says so. -/
  atEnd_iff : c.atEnd = true ↔ c.position = source.length
  /-- The units from the place on are all units but those in front of it. -/
  remaining_eq : c.remaining = source.drop c.position
  /-- The units in front of the place and those from it on are the whole source. -/
  take_append_remaining : source.take c.position ++ c.remaining = source
  /-- In front of the end, the unit at the place is the one at its position. -/
  value_of_more : c.atEnd = false → ∃ inside : c.position < source.length,
    c.value = .ok source[c.position]
  /-- At the end there is no unit to read, and the error says so there. -/
  value_of_end : c.atEnd = true → c.value = .error ⟨.noUnitAtEnd, source, source.length⟩

/-- Sound places are faithful. -/
theorem Cursor.Sound.faithful {source : List (CodeUnit kind)} {c : Cursor source}
    (sound : c.Sound) : c.Faithful := by
  constructor
  · exact sound.position_le
  · cases c with
    | inside index => exact iff_of_true ⟨index, rfl⟩ sound
    | ended => simp [position]
  · cases c with
    | inside index =>
      have before : index < source.length := sound
      simp [position, Nat.ne_of_lt before]
    | ended => exact iff_of_true rfl rfl
  · exact sound.atEnd_iff
  · rfl
  · exact List.take_append_drop c.position source
  · intro more
    have inside : c.position < source.length := sound.position_lt (Bool.eq_false_iff.1 more)
    exact ⟨inside, value_of_lt inside⟩
  · intro done
    exact value_of_le (Nat.le_of_eq (sound.atEnd_iff.1 done).symm)

/-- A place of a session is faithful if it is in one of the two sources and faithful there. -/
structure Place.Faithful {sources : Side → List (CodeUnit kind)} (place : Place sources) :
    Prop where
  /-- The place is in the whole of one of the two sources. -/
  source : sources place.side = sources .first ∨ sources place.side = sources .second
  /-- The place is faithful to that source. -/
  cursor : place.cursor.Faithful

namespace Session.State

variable {sources : Side → List (CodeUnit kind)} {state : State sources}

/-- A state is sound if the current place and the saved places are. -/
structure Sound (state : State sources) : Prop where
  /-- The current place is sound. -/
  current : state.current.cursor.Sound
  /-- The saved places are sound. -/
  saved : ∀ entry ∈ state.saved, entry.2.cursor.Sound

/-- A state is faithful if the current place and the saved places are. -/
structure Faithful (state : State sources) : Prop where
  /-- The current place is faithful. -/
  current : state.current.Faithful
  /-- The saved places are faithful. -/
  saved : ∀ entry ∈ state.saved, entry.2.Faithful

/-- Sound states are faithful. -/
theorem Sound.faithful (sound : state.Sound) : state.Faithful := by
  have among : ∀ side : Side, sources side = sources .first ∨ sources side = sources .second := by
    intro side
    cases side with
    | first => exact Or.inl rfl
    | second => exact Or.inr rfl
  constructor
  · exact ⟨among _, sound.current.faithful⟩
  · exact fun entry member => ⟨among _, (sound.saved entry member).faithful⟩

/-- The state after steps in order. -/
def after (state : State sources) : List (Step kind) → State sources
  | [] => state
  | step :: later => (state.perform step).2.after later

/-- A run with one step more is the run before it, and the step taken in the state after that. -/
theorem run_concat (state : State sources) (steps : List (Step kind)) (step : Step kind) :
    state.run (steps ++ [step]) = state.run steps ++ [(state.after steps).perform step] := by
  induction steps generalizing state with
  | nil => rfl
  | cons first later ih =>
    rw [List.cons_append, run, ih, run, after]
    rfl

/-- The state after one step more is the one that the step leads to from the state before it. -/
theorem after_concat (state : State sources) (steps : List (Step kind)) (step : Step kind) :
    state.after (steps ++ [step]) = ((state.after steps).perform step).2 := by
  induction steps generalizing state with
  | nil => rfl
  | cons first later ih => exact ih (state.perform first).2

/-- A session begins at a sound place. -/
theorem sound_initial (sources : Side → List (CodeUnit kind)) : (initial sources).Sound :=
  ⟨Cursor.sound_start, by simp [initial]⟩

/-- A state stays sound if the cursor moves to a sound place. -/
theorem Sound.moved (sound : state.Sound) {cursor : Cursor (sources state.current.side)}
    (there : cursor.Sound) : (state.moved cursor).Sound :=
  ⟨there, sound.saved⟩

/-- What is found in a slot is sound. -/
theorem Sound.lookup (sound : state.Sound) {slot : String} {place : Place sources}
    (found : state.saved.lookup slot = some place) : place.cursor.Sound := by
  obtain ⟨newer, older, saved, _⟩ := List.lookup_eq_some_iff.1 found
  exact sound.saved (slot, place) (by rw [saved]; simp)

/-- Every step keeps a state sound. -/
theorem Sound.perform (sound : state.Sound) (step : Step kind) : (state.perform step).2.Sound := by
  cases step with
  | start side => exact ⟨Cursor.sound_start, sound.saved⟩
  | next => exact sound.moved (Cursor.sound_next _)
  | tryNext =>
    rw [State.perform]
    cases tried : state.current.cursor.tryNext with
    | ok next =>
      rw [Cursor.eq_next_of_tryNext tried]
      exact sound.moved (Cursor.sound_next _)
    | error error => exact sound
  | value =>
    rw [State.perform]
    cases state.current.cursor.value <;> exact sound
  | remaining => exact sound
  | source => exact sound
  | extent => exact sound
  | save slot =>
    refine ⟨sound.current, fun entry member => ?_⟩
    obtain rfl | older := List.mem_cons.1 member
    · exact sound.current
    · exact sound.saved entry older
  | load slot =>
    rw [State.perform]
    cases found : state.saved.lookup slot with
    | some place => exact ⟨sound.lookup found, sound.saved⟩
    | none => exact sound
  | compare slot =>
    rw [State.perform]
    cases state.saved.lookup slot <;> exact sound
  | parse parser =>
    rw [State.perform]
    cases ran : parser.parseAt state.current.cursor with
    | ok success => exact sound.moved (parser.sound_of_parseAt sound.current ran)
    | error error => exact sound
  | repeated parser => exact sound.moved (parser.sound_repeatAt sound.current)
  | skip skipper => exact sound.moved (skipper.sound_skip sound.current)

/-- In a sound state, a step that fails does so in the current source. -/
theorem Sound.located (sound : state.Sound) {step : Step kind} {error : ParseError kind}
    (failed : (state.perform step).1 = .failed error) :
    error.LocatedIn (sources state.current.side) := by
  unfold State.perform at failed
  cases step with
  | tryNext =>
    cases tried : state.current.cursor.tryNext with
    | ok next => simp [tried] at failed
    | error refused =>
      simp only [tried, Answer.failed.injEq] at failed
      exact failed ▸ Cursor.located_of_tryNext tried
  | value =>
    cases read : state.current.cursor.value with
    | ok unit => simp [read] at failed
    | error refused =>
      simp only [read, Answer.failed.injEq] at failed
      exact failed ▸ Cursor.located_of_value read
  | parse parser =>
    cases ran : parser.parseAt state.current.cursor with
    | ok success => simp [ran] at failed
    | error refused =>
      simp only [ran, Answer.failed.injEq] at failed
      exact failed ▸ parser.located_of_parseAt sound.current ran
  | load slot | compare slot => cases found : state.saved.lookup slot <;> simp [found] at failed
  | start _ | next | remaining | source | extent | save _ | repeated _ | skip _ => contradiction

/-- Steps in order keep a state sound. -/
theorem Sound.after (sound : state.Sound) (steps : List (Step kind)) :
    (state.after steps).Sound := by
  induction steps generalizing state with
  | nil => exact sound
  | cons step later ih => exact ih (sound.perform step)

/-- Whatever steps a session has taken, the current place and the saved places are faithful. The
next step, which is the last one of a longer run, leads to faithful places again, and if it fails,
it does so in the source that it was taken in. -/
theorem perform_faithful (sources : Side → List (CodeUnit kind)) (steps : List (Step kind))
    (step : Step kind) :
    let before := (initial sources).after steps
    let taken := before.perform step
    (initial sources).run (steps ++ [step]) = (initial sources).run steps ++ [taken] ∧
      before.Faithful ∧ taken.2.Faithful ∧
      ∀ error, taken.1 = .failed error →
        error.location.source = sources before.current.side ∧
          error.location.position ≤ (sources before.current.side).length := by
  intro before taken
  have sound : before.Sound := (sound_initial sources).after steps
  refine ⟨run_concat _ steps step, sound.faithful, (sound.perform step).faithful, ?_⟩
  intro error failed
  have located := sound.located failed
  exact ⟨located.source_eq, located.position_le⟩

/-- A parser that goes back to the start of two octets and asks for three fails behind the second,
although it is run in a session that has left for the other source and come back. -/
theorem perform_faithful_restart :
    let octet : CodeUnit .octet := ⟨0x61, by decide⟩
    let sources : Side → List (CodeUnit .octet) := fun side =>
      match side with
      | .first => [octet, octet]
      | .second => []
    let before := (initial sources).after
      [.next, .save "here", .start .second, .load "here", .next]
    let any : Parser .octet := .unit .any
    let taken := before.perform (.parse (.both .restart (.both any (.both any any))))
    let error : ParseError .octet := ⟨.noUnitAtEnd, [octet, octet], 2⟩
    before.current.cursor = .ended ∧ taken.1 = .failed error ∧
      error.location.source = sources before.current.side ∧
      error.location.position ≤ (sources before.current.side).length := by
  intro octet sources before any taken error
  have failed : taken.1 = .failed error := rfl
  have located := (perform_faithful sources _ _).2.2.2 error failed
  exact ⟨rfl, failed, located⟩

end Session.State

end Charwise
