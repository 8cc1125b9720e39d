import Charwise.Proofs.Soundness
import Mathlib.Logic.Relation

/-!
# Skipping as a loop

Skipping is the loop that takes a step wherever the skipper leads further and stops where it is
stuck. The steps and the places of rest are stated here in the skipper's own terms, without the
function that computes the loop: `Takes` and `Stuck`. Steps cannot go on for ever, whatever the
skipper is made of, and the function returns the one place of rest that they lead to.
-/

namespace Charwise.Parser

variable {kind : UnitKind} {source : List (CodeUnit kind)} {skipper : Parser kind}
variable {c next last : Cursor source}

/-- A skipper takes input in front of the end, by succeeding further on. -/
def Takes (skipper : Parser kind) (c next : Cursor source) : Prop :=
  c.atEnd = false ∧ ∃ found, skipper.parseAt c = .ok (found, next) ∧ c.position < next.position

/-- A skipper is stuck at the end, where it fails, and where it succeeds no further on. -/
def Stuck (skipper : Parser kind) (c : Cursor source) : Prop :=
  c.atEnd = true ∨ (∃ error, skipper.parseAt c = .error error) ∨
    ∃ found next, skipper.parseAt c = .ok (found, next) ∧ next.position ≤ c.position

/-- A step leads to a sound place, since it does not stay where it started. -/
theorem Takes.sound (step : skipper.Takes c next) : next.Sound := by
  obtain ⟨_, found, success, further⟩ := step
  obtain rfl | sound := skipper.same_or_sound success
  · exact absurd further (Nat.lt_irrefl _)
  · exact sound

/-- Where a skipper is not stuck, it takes a step. -/
theorem stuck_or_takes (skipper : Parser kind) (c : Cursor source) :
    skipper.Stuck c ∨ ∃ next, skipper.Takes c next := by
  cases done : c.atEnd with
  | true => exact Or.inl (Or.inl done)
  | false =>
    cases ran : skipper.parseAt c with
    | error error => exact Or.inl (Or.inr (Or.inl ⟨error, ran⟩))
    | ok success =>
      obtain ⟨found, next⟩ := success
      by_cases further : c.position < next.position
      · exact Or.inr ⟨next, done, found, ran, further⟩
      · exact Or.inl (Or.inr (Or.inr ⟨found, next, ran, Nat.le_of_not_lt further⟩))

/-- Where a skipper is stuck, it takes no step. -/
theorem Stuck.not_takes (stuck : skipper.Stuck c) : ¬ skipper.Takes c next := by
  rintro ⟨more, found, success, further⟩
  obtain done | ⟨error, failed⟩ | ⟨other, last, stays, back⟩ := stuck
  · rw [more] at done
    contradiction
  · rw [success] at failed
    contradiction
  · rw [success] at stays
    cases stays
    exact Nat.not_lt_of_le back further

/-- Steps cannot go on for ever: each one leaves fewer units to take. -/
theorem wellFounded_takes (skipper : Parser kind) :
    WellFounded fun next c : Cursor source => skipper.Takes c next := by
  apply Subrelation.wf _ (measure fun c : Cursor source => source.length - c.position).wf
  intro next c step
  have within := step.sound.position_le
  obtain ⟨_, _, _, further⟩ := step
  change source.length - next.position < source.length - c.position
  omega

/-- Skipping is the loop over the skipper, which only looks at how far the skipper leads. -/
theorem skip_eq (skipper : Parser kind) (c : Cursor source) :
    skipper.skip c =
      if c.atEnd then c
      else
        match skipper.parseAt c with
        | .ok (_, next) => if c.position < next.position then skipper.skip next else c
        | .error _ => c := by
  unfold skip
  rw [skipOver]
  cases ran : skipper.parseAt c with
  | error error => rfl
  | ok success =>
    obtain ⟨found, next⟩ := success
    obtain rfl | sound := skipper.same_or_sound ran
    · simp [Cursor.Advances]
    · simp [sound.advances_iff]

/-- Skipping stays at a place of rest. -/
theorem skip_of_stuck (stuck : skipper.Stuck c) : skipper.skip c = c := by
  rw [skip_eq]
  obtain done | ⟨error, failed⟩ | ⟨found, next, success, back⟩ := stuck
  · exact if_pos done
  · simp [failed]
  · simp [success, Nat.not_lt_of_le back]

/-- Skipping follows a step. -/
theorem skip_of_takes (step : skipper.Takes c next) : skipper.skip c = skipper.skip next := by
  obtain ⟨more, found, success, further⟩ := step
  rw [skip_eq skipper c]
  simp [more, success, further]

/-- Skipping goes through steps and ends in a place of rest. -/
theorem steps_skip (skipper : Parser kind) (c : Cursor source) :
    Relation.ReflTransGen skipper.Takes c (skipper.skip c) ∧ skipper.Stuck (skipper.skip c) := by
  induction c using (wellFounded_takes skipper).induction with
  | _ c later =>
    obtain stuck | ⟨next, step⟩ := skipper.stuck_or_takes c
    · rw [skip_of_stuck stuck]
      exact ⟨.refl, stuck⟩
    · rw [skip_of_takes step]
      obtain ⟨steps, stuck⟩ := later next step
      exact ⟨.head step steps, stuck⟩

/-- Skipping ends in the only place of rest that steps lead to. -/
theorem skip_eq_of_steps (steps : Relation.ReflTransGen skipper.Takes c last)
    (stuck : skipper.Stuck last) : skipper.skip c = last := by
  induction steps using Relation.ReflTransGen.head_induction_on with
  | refl => exact skip_of_stuck stuck
  | head step _ ih => exact (skip_of_takes step).trans ih

/-- Where skipping has come to rest, skipping again stays. -/
theorem skip_skip (skipper : Parser kind) (c : Cursor source) :
    skipper.skip (skipper.skip c) = skipper.skip c := by
  have rests : skipper.Stuck (skipper.skip c) := (skipper.steps_skip c).2
  exact skip_of_stuck rests

/-- Skipping does not go back. -/
theorem position_le_skip (skipper : Parser kind) (c : Cursor source) :
    c.position ≤ (skipper.skip c).position :=
  position_le_skipOver _ c

/-- From every place in every source, skipping comes to an end. Steps of the skipper each lead
further and cannot go on for ever. Skipping does not go back or leave the source, it returns the one
place where the skipper is stuck that steps lead to, and skipping again stays there. -/
theorem skip_ends_at_fixpoint (skipper : Parser kind) (source : List (CodeUnit kind))
    (position : Nat) :
    let c := Cursor.clamped source position
    let last := skipper.skip c
    WellFounded (fun next c : Cursor source => skipper.Takes c next) ∧
      c.position ≤ last.position ∧ last.position ≤ source.length ∧
      (∀ place, Relation.ReflTransGen skipper.Takes c place ∧ skipper.Stuck place ↔
        place = last) ∧
      skipper.skip last = last := by
  intro c last
  have reached := skipper.steps_skip c
  have within : last.position ≤ source.length :=
    (skipper.sound_skip (Cursor.sound_clamped position)).position_le
  refine ⟨skipper.wellFounded_takes, skipper.position_le_skip c, within, fun place => ?_,
    skip_of_stuck reached.2⟩
  constructor
  · rintro ⟨steps, stuck⟩
    exact (skip_eq_of_steps steps stuck).symm
  · rintro rfl
    exact reached

end Charwise.Parser
