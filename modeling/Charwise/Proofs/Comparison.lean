import Charwise.Proofs.SessionInvariant

/-!
# Comparison of places

Places are compared by their positions, although a place at the end does not keep one and all else
looks at which kind of place it is. That comparing positions is enough rests on soundness: the
places that a session can reach are the sound ones (`Place.reachable_iff_sound`), and sound places
with the same position are the same place. So the places of one source are totally ordered, and no
step of a session tells places apart that compare as equal (`Place.comparison_exact`).
-/

namespace Charwise

variable {kind : UnitKind} {sources : Side → List (CodeUnit kind)}

namespace Place

open Session

variable {a b : Place sources}

/-- The place behind the next unit, in the same source. -/
def next (place : Place sources) : Place sources := ⟨place.side, place.cursor.next⟩

/-- A place is reachable if some steps lead a session to it, or to a state in which it is saved. -/
def Reachable (place : Place sources) : Prop :=
  ∃ steps, let state := (State.initial sources).after steps
    state.current = place ∨ ∃ slot, (slot, place) ∈ state.saved

/-- A place is at most as far on as another one if they compare as less or equal. -/
instance : LE (Place sources) := ⟨fun a b => (a.order? b).any Ordering.isLE = true⟩

/-- Nothing that a session does tells two places apart. -/
structure Interchangeable (a b : Place sources) : Prop where
  /-- Both stand in front of a unit, or neither does. -/
  inside_iff : (∃ index, a.cursor = .inside index) ↔ ∃ index, b.cursor = .inside index
  /-- Both are the end of their source, or neither is. -/
  ended_iff : a.cursor = .ended ↔ b.cursor = .ended
  /-- The same unit is read at both, or there is the same error. -/
  value_eq : a.cursor.value = b.cursor.value
  /-- The same units remain. -/
  remaining_eq : a.cursor.remaining = b.cursor.remaining
  /-- The next place is the same. -/
  next_eq : a.next = b.next
  /-- From both, every step has the same answer and leads to the same state, whatever is saved:
  this goes for a step forward, for every parser, once or repeated, and for every skipper. -/
  perform_eq : ∀ (saved : List (String × Place sources)) (step : Step kind),
    State.perform ⟨a, saved⟩ step = State.perform ⟨b, saved⟩ step

/-- Places compare as equal if they are at the same position of one source. -/
theorem same_iff : a.same b = true ↔ a.side = b.side ∧ a.cursor.position = b.cursor.position := by
  rw [same, Bool.and_eq_true, beq_iff_eq, beq_iff_eq]

/-- Places in one source are ordered by their positions. -/
theorem order?_of_side (one : a.side = b.side) :
    a.order? b = some (compare a.cursor.position b.cursor.position) :=
  if_pos one

/-- Places are not ordered exactly if they are in different sources. -/
theorem order?_eq_none_iff : a.order? b = none ↔ a.side ≠ b.side := by
  rw [order?, ite_eq_right_iff]
  exact ⟨fun none one => Option.some_ne_none _ (none one), fun two one => absurd one two⟩

/-- The two ways to compare places agree on which are equal. -/
theorem same_iff_order? : a.same b = true ↔ a.order? b = some .eq := by
  rw [same_iff]
  by_cases one : a.side = b.side
  · rw [order?_of_side one, Option.some.injEq, Nat.compare_eq_eq, and_iff_right one]
  · rw [order?_eq_none_iff.2 one]
    exact iff_of_false (fun same => one same.1) nofun

/-- A place is at most as far on as another one if both are in one source and its position is. -/
theorem le_iff : a ≤ b ↔ a.side = b.side ∧ a.cursor.position ≤ b.cursor.position := by
  change (a.order? b).any Ordering.isLE = true ↔ _
  by_cases one : a.side = b.side
  · rw [order?_of_side one, Option.any_some, Nat.isLE_compare, and_iff_right one]
  · rw [order?_eq_none_iff.2 one]
    exact iff_of_false nofun fun le => one le.1

/-- Sound places that compare as equal are the same. -/
theorem eq_of_same (first : a.cursor.Sound) (second : b.cursor.Sound) (same : a.same b = true) :
    a = b := by
  obtain ⟨side, one⟩ := a
  obtain ⟨_, two⟩ := b
  obtain ⟨rfl, positions⟩ := same_iff.1 same
  exact congrArg (Place.mk side) (first.ext second positions)

/-- A session can go to every position of its sources: to the start of a source, and then on. -/
theorem exists_after_eq_clamped (sources : Side → List (CodeUnit kind)) (side : Side)
    (position : Nat) :
    ∃ steps, ((State.initial sources).after steps).current = ⟨side, .clamped _ position⟩ := by
  induction position with
  | zero => exact ⟨[.start side], rfl⟩
  | succ position reached =>
    obtain ⟨steps, there⟩ := reached
    refine ⟨steps ++ [.next], ?_⟩
    rw [State.after_concat]
    change ((State.initial sources).after steps).current.next = _
    rw [there, next, Cursor.next_clamped]

/-- The places that a session can reach are the sound ones. -/
theorem reachable_iff_sound {place : Place sources} : place.Reachable ↔ place.cursor.Sound := by
  constructor
  · rintro ⟨steps, rfl | ⟨slot, saved⟩⟩
    · exact ((State.sound_initial sources).after steps).current
    · exact ((State.sound_initial sources).after steps).saved (slot, place) saved
  · intro sound
    obtain ⟨steps, there⟩ :=
      exists_after_eq_clamped sources place.side place.cursor.position
    rw [sound.clamped_position] at there
    exact ⟨steps, Or.inl there⟩

/-- The reachable places of one source are totally ordered. -/
theorem isLinearOrder_side (sources : Side → List (CodeUnit kind)) (side : Side) :
    Std.IsLinearOrder {place : Place sources // place.Reachable ∧ place.side = side} where
  le_refl one := le_iff.2 ⟨rfl, Nat.le_refl _⟩
  le_trans one two three before later := by
    obtain ⟨sideBefore, positionBefore⟩ := le_iff.1 before
    obtain ⟨sideLater, positionLater⟩ := le_iff.1 later
    exact le_iff.2 ⟨sideBefore.trans sideLater, Nat.le_trans positionBefore positionLater⟩
  le_antisymm one two before later := by
    obtain ⟨sides, positionBefore⟩ := le_iff.1 before
    have positions := Nat.le_antisymm positionBefore (le_iff.1 later).2
    exact Subtype.ext (eq_of_same (reachable_iff_sound.1 one.2.1) (reachable_iff_sound.1 two.2.1)
      (same_iff.2 ⟨sides, positions⟩))
  le_total one two := by
    have sides : one.1.side = two.1.side := one.2.2.trans two.2.2.symm
    obtain before | later := Nat.le_total one.1.cursor.position two.1.cursor.position
    · exact Or.inl (le_iff.2 ⟨sides, before⟩)
    · exact Or.inr (le_iff.2 ⟨sides.symm, later⟩)

/-- A place is at most as far on as the next one. -/
theorem le_next (sound : a.cursor.Sound) : a ≤ a.next := by
  refine le_iff.2 ⟨rfl, ?_⟩
  change a.cursor.position ≤ a.cursor.next.position
  have within := sound.position_le
  rw [Cursor.position_next]
  omega

/-- Comparing the places that a session can reach. The two ways to compare agree on which places are
equal. Places in different sources are not ordered, whatever the sources contain; places in one
source are totally ordered by their positions. The next place is never further back, and it is the
same place exactly at the end. Places that compare as equal are the same place, and so nothing that
a session does tells them apart. -/
theorem comparison_exact (first : a.Reachable) (second : b.Reachable) :
    (a.same b = true ↔ a.order? b = some .eq) ∧
      (a.order? b = none ↔ a.side ≠ b.side) ∧
      (a.side = b.side →
        a.order? b = some (compare a.cursor.position b.cursor.position)) ∧
      (∀ side, Std.IsLinearOrder
        {place : Place sources // place.Reachable ∧ place.side = side}) ∧
      a ≤ a.next ∧ (a.same a.next = true ↔ a.cursor.atEnd = true) ∧
      (a.same b = true → a = b ∧ a.Interchangeable b) := by
  have sound := reachable_iff_sound.1 first
  refine ⟨same_iff_order?, order?_eq_none_iff, order?_of_side, isLinearOrder_side sources,
    le_next sound, ?_, fun same => ?_⟩
  · rw [same_iff, ← sound.position_next_eq_iff]
    exact and_iff_right rfl
  · obtain rfl := eq_of_same sound (reachable_iff_sound.1 second) same
    exact ⟨rfl, Iff.rfl, Iff.rfl, rfl, rfl, rfl, fun _ _ => rfl⟩

/-- Behind the only unit of a source, a session is at the same place whether it went on by one step
or by two, and nothing tells the two ways apart. The end of another source with the same unit is not
ordered against it. -/
theorem comparison_exact_end :
    let unit : CodeUnit .octet := ⟨0x61, by decide⟩
    let initial := State.initial fun _ : Side => [unit]
    let one := (initial.after [.next]).current
    let two := (initial.after [.save "here", .next, .next]).current
    let other := (initial.after [.start .second, .next]).current
    one.Reachable ∧ two.Reachable ∧ other.Reachable ∧ one.same two = true ∧
      one.Interchangeable two ∧ one.order? other = none := by
  intro unit initial one two other
  have first : one.Reachable := ⟨_, Or.inl rfl⟩
  have second : two.Reachable := ⟨_, Or.inl rfl⟩
  have third : other.Reachable := ⟨_, Or.inl rfl⟩
  obtain ⟨_, _, _, _, _, _, equal⟩ := comparison_exact first second
  obtain ⟨_, apart, _⟩ := comparison_exact first third
  have same : one.same two = true := by decide
  exact ⟨first, second, third, same, (equal same).2, apart.2 (by decide)⟩

end Place

end Charwise
