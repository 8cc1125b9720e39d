import Charwise.CodeUnit

/-!
# Cursors

A cursor is a place in a source. It either stands in front of a unit, and then keeps the index of
that unit, or it stands at the end and keeps nothing. Places are built by clamping a position to the
source, and the places that are built so are the sound ones: an index that is kept is the index of a
unit of the source.
-/

namespace Charwise

variable {kind : UnitKind}

/-- A place in a source. -/
inductive Cursor (source : List (CodeUnit kind)) where
  /-- The place in front of the unit with the given index. -/
  | inside (index : Nat)
  /-- The end of the source, behind all units. -/
  | ended
  deriving DecidableEq

namespace Cursor

variable {source : List (CodeUnit kind)}

/-- The place with a number of units in front of it, or the end if there are not so many. -/
def clamped (source : List (CodeUnit kind)) (position : Nat) : Cursor source :=
  if position < source.length then .inside position else .ended

/-- The place in front of the first unit. -/
def start (source : List (CodeUnit kind)) : Cursor source := clamped source 0

/-- The number of units in front of a place. -/
def position : Cursor source → Nat
  | inside index => index
  | ended => source.length

/-- Whether a place is the end. -/
def atEnd : Cursor source → Bool
  | inside _ => false
  | ended => true

/-- The units from a place on. -/
def remaining (c : Cursor source) : List (CodeUnit kind) := source.drop c.position

/-- The unit at a place, which the end does not have. -/
def unit? (c : Cursor source) : Option (CodeUnit kind) := c.remaining.head?

/-- The place behind the next unit. The end has no unit behind it and is its own successor. -/
def next (c : Cursor source) : Cursor source := clamped source (c.position + 1)

/-- A place is sound if it is the end or in front of a unit of the source. -/
def Sound : Cursor source → Prop
  | inside index => index < source.length
  | ended => True

/-- Whether a place lies behind another one, and still in the source. -/
def Advances (c later : Cursor source) : Prop :=
  c.position < later.position ∧ later.position ≤ source.length

instance (c later : Cursor source) : Decidable (c.Advances later) :=
  inferInstanceAs (Decidable (_ ∧ _))

/-- Clamping keeps the positions of the source and takes all others to the end. -/
@[simp] theorem position_clamped (position : Nat) :
    (clamped source position).position = min position source.length := by
  unfold clamped
  split
  · rename_i inside
    exact (Nat.min_eq_left (Nat.le_of_lt inside)).symm
  · rename_i outside
    exact (Nat.min_eq_right (Nat.le_of_not_lt outside)).symm

/-- A clamped position is the end from the length of the source on. -/
@[simp] theorem atEnd_clamped (position : Nat) :
    (clamped source position).atEnd = decide (source.length ≤ position) := by
  unfold clamped
  split
  · rename_i inside
    exact (decide_eq_false (Nat.not_le_of_lt inside)).symm
  · rename_i outside
    exact (decide_eq_true (Nat.le_of_not_lt outside)).symm

/-- The first place has no unit in front of it. -/
@[simp] theorem position_start : (start source).position = 0 := by
  simp [start]

/-- Every clamped position is sound. -/
@[simp] theorem sound_clamped (position : Nat) : (clamped source position).Sound := by
  unfold clamped
  split
  · rename_i inside
    exact inside
  · trivial

/-- The first place is sound. -/
theorem sound_start : (start source).Sound := sound_clamped 0

/-- Stepping leads to a sound place from everywhere. -/
theorem sound_next (c : Cursor source) : c.next.Sound := sound_clamped (c.position + 1)

/-- A sound place is in the source or at its end. -/
theorem Sound.position_le {c : Cursor source} (sound : c.Sound) : c.position ≤ source.length := by
  cases c with
  | inside index => exact Nat.le_of_lt sound
  | ended => exact Nat.le_refl _

/-- A sound place is the clamping of its own position. -/
theorem Sound.clamped_position {c : Cursor source} (sound : c.Sound) :
    clamped source c.position = c := by
  cases c with
  | inside index => exact if_pos sound
  | ended => exact if_neg (Nat.lt_irrefl _)

/-- The sound places are those that clamping builds. -/
theorem sound_iff_clamped {c : Cursor source} :
    c.Sound ↔ ∃ position, c = clamped source position := by
  constructor
  · exact fun sound => ⟨c.position, sound.clamped_position.symm⟩
  · rintro ⟨position, rfl⟩
    exact sound_clamped position

/-- Sound places with the same position are the same. -/
theorem Sound.ext {a b : Cursor source} (first : a.Sound) (second : b.Sound)
    (same : a.position = b.position) : a = b := by
  rw [← first.clamped_position, ← second.clamped_position, same]

/-- A sound place is the end exactly if all units are in front of it. -/
theorem Sound.atEnd_iff {c : Cursor source} (sound : c.Sound) :
    c.atEnd = true ↔ c.position = source.length := by
  cases c with
  | inside index =>
    have before : index < source.length := sound
    simp [atEnd, position, Nat.ne_of_lt before]
  | ended => simp [atEnd, position]

/-- A sound place that is not the end has a unit behind it. -/
theorem Sound.position_lt {c : Cursor source} (sound : c.Sound) (more : ¬ c.atEnd = true) :
    c.position < source.length :=
  Nat.lt_of_le_of_ne sound.position_le fun same => more (sound.atEnd_iff.2 same)

/-- For a sound place, lying further on is the only condition of an advance. -/
theorem Sound.advances_iff {c later : Cursor source} (sound : later.Sound) :
    c.Advances later ↔ c.position < later.position :=
  ⟨And.left, fun further => ⟨further, sound.position_le⟩⟩

/-- The units from a place on begin with the unit at its position. -/
theorem unit?_eq_getElem? (c : Cursor source) : c.unit? = source[c.position]? := by
  simp [unit?, remaining, List.head?_drop]

/-- The successor is one unit further on, but not behind the end. -/
theorem position_next (c : Cursor source) : c.next.position = min (c.position + 1) source.length :=
  position_clamped (c.position + 1)

/-- Away from the end, the successor is one unit further on. -/
theorem position_next_of_lt {c : Cursor source} (inside : c.position < source.length) :
    c.next.position = c.position + 1 := by
  rw [position_next]
  omega

/-- The successor of a clamped position is the next position, clamped. -/
theorem next_clamped (source : List (CodeUnit kind)) (position : Nat) :
    (clamped source position).next = clamped source (position + 1) := by
  refine (sound_next _).ext (sound_clamped _) ?_
  rw [position_next, position_clamped, position_clamped]
  omega

/-- The successor of a sound place is at the same position exactly at the end. -/
theorem Sound.position_next_eq_iff {c : Cursor source} (sound : c.Sound) :
    c.position = c.next.position ↔ c.atEnd = true := by
  have within := sound.position_le
  rw [sound.atEnd_iff, position_next]
  omega

end Cursor

end Charwise
