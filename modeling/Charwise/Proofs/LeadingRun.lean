import Charwise.Proofs.Skipping
import Mathlib.Data.List.TakeWhile

/-!
# Leading runs

A matcher accepts a number of units at the front of a source, up to the first unit that it does not
accept. A matcher that skips takes exactly this run (`Parser.skip_unit`).
-/

namespace Charwise

variable {kind : UnitKind} {source : List (CodeUnit kind)} {matcher : Matcher kind}

namespace Matcher

/-- The number of units at the front that a matcher accepts. -/
def leading (matcher : Matcher kind) (units : List (CodeUnit kind)) : Nat :=
  (units.takeWhile matcher.test).length

/-- The front units are accepted one after the other, up to the first that is not. -/
theorem leading_cons (unit : CodeUnit kind) (rest : List (CodeUnit kind)) :
    matcher.leading (unit :: rest) =
      if matcher.test unit = true then matcher.leading rest + 1 else 0 := by
  unfold leading
  rw [List.takeWhile_cons]
  split <;> rfl

/-- No more units are accepted than there are. -/
theorem leading_le (matcher : Matcher kind) (units : List (CodeUnit kind)) :
    matcher.leading units ≤ units.length :=
  (List.takeWhile_prefix matcher.test).length_le

/-- The accepted units at the front are accepted. -/
theorem test_of_mem_take {units : List (CodeUnit kind)} {unit : CodeUnit kind}
    (front : unit ∈ units.take (matcher.leading units)) : matcher.test unit = true := by
  rw [leading, ← List.prefix_iff_eq_take.1 (List.takeWhile_prefix _)] at front
  exact List.mem_takeWhile_imp front

/-- The unit behind the accepted ones is not accepted. -/
theorem test_of_leading {units : List (CodeUnit kind)} {unit : CodeUnit kind}
    (behind : units[matcher.leading units]? = some unit) : matcher.test unit = false := by
  induction units with
  | nil => simp at behind
  | cons first rest ih =>
    rw [leading_cons] at behind
    split at behind
    · exact ih (by simpa using behind)
    · rename_i refused
      cases behind
      exact Bool.eq_false_iff.2 refused

/-- Accepted units in front of one that is not accepted are the accepted units at the front. -/
theorem leading_append {front : List (CodeUnit kind)} {unit : CodeUnit kind}
    (accepted : ∀ unit ∈ front, matcher.test unit = true) (refused : matcher.test unit = false)
    (rest : List (CodeUnit kind)) : matcher.leading (front ++ unit :: rest) = front.length := by
  have stops : ¬ matcher.test unit = true := Bool.eq_false_iff.1 refused
  rw [leading, List.takeWhile_append_of_pos accepted, List.takeWhile_cons_of_neg stops,
    List.append_nil]

/-- All units are accepted exactly if as many as there are are accepted at the front. -/
theorem leading_eq_length_iff {units : List (CodeUnit kind)} :
    matcher.leading units = units.length ↔ ∀ unit ∈ units, matcher.test unit = true := by
  rw [← List.takeWhile_eq_self_iff]
  exact ⟨(List.takeWhile_prefix _).eq_of_length, congrArg List.length⟩

end Matcher

namespace Parser

/-- A matcher takes a unit that it accepts. -/
theorem takes_unit {position : Nat} {unit : CodeUnit kind}
    (present : source[position]? = some unit) (accepted : matcher.test unit = true) :
    (Parser.unit matcher).Takes (Cursor.clamped source position)
      (.clamped source (position + 1)) := by
  have inside : position < source.length := (List.getElem?_eq_some_iff.1 present).1
  refine ⟨?_, .unit unit, ?_, ?_⟩
  · simp [inside]
  · rw [parseAt_unit, matcher.parse_clamped present, if_pos accepted]
  · rw [Cursor.position_clamped, Cursor.position_clamped]
    omega

/-- A matcher is stuck where there is no unit that it accepts. -/
theorem stuck_unit {position : Nat}
    (refused : ∀ unit, source[position]? = some unit → matcher.test unit = false) :
    (Parser.unit matcher).Stuck (Cursor.clamped source position) := by
  right; left
  cases present : source[position]? with
  | none => exact ⟨_, matcher.parse_clamped_of_le (List.getElem?_eq_none_iff.1 present)⟩
  | some unit =>
    have stops : ¬ matcher.test unit = true := Bool.eq_false_iff.1 (refused unit present)
    exact ⟨_, (matcher.parse_clamped present).trans (if_neg stops)⟩

/-- A matcher that skips takes the units that it accepts, up to the first that it does not. -/
theorem skip_unit (matcher : Matcher kind) (source : List (CodeUnit kind)) (position : Nat) :
    (Parser.unit matcher).skip (Cursor.clamped source position) =
      .clamped source (position + matcher.leading (source.drop position)) := by
  -- The induction is on the units that are left, so that each step takes the first of them.
  induction rest : source.drop position generalizing position with
  | nil =>
    have none : source[position]? = none := by
      rw [← List.head?_drop, rest]
      rfl
    exact skip_of_stuck (stuck_unit fun unit present => by simp [none] at present)
  | cons unit later ih =>
    have present : source[position]? = some unit := by
      rw [← List.head?_drop, rest]
      rfl
    rw [Matcher.leading_cons]
    split
    · rename_i accepted
      have following : source.drop (position + 1) = later := by
        rw [← List.drop_drop, rest]
        rfl
      rw [skip_of_takes (takes_unit present accepted), ih (position + 1) following]
      congr 1
      omega
    · rename_i refused
      refine skip_of_stuck (stuck_unit fun other here => ?_)
      cases present.symm.trans here
      exact Bool.eq_false_iff.2 refused

end Parser

end Charwise
