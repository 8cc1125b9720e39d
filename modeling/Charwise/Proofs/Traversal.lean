import Charwise.Proofs.Conservation
import Mathlib.Data.List.Iterate

/-!
# Going through a source

A source can be gone through in two ways. Reading and stepping, over and over, gives the remaining
units in order and then nothing but the error of the end, where stepping stays
(`Cursor.map_value_iterate`). Steps that must not lead to the end go as far as the last unit and
fail there, and they fail in another way at the end itself (`Cursor.attempts_inside`,
`Cursor.attempts_of_atEnd`).
-/

namespace Charwise.Cursor

variable {kind : UnitKind} {source : List (CodeUnit kind)} {c led : Cursor source}

/-! ## Reading and stepping -/

/-- The unit at a place is the one that is read there. -/
theorem value_of_getElem? {unit : CodeUnit kind} (present : source[c.position]? = some unit) :
    c.value = .ok unit := by
  rw [value, unit?_eq_getElem?, present]

/-- Stepping a number of times adds that number to a position, and stays at the end. -/
theorem iterate_next_clamped (position count : Nat) :
    next^[count] (clamped source position) = clamped source (position + count) := by
  induction count with
  | zero => rfl
  | succ count ih => rw [Function.iterate_succ_apply', ih, next_clamped, Nat.add_assoc]

/-- Reading and stepping gives the remaining units in order, and then the error of the end. -/
theorem map_value_iterate (c : Cursor source) (count : Nat) :
    (List.iterate next c count).map value =
      (c.remaining.take count).map .ok ++
        List.replicate (count - c.remaining.length) (.error (failAtEnd source .noUnitAtEnd)) := by
  induction count generalizing c with
  | zero => simp
  | succ count ih =>
    rw [List.iterate, List.map_cons, ih c.next]
    cases present : source[c.position]? with
    | none =>
      have outside : source.length ≤ c.position := List.getElem?_eq_none_iff.1 present
      have nothing : c.next.remaining = [] := by
        rw [remaining_next, remaining_eq_nil present, List.tail_nil]
      rw [value_of_le outside, nothing, remaining_eq_nil present]
      simp [List.replicate_succ]
    | some unit =>
      rw [value_of_getElem? present, remaining_eq_cons present]
      simp

/-! ## Steps that must not lead to the end -/

/-- What comes of a number of steps that must not lead to the end. Each one starts where the one
before it led to, or stayed if that one failed. -/
def attempts : Cursor source → Nat → List (Except (ParseError kind) (Cursor source))
  | _, 0 => []
  | c, count + 1 =>
    match c.tryNext with
    | .ok next => .ok next :: next.attempts count
    | .error error => .error error :: c.attempts count

/-- At the end, there is no step that could be tried. -/
theorem tryNext_of_atEnd (done : c.atEnd = true) :
    c.tryNext = .error (failAtEnd source .alreadyAtEnd) :=
  if_pos done

/-- In front of a unit with another one behind it, a step leads to that one. -/
theorem tryNext_inside {index : Nat} (more : index + 1 < source.length) :
    (inside index : Cursor source).tryNext = .ok (.inside (index + 1)) := by
  have further : (inside index : Cursor source).next = .inside (index + 1) := if_pos more
  rw [tryNext, further]
  rfl

/-- In front of the last unit, a step would lead to the end. -/
theorem tryNext_last {index : Nat} (last : source.length ≤ index + 1) :
    (inside index : Cursor source).tryNext = .error (failAtEnd source .unexpectedEnd) := by
  have further : (inside index : Cursor source).next = .ended := if_neg (Nat.not_lt_of_le last)
  rw [tryNext, further]
  rfl

/-- A step that succeeds does not lead to the end. -/
theorem atEnd_of_tryNext (success : c.tryNext = .ok led) : led.atEnd = false := by
  rw [eq_next_of_tryNext success, Bool.eq_false_iff]
  intro ended
  rw [tryNext, if_pos ended] at success
  split at success <;> contradiction

/-- A step that fails is tried again from the same place, and so fails every time. -/
theorem attempts_of_error {error : ParseError kind} (failed : c.tryNext = .error error)
    (count : Nat) : c.attempts count = List.replicate count (.error error) := by
  induction count with
  | zero => rfl
  | succ count ih => rw [attempts, failed, List.replicate_succ, ← ih]

/-- At the end, all steps fail alike. -/
theorem attempts_of_atEnd (done : c.atEnd = true) (count : Nat) :
    c.attempts count = List.replicate count (.error (failAtEnd source .alreadyAtEnd)) :=
  attempts_of_error (tryNext_of_atEnd done) count

/-- In front of a unit, steps succeed as long as there is a unit to go to, each leading to the next
one. All further ones are tried in front of the last unit, and fail. -/
theorem attempts_inside {index : Nat} (here : index < source.length) (count : Nat) :
    (inside index : Cursor source).attempts count =
      (List.range' (index + 1) (min count (source.length - 1 - index))).map
          (fun further => .ok (.inside further)) ++
        List.replicate (count - (source.length - 1 - index))
          (.error (failAtEnd source .unexpectedEnd)) := by
  induction count generalizing index with
  | zero => simp [attempts]
  | succ count ih =>
    by_cases more : index + 1 < source.length
    · have fewer : source.length - 1 - index = (source.length - 1 - (index + 1)) + 1 := by omega
      rw [attempts, tryNext_inside more, fewer, Nat.succ_min_succ, List.range'_succ,
        Nat.add_sub_add_right]
      exact congrArg (List.cons _) (ih more)
    · have none : source.length - 1 - index = 0 := by omega
      have failed := tryNext_last (Nat.le_of_not_lt more)
      rw [attempts_of_error failed, none, Nat.min_zero, List.range'_zero, Nat.sub_zero]
      rfl

/-- Going through a source from its start. Reading and stepping gives its units in order, and then
the error of having no unit at the end. The end is reached after as many steps as there are units,
and no further step leaves it. Steps that must not lead to the end stop in front of each unit of a
source that has any, once and in order, and from the last one on each of them fails, with the error
of meeting the end there. None of them ever leads to the end, and at the end itself each of them
fails with an error of its own. -/
theorem traversal_exact (source : List (CodeUnit kind)) :
    (∀ count, (List.iterate next (start source) count).map value =
        (source.take count).map .ok ++
          List.replicate (count - source.length) (.error ⟨.noUnitAtEnd, source, source.length⟩)) ∧
      (∀ count, (next^[count] (start source)).position = min count source.length ∧
        ((next^[count] (start source)).atEnd = true ↔ source.length ≤ count)) ∧
      (source ≠ [] → ∀ count, (start source).attempts count =
        (List.range' 1 (min count (source.length - 1))).map (fun index => .ok (.inside index)) ++
          List.replicate (count - (source.length - 1))
            (.error ⟨.unexpectedEnd, source, source.length⟩)) ∧
      (∀ c led : Cursor source, c.tryNext = .ok led → led.atEnd = false) ∧
      ∀ c : Cursor source, c.atEnd = true → ∀ count, c.attempts count =
        List.replicate count (.error ⟨.alreadyAtEnd, source, source.length⟩) := by
  refine ⟨fun count => ?_, fun count => ?_, fun filled count => ?_,
    fun c led => atEnd_of_tryNext, fun c => attempts_of_atEnd⟩
  · have whole : (start source).remaining = source := by
      rw [remaining, position_start, List.drop_zero]
    rw [map_value_iterate, whole]
    rfl
  · rw [start, iterate_next_clamped, Nat.zero_add, position_clamped, atEnd_clamped,
      decide_eq_true_iff]
    exact ⟨rfl, Iff.rfl⟩
  · have here : 0 < source.length := List.length_pos_iff.2 filled
    have first : start source = .inside 0 := if_pos here
    rw [first]
    exact attempts_inside here count

/-- A source of two units. Of three steps that must not lead to the end the first one leads to the
second unit, which is not the end, and the others fail there. At the end, such a step fails with the
other error. -/
theorem traversal_exact_pair :
    let source : List (CodeUnit .octet) := [⟨0x61, by decide⟩, ⟨0x62, by decide⟩]
    let failed : Except (ParseError .octet) (Cursor source) :=
      .error ⟨.unexpectedEnd, source, 2⟩
    source ≠ [] ∧ (start source).attempts 3 = [.ok (.inside 1), failed, failed] ∧
      (start source).tryNext = .ok (.inside 1) ∧ (inside 1 : Cursor source).atEnd = false ∧
      (ended : Cursor source).atEnd = true ∧
      (ended : Cursor source).attempts 1 = [.error ⟨.alreadyAtEnd, source, 2⟩] := by
  intro source failed
  obtain ⟨_, _, forward, inner, behind⟩ := traversal_exact source
  have filled : source ≠ [] := List.cons_ne_nil _ _
  have led : (start source).tryNext = .ok (.inside 1) := rfl
  exact ⟨filled, forward filled 3, led, inner _ _ led, rfl, behind .ended rfl 1⟩

end Charwise.Cursor
