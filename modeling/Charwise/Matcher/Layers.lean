import Charwise.Matcher

/-!
# Layers of negation

A matcher may lie below any number of negations. They are put on and taken off one at a time, and
whether negating does the one or the other depends on what is there. However this is done, what
comes of a matcher is the same matcher below some number of negations, and each change makes an even
number odd and an odd number even (`Matcher.layered_of_relayer?`).
-/

namespace Charwise.Matcher

variable {kind : UnitKind}

/-- A change of the negations on a matcher. -/
inductive LayerChange where
  /-- Take the topmost negation off, or put one on if there is none. -/
  | negate
  /-- Put a negation on, whatever is there. -/
  | wrap
  /-- Take the topmost negation off, which must be there. -/
  | unwrap
  deriving DecidableEq

/-- Change the negations on a matcher, if the change applies. -/
def LayerChange.on? (change : LayerChange) (matcher : Matcher kind) : Option (Matcher kind) :=
  match change with
  | .negate => some matcher.negate
  | .wrap => some (.negated matcher)
  | .unwrap => matcher.subject?

/-- Change the negations on a matcher several times, if each change applies when its turn comes. -/
def relayer? (matcher : Matcher kind) : List LayerChange → Option (Matcher kind)
  | [] => some matcher
  | change :: later => (change.on? matcher).bind fun changed => changed.relayer? later

/-- The number of negations that a matcher lies below. -/
def depth : Matcher kind → Nat
  | negated subject => subject.depth + 1
  | _ => 0

/-- A matcher with a number of negations put on it. -/
def layered (matcher : Matcher kind) : Nat → Matcher kind
  | 0 => matcher
  | layers + 1 => negated (matcher.layered layers)

/-- Each negation that is put on a matcher adds to its depth. -/
theorem depth_layered (matcher : Matcher kind) (layers : Nat) :
    (matcher.layered layers).depth = matcher.depth + layers := by
  induction layers with
  | zero => rfl
  | succ layers ih => rw [layered, depth, ih, Nat.add_assoc]

/-- Negations cancel in pairs: an even number of them keeps the answers of a matcher, and an odd
number inverts them. -/
theorem test_layered (matcher : Matcher kind) (layers : Nat) (unit : CodeUnit kind) :
    (matcher.layered layers).test unit =
      if layers % 2 = 0 then matcher.test unit else !matcher.test unit := by
  induction layers with
  | zero => rfl
  | succ layers ih =>
    rw [layered, test, ih]
    by_cases even : layers % 2 = 0
    · have odd : ¬ (layers + 1) % 2 = 0 := by omega
      rw [if_pos even, if_neg odd]
    · have next : (layers + 1) % 2 = 0 := by omega
      rw [if_neg even, if_pos next, Bool.not_not]

/-- Every negation is spoken of in the description, those that cancel too. -/
theorem text_layered (matcher : Matcher kind) (layers : Nat) :
    (matcher.layered layers).text =
      String.join (List.replicate layers "not ") ++ matcher.text := by
  induction layers with
  | zero => rw [layered, List.replicate_zero, String.join_nil, String.empty_append]
  | succ layers ih =>
    rw [layered, text, ih, List.replicate_succ, String.join_cons, String.append_assoc]

/-- Below a matcher that is no negation itself, a change puts one negation on or takes one off. -/
theorem on?_layered {base changed : Matcher kind} (bare : base.depth = 0) {layers : Nat}
    {change : LayerChange} (applied : change.on? (base.layered layers) = some changed) :
    ∃ left, changed = base.layered left ∧ (left = layers + 1 ∨ left + 1 = layers) := by
  cases layers with
  | zero =>
    -- Without a negation to take off, negating puts one on and unwrapping does not apply.
    have puts : base.negate = base.layered 1 := by
      cases base with
      | negated subject => contradiction
      | any | literal | range | set | classified => rfl
    have nothing : base.subject? = none := by
      cases base with
      | negated subject => contradiction
      | any | literal | range | set | classified => rfl
    cases change with
    | negate => exact ⟨1, (Option.some.inj applied).symm.trans puts, Or.inl rfl⟩
    | wrap => exact ⟨1, (Option.some.inj applied).symm, Or.inl rfl⟩
    | unwrap => exact absurd (nothing.symm.trans applied) (by simp)
  | succ left =>
    cases change with
    | negate => exact ⟨left, (Option.some.inj applied).symm, Or.inr rfl⟩
    | wrap => exact ⟨left + 2, (Option.some.inj applied).symm, Or.inl rfl⟩
    | unwrap => exact ⟨left, (Option.some.inj applied).symm, Or.inr rfl⟩

/-- Changes of the negations lead to the same matcher below another number of negations, which is as
even or odd as the number of changes. -/
theorem layered_of_relayer? {base changed : Matcher kind} (bare : base.depth = 0)
    {layers : Nat} {changes : List LayerChange}
    (applied : (base.layered layers).relayer? changes = some changed) :
    ∃ left, changed = base.layered left ∧ left % 2 = (layers + changes.length) % 2 := by
  induction changes generalizing layers with
  | nil => exact ⟨layers, (Option.some.inj applied).symm, rfl⟩
  | cons change later ih =>
    obtain ⟨middle, first, rest⟩ := Option.bind_eq_some_iff.1 applied
    obtain ⟨between, rfl, moved⟩ := on?_layered bare first
    obtain ⟨left, same, parity⟩ := ih rest
    refine ⟨left, same, ?_⟩
    rw [List.length_cons]
    omega

end Charwise.Matcher
