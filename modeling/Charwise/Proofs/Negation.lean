import Charwise.Matcher.Layers
import Charwise.Parser.Forms

/-!
# Negation

A matcher and its negation divide the units between them. In front of a unit exactly one of the two
goes over it, and at the end of the source both fail: a negation does not make a match of the end
(`Matcher.divides_negate`). This holds below any number of negations, however they were put on and
taken off (`Matcher.negation_by_layers`).
-/

namespace Charwise.Matcher

variable {kind : UnitKind} {p q : Matcher kind}

/-- Two matchers divide the units. In front of a unit one of them goes over it and reports it, and
the other one refuses it there; at the end of a source neither has a unit to read. -/
structure Divides (p q : Matcher kind) : Prop where
  /-- In front of a unit, exactly one of the two matchers succeeds. -/
  inside : ∀ {source : List (CodeUnit kind)} {position : Nat} {unit : CodeUnit kind},
    source[position]? = some unit →
      (p.parse (Cursor.clamped source position) = .ok (.unit unit, .clamped source (position + 1)) ∧
          q.parse (Cursor.clamped source position) =
            .error ⟨q.refusal unit, source, position⟩) ∨
        (p.parse (Cursor.clamped source position) = .error ⟨p.refusal unit, source, position⟩ ∧
          q.parse (Cursor.clamped source position) =
            .ok (.unit unit, .clamped source (position + 1)))
  /-- At the end, both matchers fail. -/
  ended : ∀ {source : List (CodeUnit kind)} {position : Nat}, source.length ≤ position →
    p.parse (Cursor.clamped source position) = .error ⟨.noUnitAtEnd, source, source.length⟩ ∧
      q.parse (Cursor.clamped source position) = .error ⟨.noUnitAtEnd, source, source.length⟩

/-- Matchers with opposite answers divide the units. -/
theorem divides_of_test (opposite : ∀ unit, q.test unit = !p.test unit) : p.Divides q := by
  constructor
  · intro source position unit present
    have ranP := p.parse_clamped present
    have ranQ := q.parse_clamped present
    cases test : p.test unit with
    | true =>
      have refused : q.test unit = false := by rw [opposite, test, Bool.not_true]
      rw [test, if_pos rfl] at ranP
      rw [refused, if_neg Bool.false_ne_true] at ranQ
      exact Or.inl ⟨ranP, ranQ⟩
    | false =>
      have accepted : q.test unit = true := by rw [opposite, test, Bool.not_false]
      rw [test, if_neg Bool.false_ne_true] at ranP
      rw [accepted, if_pos rfl] at ranQ
      exact Or.inr ⟨ranP, ranQ⟩
  · intro source position outside
    exact ⟨p.parse_clamped_of_le outside, q.parse_clamped_of_le outside⟩

/-- A matcher and its negation divide the units. -/
theorem divides_negate (matcher : Matcher kind) : matcher.Divides matcher.negate :=
  divides_of_test matcher.test_negate

/-- Negations may be put on a matcher and taken off in any order. After an even number of changes
the answers are those of the matcher, and after an odd number the opposite ones. The number of
negations that are left is even or odd as the number of changes is, and each of those that are left
is spoken of in the description. What comes of the matcher divides the units with its negation. -/
theorem negation_by_layers (base : Matcher kind) (bare : base.depth = 0)
    (changes : List LayerChange) (changed : Matcher kind)
    (applied : base.relayer? changes = some changed) :
    (∀ unit, changed.test unit =
        if changes.length % 2 = 0 then base.test unit else !base.test unit) ∧
      changed.depth % 2 = changes.length % 2 ∧
      changed.text = String.join (List.replicate changed.depth "not ") ++ base.text ∧
      changed.Divides changed.negate := by
  have bottom : (base.layered 0).relayer? changes = some changed := applied
  obtain ⟨left, rfl, parity⟩ := layered_of_relayer? bare bottom
  rw [Nat.zero_add] at parity
  have deep : (base.layered left).depth = left := by
    rw [depth_layered, bare, Nat.zero_add]
  refine ⟨fun unit => ?_, ?_, ?_, divides_negate _⟩
  · rw [test_layered, parity]
  · rw [deep, parity]
  · rw [deep, text_layered]

/-- Negations on a literal: negating puts one on, and later takes one off again. Two are left after
six changes, and the answers are those of the literal. -/
theorem negation_by_layers_literal :
    let letter : CodeUnit .octet := ⟨0x78, by decide⟩
    let base : Matcher .octet := .literal letter
    let changes : List LayerChange := [.negate, .wrap, .negate, .wrap, .wrap, .unwrap]
    let changed : Matcher .octet := .negated (.negated base)
    base.depth = 0 ∧ base.relayer? changes = some changed ∧
      (∀ unit, changed.test unit = base.test unit) ∧ changed.text = "not not 'x'" ∧
      changed.Divides changed.negate := by
  intro letter base changes changed
  have applied : base.relayer? changes = some changed := rfl
  obtain ⟨test, _, text, divides⟩ := negation_by_layers base rfl changes changed applied
  have even : changes.length % 2 = 0 := by simp [changes]
  refine ⟨rfl, applied, fun unit => (test unit).trans (if_pos even), ?_, divides⟩
  rw [text]
  rfl

end Charwise.Matcher
