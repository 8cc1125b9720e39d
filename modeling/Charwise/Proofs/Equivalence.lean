import Charwise.Proofs.Simulation

/-!
# Equivalent parsers

Two parsers are equivalent if from every place they succeed at the same place, or else fail with
errors that differ at most in the reason. How far their attributes must agree is left open here: it
is given by a relation of attributes. Equivalence is simulation over one and the same source
(`Parser.equivalentUpTo_iff_simulates`), so each form of parser keeps it, and skipping leads
equivalent skippers to the same place.
-/

namespace Charwise

variable {kind : UnitKind} {source : List (CodeUnit kind)}

/-- The variants of errors: what went wrong, without the reason of a refusal. -/
inductive ErrorVariant where
  | unexpectedEnd
  | alreadyAtEnd
  | noUnitAtEnd
  | refused
  | trailingInput
  deriving DecidableEq

/-- The variant of a cause. -/
def ErrorCause.variant : ErrorCause → ErrorVariant
  | .unexpectedEnd => .unexpectedEnd
  | .alreadyAtEnd => .alreadyAtEnd
  | .noUnitAtEnd => .noUnitAtEnd
  | .refused _ => .refused
  | .trailingInput => .trailingInput

/-- Two errors are alike if they have the same variant and the same position. -/
structure ParseError.Alike (a b : ParseError kind) : Prop where
  /-- The same went wrong. -/
  variant_eq : a.cause.variant = b.cause.variant
  /-- It went wrong at the same position. -/
  position_eq : a.location.position = b.location.position

/-- Every error is like itself. -/
theorem ParseError.Alike.refl (error : ParseError kind) : error.Alike error := ⟨rfl, rfl⟩

/-- Two runs agree if both succeed with results that are related, or both fail with errors that are
alike, or both panic. -/
def Agree {α : Type} (related : α → α → Prop) (a b : Ending (ParseError kind) α) : Prop :=
  Parallel ParseError.Alike related a b

/-- Two outcomes agree if their places are the same and their attributes are related, or if their
errors are alike, or if both are panics. -/
def RunOutcome.AgreeUpTo (attributes : Attribute kind → Attribute kind → Prop)
    (a b : RunOutcome source) : Prop :=
  Agree (fun a b => attributes a.1 b.1 ∧ a.2 = b.2) a b

/-- A relation of attributes that parsing keeps. -/
structure Attribute.Kept (attributes : Attribute kind → Attribute kind → Prop) : Prop where
  /-- Every attribute is related to itself. -/
  refl : ∀ found, attributes found found
  /-- Converting related attributes leads to related ones. -/
  apply : ∀ (conversion : Conversion kind) {a b : Attribute kind}, attributes a b →
    attributes (conversion.apply a) (conversion.apply b)

/-- Parsing keeps the relation of all attributes. -/
theorem Attribute.kept_all : Attribute.Kept fun _ _ : Attribute kind => True :=
  ⟨fun _ => trivial, fun _ _ _ _ => trivial⟩

/-- Parsing keeps the equality of attributes. -/
theorem Attribute.kept_eq : Attribute.Kept fun a b : Attribute kind => a = b :=
  ⟨fun _ => rfl, fun conversion _ _ same => congrArg conversion.apply same⟩

/-- A source is compared with itself: places are the same, attributes are related and errors are
alike. -/
def Comparison.itself {attributes : Attribute kind → Attribute kind → Prop}
    (kept : Attribute.Kept attributes) (source : List (CodeUnit kind)) :
    Comparison source source where
  places c d := c = d ∧ c.Sound
  attributes := attributes
  errors := ParseError.Alike
  atEnd_eq := by
    rintro c _ ⟨rfl, _⟩
    rfl
  further_iff := by
    rintro c _ next _ ⟨rfl, _⟩ ⟨rfl, _⟩
    exact Iff.rfl
  omitted := by
    rintro _ _ rfl rfl
    exact kept.refl .omitted

/-- Outcomes that correspond over the same source agree. -/
theorem Comparison.Outcomes.agreeUpTo {attributes : Attribute kind → Attribute kind → Prop}
    {kept : Attribute.Kept attributes} {a b : RunOutcome source}
    (outcomes : (Comparison.itself kept source).Outcomes a b) :
    RunOutcome.AgreeUpTo attributes a b :=
  outcomes.imp fun related => ⟨related.1, related.2.1⟩

namespace Parser

/-- Two parsers are equivalent up to a relation of attributes if from every place in every source
their outcomes agree. -/
def EquivalentUpTo (attributes : Attribute kind → Attribute kind → Prop) (p q : Parser kind) :
    Prop :=
  ∀ (source : List (CodeUnit kind)) (position : Nat),
    RunOutcome.AgreeUpTo attributes (.ofExcept (p.parseAt (Cursor.clamped source position)))
      (.ofExcept (q.parseAt (Cursor.clamped source position)))

/-- Two parsers are equivalent if they succeed at the same places and fail with errors that are
alike, whatever they report. -/
def Equivalent (p q : Parser kind) : Prop := EquivalentUpTo (fun _ _ => True) p q

/-- Two parsers are indistinguishable if they are equivalent and report the same. -/
def Indistinguishable (p q : Parser kind) : Prop := EquivalentUpTo (fun a b => a = b) p q

variable {attributes : Attribute kind → Attribute kind → Prop} {p q : Parser kind}

/-- Parsers are equivalent exactly if they simulate each other over every source compared with
itself: the sound places are those that positions lead to, and parsers stay among them. -/
theorem equivalentUpTo_iff_simulates (kept : Attribute.Kept attributes) :
    EquivalentUpTo attributes p q ↔
      ∀ source : List (CodeUnit kind), (Comparison.itself kept source).Simulates p q := by
  constructor
  · rintro equivalent source c _ ⟨rfl, sound⟩
    have agree := equivalent source c.position
    rw [sound.clamped_position] at agree
    generalize one : Ending.ofExcept (p.parseAt c) = ranP at agree ⊢
    generalize Ending.ofExcept (q.parseAt c) = ranQ at agree ⊢
    cases agree with
    | ok related =>
      have stays := p.sound_of_parseAt sound (Ending.ofExcept_eq_ok.1 one)
      exact .ok ⟨related.1, related.2, stays⟩
    | error related => exact .error related
    | panicked => exact .panicked
  · intro simulates source position
    exact (simulates source ⟨rfl, Cursor.sound_clamped position⟩).agreeUpTo

/-- Every parser is equivalent to itself. -/
theorem EquivalentUpTo.refl (kept : Attribute.Kept attributes) (p : Parser kind) :
    EquivalentUpTo attributes p p := by
  intro source position
  cases p.parseAt (Cursor.clamped source position) with
  | error error => exact .error (.refl error)
  | ok success => exact .ok ⟨kept.refl _, rfl⟩

/-- Matchers that accept the same units are indistinguishable as parsers. -/
theorem indistinguishable_unit {one two : Matcher kind}
    (same : ∀ unit, one.test unit = two.test unit) :
    Indistinguishable (unit one) (unit two) := by
  intro source position
  rw [parseAt_unit, parseAt_unit]
  cases present : source[position]? with
  | none =>
    have outside := List.getElem?_eq_none_iff.1 present
    rw [one.parse_clamped_of_le outside, two.parse_clamped_of_le outside]
    exact .error (.refl _)
  | some found =>
    rw [one.parse_clamped present, two.parse_clamped present, same found]
    split
    · exact .ok ⟨rfl, rfl⟩
    · exact .error ⟨rfl, rfl⟩

/-- A parser is equivalent to itself without its attribute. -/
theorem equivalent_omitting (p : Parser kind) : Equivalent p (omitting p) := by
  intro source position
  cases ran : p.parseAt (Cursor.clamped source position) with
  | error error =>
    rw [omitting_eq_error.2 ran]
    exact .error (.refl error)
  | ok success =>
    rw [omitting_eq_ok.2 ⟨rfl, success.1, ran⟩]
    exact .ok ⟨trivial, rfl⟩

end Parser

end Charwise
