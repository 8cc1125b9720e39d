import Charwise.Proofs.ClassLaws
import Charwise.Proofs.LeadingRun

/-!
# Skippers within others

A skipper is within another one if the other takes every step that it takes. The wider one then
absorbs the narrower one (`Parser.StepsWithin.absorbs`): it goes at least as far, and next to it the
narrower one makes no difference, whether it runs before or after. A matcher is within another one
if the other accepts every unit that it accepts, and so blanks are absorbed by spaces in every
encoding (`Encoding.test_space_of_blank`).
-/

namespace Charwise

namespace Parser

variable {kind : UnitKind} {source : List (CodeUnit kind)} {c next : Cursor source}
variable {narrow wide : Parser kind}

/-- A skipper is within another one if the other takes every step that it takes. -/
def StepsWithin (narrow wide : Parser kind) : Prop :=
  ∀ (source : List (CodeUnit kind)) (c next : Cursor source),
    narrow.Takes c next → wide.Takes c next

/-- A skipper absorbs another one if the other makes no difference next to it. -/
structure Absorbs (wide narrow : Parser kind) : Prop where
  /-- From every place, the absorbed skipper goes no further. -/
  position_le : ∀ {source : List (CodeUnit kind)} (c : Cursor source),
    (narrow.skip c).position ≤ (wide.skip c).position
  /-- Behind the absorbed skipper, the other one stops where it stops without it. -/
  skip_before : ∀ {source : List (CodeUnit kind)} (c : Cursor source),
    wide.skip (narrow.skip c) = wide.skip c
  /-- The absorbed skipper stays where the other one stops. -/
  skip_after : ∀ {source : List (CodeUnit kind)} (c : Cursor source),
    narrow.skip (wide.skip c) = wide.skip c

/-- Where the wider skipper is stuck, the narrower one is. -/
theorem StepsWithin.stuck (within : narrow.StepsWithin wide) (stuck : wide.Stuck c) :
    narrow.Stuck c := by
  obtain rests | ⟨next, step⟩ := narrow.stuck_or_takes c
  · exact rests
  · exact absurd (within source c next step) stuck.not_takes

/-- The wider skipper goes on from where the narrower one stops to where it stops by itself. -/
theorem StepsWithin.skip_before (within : narrow.StepsWithin wide) (c : Cursor source) :
    wide.skip (narrow.skip c) = wide.skip c := by
  obtain ⟨later, rests⟩ := wide.steps_skip (narrow.skip c)
  have early : Relation.ReflTransGen wide.Takes c (narrow.skip c) :=
    Relation.ReflTransGen.mono (within source) _ _ (narrow.steps_skip c).1
  exact (skip_eq_of_steps (early.trans later) rests).symm

/-- A skipper absorbs every skipper within it. -/
theorem StepsWithin.absorbs (within : narrow.StepsWithin wide) : wide.Absorbs narrow := by
  constructor
  · intro source c
    rw [← within.skip_before c]
    exact wide.position_le_skip (narrow.skip c)
  · exact within.skip_before
  · intro source c
    have rests : wide.Stuck (wide.skip c) := (wide.steps_skip c).2
    exact skip_of_stuck (within.stuck rests)

/-- A matcher is within every matcher that accepts the units that it accepts. -/
theorem stepsWithin_unit {narrow wide : Matcher kind}
    (accepted : ∀ unit, narrow.test unit = true → wide.test unit = true) :
    (Parser.unit narrow).StepsWithin (.unit wide) := by
  intro source c next step
  obtain ⟨more, found, success, further⟩ := step
  obtain ⟨one, present, accepts, _, rfl⟩ := Matcher.parse_eq_ok.1 success
  have matched := Matcher.parse_eq_ok.2 ⟨one, present, accepted one accepts, rfl, rfl⟩
  exact ⟨more, .unit one, matched, further⟩

/-- A skipper in front of one that absorbs it makes no difference to what follows. -/
theorem Absorbs.parseAt_before (absorbs : wide.Absorbs narrow) (subject : Parser kind)
    (c : Cursor source) :
    (skipping (skipping subject wide) narrow).parseAt c = (skipping subject wide).parseAt c := by
  rw [parseAt_skipping, parseAt_skipping, parseAt_skipping, absorbs.skip_before]

/-- A skipper behind one that absorbs it makes no difference to what follows. -/
theorem Absorbs.parseAt_after (absorbs : wide.Absorbs narrow) (subject : Parser kind)
    (c : Cursor source) :
    (skipping (skipping subject narrow) wide).parseAt c = (skipping subject wide).parseAt c := by
  rw [parseAt_skipping, parseAt_skipping, parseAt_skipping, absorbs.skip_after]

end Parser

/-- In every encoding, spaces are accepted where blanks are. -/
theorem Encoding.test_space_of_blank (e : Encoding) (unit : e.Unit)
    (blank : (Matcher.ofClass (e.ofBasic .blank)).test unit = true) :
    (Matcher.ofClass (e.ofBasic .space)).test unit = true := by
  let law (member : BasicClass → Bool) : Prop := member .blank = true → member .space = true
  have holds : law fun c => e.isBasic c unit :=
    isBasic_induction (fun code => (Ascii.lawful_holds code).space_of_blank)
      (fun code => (Latin1.lawful_holds code).space_of_blank)
      (fun data one => (data.lawful_basic one).space_of_blank)
      BasicClass.lawful_none.space_of_blank e unit
  exact holds blank

namespace Parser

/-- A skipper that accepts all units that another one accepts absorbs it: from every place it goes
at least as far, and where both run, in either order, they stop where it stops alone. In every
encoding and under every locale, spaces absorb blanks, and so it makes no difference to any parser
whether blanks are skipped before or after spaces. -/
theorem wider_skipper_absorbs :
    (∀ {kind : UnitKind} {narrow wide : Matcher kind},
      (∀ unit, narrow.test unit = true → wide.test unit = true) →
        (Parser.unit wide).Absorbs (.unit narrow)) ∧
      ∀ e : Encoding,
        let blanks : Parser e.kind := .unit (.ofClass (e.ofBasic .blank))
        let spaces : Parser e.kind := .unit (.ofClass (e.ofBasic .space))
        spaces.Absorbs blanks ∧
          ∀ (subject : Parser e.kind) {source : List e.Unit} (c : Cursor source),
            (skipping (skipping subject spaces) blanks).parseAt c =
                (skipping subject spaces).parseAt c ∧
              (skipping (skipping subject blanks) spaces).parseAt c =
                (skipping subject spaces).parseAt c := by
  constructor
  · intro kind narrow wide accepted
    exact (stepsWithin_unit accepted).absorbs
  · intro e blanks spaces
    have absorbs : spaces.Absorbs blanks := (stepsWithin_unit e.test_space_of_blank).absorbs
    exact ⟨absorbs, fun subject _ c =>
      ⟨absorbs.parseAt_before subject c, absorbs.parseAt_after subject c⟩⟩

/-- In front of a letter stand a tab, a line feed and a tab. Skipping tabs stops behind the first of
them, and skipping spaces goes on from there to the letter, where skipping tabs stays. -/
theorem wider_skipper_absorbs_tab :
    let tab : CodeUnit .octet := ⟨0x09, by decide⟩
    let source : List (CodeUnit .octet) := [tab, .newline, tab, ⟨0x78, by decide⟩]
    let narrow : Matcher .octet := .literal tab
    let wide : Matcher .octet := .ofClass (Encoding.ascii.ofBasic .space)
    let tabs : Cursor source := (Parser.unit narrow).skip (.start source)
    let spaces : Cursor source := (Parser.unit wide).skip (.start source)
    (∀ unit, narrow.test unit = true → wide.test unit = true) ∧
      tabs = .inside 1 ∧ spaces = .inside 3 ∧ tabs.position ≤ spaces.position ∧
      (Parser.unit wide).skip tabs = spaces ∧ (Parser.unit narrow).skip spaces = spaces := by
  intro tab source narrow wide tabs spaces
  have accepted : ∀ unit, narrow.test unit = true → wide.test unit = true := by
    intro unit same
    cases eq_of_beq same
    rfl
  have absorbs := wider_skipper_absorbs.1 accepted
  exact ⟨accepted, skip_unit narrow source 0, skip_unit wide source 0, absorbs.position_le _,
    absorbs.skip_before _, absorbs.skip_after _⟩

end Parser

end Charwise
