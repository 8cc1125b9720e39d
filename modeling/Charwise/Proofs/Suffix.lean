import Charwise.Parser.Parts
import Charwise.Proofs.LeadingRun
import Charwise.Proofs.Simulation

/-!
# Suffixes of a source

What is in front of a place has no influence on a parser that starts there. The run over a source
from a place on is the run over the units behind that place, with all positions moved by the number
of units in front of it (`Parser.parseAt_suffix`). Only a parser that goes back to the start of its
source can tell the two apart.
-/

namespace Charwise

variable {kind : UnitKind} {source : List (CodeUnit kind)} {front : Nat}

/-- A source is compared with its own units behind a number of front units: positions differ by this
number, and all else is the same. -/
def Comparison.suffix (within : front ≤ source.length) :
    Comparison source (source.drop front) where
  places c d := c.Sound ∧ d.Sound ∧ c.position = d.position + front
  attributes a b := a = b
  errors a b := a.cause = b.cause ∧ a.location.position = b.location.position + front
  atEnd_eq := by
    rintro c d ⟨sound, behind, moved⟩
    rw [Bool.eq_iff_iff, sound.atEnd_iff, behind.atEnd_iff, List.length_drop, moved,
      @eq_comm _ d.position, Nat.sub_eq_iff_eq_add within]
    exact eq_comm
  further_iff := by
    rintro c d next last ⟨_, _, moved⟩ ⟨_, _, later⟩
    rw [moved, later, Nat.add_lt_add_iff_right]
  omitted one two := one.trans two.symm

variable {within : front ≤ source.length} {c : Cursor source} {d : Cursor (source.drop front)}

/-- At corresponding places there is the same unit. -/
theorem getElem?_suffix (places : (Comparison.suffix within).places c d) :
    source[c.position]? = (source.drop front)[d.position]? := by
  obtain ⟨_, _, moved⟩ := places
  rw [List.getElem?_drop, moved, Nat.add_comm]

/-- The places behind the units at corresponding places correspond. -/
theorem places_next_suffix (places : (Comparison.suffix within).places c d)
    (inside : c.position < source.length) :
    (Comparison.suffix within).places c.next d.next := by
  obtain ⟨_, _, moved⟩ := places
  have behind : d.position < (source.drop front).length := by
    rw [List.length_drop]
    omega
  refine ⟨c.sound_next, d.sound_next, ?_⟩
  rw [Cursor.position_next_of_lt inside, Cursor.position_next_of_lt behind]
  omega

/-- The start of the suffix corresponds to the place behind the front units. -/
theorem places_start_suffix (within : front ≤ source.length) :
    (Comparison.suffix within).places (.clamped source front) (.start (source.drop front)) := by
  refine ⟨Cursor.sound_clamped front, Cursor.sound_start, ?_⟩
  rw [Cursor.position_clamped, Cursor.position_start]
  omega

namespace Parser

/-- A matcher runs over a suffix as over the source. -/
theorem simulates_unit_suffix (matcher : Matcher kind) :
    (Comparison.suffix within).Simulates (unit matcher) (unit matcher) := by
  intro c d places
  have same := getElem?_suffix places
  cases present : source[c.position]? with
  | none =>
    refine Comparison.outcomes_none present (same.symm.trans present) ⟨rfl, ?_⟩
    change source.length = (source.drop front).length + front
    rw [List.length_drop]
    omega
  | some one =>
    have inside : c.position < source.length := (List.getElem?_eq_some_iff.1 present).1
    exact Comparison.outcomes_unit present (same.symm.trans present) rfl rfl
      (places_next_suffix places inside) ⟨rfl, places.2.2⟩

/-- A parser that never goes back to the start runs over a suffix as over the source. -/
theorem simulates_suffix (parser : Parser kind) (forward : ¬ restart.PartOf .everywhere parser) :
    (Comparison.suffix within).Simulates parser parser := by
  induction parser with
  | unit matcher => exact simulates_unit_suffix matcher
  | skipping subject skipper subjectMoves skipperMoves =>
    have subjects := subjectMoves fun inner => forward (.behind inner)
    exact subjects.skipping (skipperMoves fun inner => forward (.skipper rfl inner))
  | omitting subject subjectMoves =>
    exact (subjectMoves fun inner => forward (.omitted inner)).omitting
  | converting conversion subject subjectMoves =>
    have subjects := subjectMoves fun inner => forward (.converted inner)
    exact subjects.converting fun same => congrArg conversion.apply same
  | nothing => exact .nothing
  | restart => exact absurd .self forward
  | both first second firstMoves secondMoves =>
    have firsts := firstMoves fun inner => forward (.first inner)
    exact firsts.both (secondMoves fun inner => forward (.second inner))
  | either first second firstMoves secondMoves =>
    have firsts := firstMoves fun inner => forward (.preferred inner)
    exact firsts.either (secondMoves fun inner => forward (.otherwise inner))

/-- A parser that never goes back to the start of its source, not even in a skipper, does the same
from a place of a source and over the units behind that place alone. It succeeds with the same
attribute, both times at the end or both times in front of it, or it fails with the same cause and
so with the same message. All positions differ by the number of units in front of the place. -/
theorem parseAt_suffix (parser : Parser kind) (forward : ¬ restart.PartOf .everywhere parser)
    (source : List (CodeUnit kind)) (front : Nat) (within : front ≤ source.length) :
    (∃ found c d, parser.parseAt (.clamped source front) = .ok (found, c) ∧
        parser.parseAt (.start (source.drop front)) = .ok (found, d) ∧
        c.atEnd = d.atEnd ∧ c.position = d.position + front) ∨
      ∃ a b, parser.parseAt (.clamped source front) = .error a ∧
        parser.parseAt (.start (source.drop front)) = .error b ∧
        a.cause = b.cause ∧ a.location.position = b.location.position + front := by
  have simulates : (Comparison.suffix within).Simulates parser parser :=
    parser.simulates_suffix forward
  obtain ⟨found, _, c, d, one, two, rfl, places⟩ | ⟨a, b, one, two, cause, moved⟩ :=
    simulates.cases (places_start_suffix within)
  · have ends := (Comparison.suffix within).atEnd_eq places
    exact Or.inl ⟨found, c, d, one, two, ends, places.2.2⟩
  · exact Or.inr ⟨a, b, one, two, cause, moved⟩

/-- Behind a letter, a parser for that letter skips a blank and refuses what follows. Over the blank
and the rest alone, it says the same one position earlier. -/
theorem parseAt_suffix_refused :
    let blank : CodeUnit .octet := ⟨0x20, by decide⟩
    let letter : CodeUnit .octet := ⟨0x78, by decide⟩
    let digit : CodeUnit .octet := ⟨0x37, by decide⟩
    let source := [letter, blank, digit]
    let parser := skipping (unit (.literal letter)) (unit (.literal blank))
    let refusal := ErrorCause.refused "expected 'x', found '7'"
    ¬ restart.PartOf .everywhere parser ∧ 1 ≤ source.length ∧
      parser.parseAt (.clamped source 1) = .error ⟨refusal, source, 2⟩ ∧
      ∃ error, parser.parseAt (.start [blank, digit]) = .error error ∧
        error.cause = refusal ∧ error.location.position = 1 := by
  intro blank letter digit source parser refusal
  have forward : ¬ restart.PartOf .everywhere parser := by
    intro inner
    change restart.PartOf .everywhere (skipping (unit _) (unit _)) at inner
    cases inner with
    | behind inner => nomatch inner
    | skipper _ inner => nomatch inner
  have skipped : (unit (.literal blank)).skip (.clamped source 1) = .clamped source 2 :=
    skip_unit (.literal blank) source 1
  have failed : parser.parseAt (.clamped source 1) = .error ⟨refusal, source, 2⟩ := by
    rw [parseAt_skipping, skipped]
    rfl
  refine ⟨forward, by decide, failed, ?_⟩
  obtain ⟨_, _, _, success, _⟩ | ⟨a, b, one, two, cause, moved⟩ :=
    parseAt_suffix parser forward source 1 (by decide)
  · cases failed.symm.trans success
  · cases failed.symm.trans one
    exact ⟨b, two, cause.symm, (Nat.succ.inj moved).symm⟩

end Parser

end Charwise
