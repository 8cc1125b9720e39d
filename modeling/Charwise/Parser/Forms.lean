import Charwise.Parser

/-!
# The forms of parsers

When a parser of each form succeeds or fails, in terms of its parts: one law for success and one for
failure. Proofs about parsers follow these laws and look no further into the definition of parsing.
-/

namespace Charwise

variable {kind : UnitKind} {source : List (CodeUnit kind)}
variable {c last : Cursor source} {found : Attribute kind} {error : ParseError kind}

/-- A matcher succeeds on a unit that it accepts, and reports it. -/
theorem Matcher.parse_eq_ok {matcher : Matcher kind} :
    matcher.parse c = .ok (found, last) ↔
      ∃ unit, source[c.position]? = some unit ∧ matcher.test unit = true ∧
        found = .unit unit ∧ last = c.next := by
  unfold parse Cursor.value
  rw [Cursor.unit?_eq_getElem?]
  cases source[c.position]? with
  | none => simp
  | some unit =>
    by_cases accepted : matcher.test unit = true
    · simp [accepted, @eq_comm _ found, @eq_comm _ last]
    · simp [accepted]

/-- A matcher fails at the end of the source, and at a unit that it does not accept. -/
theorem Matcher.parse_eq_error {matcher : Matcher kind} :
    matcher.parse c = .error error ↔
      (source[c.position]? = none ∧ error = Cursor.failAtEnd source .noUnitAtEnd) ∨
        ∃ unit, source[c.position]? = some unit ∧ matcher.test unit = false ∧
          error = c.fail (matcher.refusal unit) := by
  unfold parse Cursor.value
  rw [Cursor.unit?_eq_getElem?]
  cases source[c.position]? with
  | none => simp [@eq_comm _ error]
  | some unit =>
    by_cases accepted : matcher.test unit = true
    · simp [accepted]
    · simp [accepted, @eq_comm _ error]

/-- In front of a unit, a matcher decides by the unit. -/
theorem Matcher.parse_clamped {position : Nat} {unit : CodeUnit kind} (matcher : Matcher kind)
    (present : source[position]? = some unit) :
    matcher.parse (Cursor.clamped source position) =
      if matcher.test unit = true then .ok (.unit unit, .clamped source (position + 1))
      else .error ⟨matcher.refusal unit, source, position⟩ := by
  have inside : position < source.length := (List.getElem?_eq_some_iff.1 present).1
  have place : (Cursor.clamped source position).position = position := by
    rw [Cursor.position_clamped]
    omega
  by_cases accepted : matcher.test unit = true
  · rw [if_pos accepted]
    exact parse_eq_ok.2 ⟨unit, by rw [place, present], accepted, rfl, by rw [Cursor.next, place]⟩
  · rw [if_neg accepted]
    refine parse_eq_error.2 (Or.inr ⟨unit, by rw [place, present], ?_, ?_⟩)
    · exact Bool.eq_false_iff.2 accepted
    · rw [Cursor.fail, place]

/-- Behind the last unit, a matcher fails at the end. -/
theorem Matcher.parse_clamped_of_le {position : Nat} (matcher : Matcher kind)
    (outside : source.length ≤ position) :
    matcher.parse (Cursor.clamped source position) =
      .error ⟨.noUnitAtEnd, source, source.length⟩ := by
  refine parse_eq_error.2 (Or.inl ⟨?_, rfl⟩)
  rw [Cursor.position_clamped, Nat.min_eq_right outside]
  exact List.getElem?_eq_none (Nat.le_refl _)

namespace Parser

variable {subject skipper first second : Parser kind} {conversion : Conversion kind}

/-- One unit is parsed by its matcher. -/
theorem parseAt_unit (matcher : Matcher kind) (c : Cursor source) :
    (unit matcher).parseAt c = matcher.parse c := rfl

/-- A skipping parser runs behind what the skipper takes. -/
theorem parseAt_skipping :
    (skipping subject skipper).parseAt c = subject.parseAt (skipper.skip c) := rfl

/-- An omitting parser runs its subject and drops the attribute. -/
theorem parseAt_omitting :
    (omitting subject).parseAt c =
      match subject.parseAt c with
      | .ok (_, next) => .ok (.omitted, next)
      | .error error => .error error := rfl

/-- A converting parser runs its subject and converts the attribute. -/
theorem parseAt_converting :
    (converting conversion subject).parseAt c =
      match subject.parseAt c with
      | .ok (found, next) => .ok (conversion.apply found, next)
      | .error error => .error error := rfl

/-- Two parsers in turn run one behind the other, and drop both attributes. -/
theorem parseAt_both :
    (both first second).parseAt c =
      match first.parseAt c with
      | .ok (_, next) =>
        match second.parseAt next with
        | .ok (_, last) => .ok (.omitted, last)
        | .error error => .error error
      | .error error => .error error := rfl

/-- An alternative runs its second parser if the first one fails. -/
theorem parseAt_either :
    (either first second).parseAt c =
      match first.parseAt c with
      | .ok success => .ok success
      | .error _ => second.parseAt c := rfl

/-- An omitting parser succeeds with its subject, and reports nothing. -/
theorem omitting_eq_ok :
    (omitting subject).parseAt c = .ok (found, last) ↔
      found = .omitted ∧ ∃ dropped, subject.parseAt c = .ok (dropped, last) := by
  rw [parseAt_omitting]
  cases subject.parseAt c with
  | error error => simp
  | ok success => simp [Prod.ext_iff, @eq_comm _ found]

/-- An omitting parser fails with its subject. -/
theorem omitting_eq_error :
    (omitting subject).parseAt c = .error error ↔ subject.parseAt c = .error error := by
  rw [parseAt_omitting]
  cases subject.parseAt c <;> simp

/-- A converting parser succeeds with its subject, and reports the converted attribute. -/
theorem converting_eq_ok :
    (converting conversion subject).parseAt c = .ok (found, last) ↔
      ∃ raw, subject.parseAt c = .ok (raw, last) ∧ found = conversion.apply raw := by
  rw [parseAt_converting]
  cases subject.parseAt c with
  | error error => simp
  | ok success => simp [Prod.ext_iff, and_assoc, and_comm, @eq_comm _ found]

/-- A converting parser fails with its subject. -/
theorem converting_eq_error :
    (converting conversion subject).parseAt c = .error error ↔
      subject.parseAt c = .error error := by
  rw [parseAt_converting]
  cases subject.parseAt c <;> simp

/-- Two parsers in turn succeed if each does, the second one where the first one stops. -/
theorem both_eq_ok :
    (both first second).parseAt c = .ok (found, last) ↔
      found = .omitted ∧ ∃ one middle two,
        first.parseAt c = .ok (one, middle) ∧ second.parseAt middle = .ok (two, last) := by
  rw [parseAt_both]
  cases first.parseAt c with
  | error error => simp
  | ok success =>
    obtain ⟨one, middle⟩ := success
    cases later : second.parseAt middle <;>
      simp [Prod.ext_iff, and_assoc, later, @eq_comm _ found]

/-- Two parsers in turn fail with the first one, or with the second one where the first one
stops. -/
theorem both_eq_error :
    (both first second).parseAt c = .error error ↔
      first.parseAt c = .error error ∨ ∃ one middle,
        first.parseAt c = .ok (one, middle) ∧ second.parseAt middle = .error error := by
  rw [parseAt_both]
  cases first.parseAt c with
  | error error => simp
  | ok success =>
    obtain ⟨one, middle⟩ := success
    cases later : second.parseAt middle <;> simp [and_assoc, later]

/-- An alternative succeeds with its first parser, or else with its second one. -/
theorem either_eq_ok :
    (either first second).parseAt c = .ok (found, last) ↔
      first.parseAt c = .ok (found, last) ∨
        (∃ error, first.parseAt c = .error error) ∧ second.parseAt c = .ok (found, last) := by
  rw [parseAt_either]
  cases first.parseAt c <;> simp

/-- An alternative fails if its first parser does, with the error of its second one. -/
theorem either_eq_error :
    (either first second).parseAt c = .error error ↔
      (∃ refused, first.parseAt c = .error refused) ∧ second.parseAt c = .error error := by
  rw [parseAt_either]
  cases first.parseAt c <;> simp

end Parser

end Charwise
