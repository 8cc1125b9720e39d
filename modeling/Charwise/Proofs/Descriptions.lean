import Charwise.CodeUnit.Widening
import Charwise.Matcher.Layers
import Charwise.Proofs.Coherence
import Charwise.Proofs.Hexadecimal

/-!
# Descriptions

A unit is described by a character in quotes or by its number. Either way the unit can be read off
the front of a text, as long as no further digit follows (`CodeUnit.describe_append_inj`). So units,
ranges of units and any number of negations in front of them are told apart by their descriptions,
although a unit that is described may be a quote, a point or an equals sign itself
(`Matcher.descriptions_unambiguous`). No description has a control character in it.
-/

namespace Charwise

variable {kind : UnitKind}

/-! ## Control characters -/

namespace Unicode

/-- Of the stretches that cannot be seen, two are those of the control characters. -/
theorem Table.filter_invisible_control :
    invisible.filter (·.value == .control) =
      [⟨0x0000, 0x0020, .control⟩, ⟨0x007F, 0x00A0, .control⟩] := by
  decide

/-- The code points of control characters are the codes below space, and delete up to U+009F. -/
theorem Table.value_eq_control_iff {code : Nat} (bounded : code < codeBound) :
    category.value code = .control ↔ isControlCode code = true := by
  have shown (stretch : Stretch GeneralCategory) (among : stretch ∈ invisible)
      (here : stretch.Has code) : category.value code = stretch.value := by
    rw [← filter_stretches_category] at among
    exact category.value_eq_of_mem_stretches ascending_category (List.mem_of_mem_filter among) here
  have coded : isControlCode code = true ↔ code < 0x20 ∨ 0x7F ≤ code ∧ code ≤ 0x9F := by
    rw [isControlCode, Bool.or_eq_true, Bool.and_eq_true, decide_eq_true_iff, decide_eq_true_iff,
      decide_eq_true_iff]
  rw [coded]
  constructor
  · intro control
    have unseen : (category.value code).isInvisible = true := by rw [control]; rfl
    obtain ⟨stretch, among, here⟩ := (isInvisible_category_iff bounded).1 unseen
    have value : stretch.value = .control := (shown stretch among here).symm.trans control
    have one : stretch ∈ invisible.filter (·.value == .control) :=
      List.mem_filter.2 ⟨among, beq_iff_eq.2 value⟩
    rw [filter_invisible_control, List.mem_cons, List.mem_singleton] at one
    obtain rfl | rfl := one
    · exact Or.inl here.2
    · exact Or.inr ⟨here.1, Nat.le_of_lt_succ here.2⟩
  · rintro (below | ⟨above, last⟩)
    · exact shown ⟨0x0000, 0x0020, .control⟩ (by decide) ⟨Nat.zero_le _, below⟩
    · exact shown ⟨0x007F, 0x00A0, .control⟩ (by decide) ⟨above, Nat.lt_succ_of_le last⟩

/-- The characters of the general category of control characters are those with such a code. -/
theorem CharacterData.published_eq_control_iff {c : Char} :
    published.category c = .control ↔ isControlCode c.toNat = true := by
  simp only [published]
  exact Table.value_eq_control_iff (toNat_lt_codeBound c)

end Unicode

/-- A text without control characters. -/
def Ordinary (text : List Char) : Prop := ∀ c ∈ text, isControlCode c.toNat = false

instance (text : List Char) : Decidable (Ordinary text) := List.decidableBAll _ text

/-- A text has no control characters if its parts have none. -/
theorem Ordinary.append {front behind : List Char} (first : Ordinary front)
    (second : Ordinary behind) : Ordinary (front ++ behind) :=
  List.forall_mem_append.2 ⟨first, second⟩

/-- A number is written without control characters. -/
theorem ordinary_hexPadded (width value : Nat) : Ordinary (hexPadded width value) := by
  have digits : ∀ value < 16, isControlCode (hexDigit value).toNat = false := by decide
  intro c member
  obtain ⟨digit, small, rfl⟩ := isNumeral_of_mem_hexPadded c member
  exact digits digit small

namespace CodeUnit

variable {unit a b : CodeUnit kind} {rest later : List Char}

/-! ## Descriptions of units -/

/-- What stands in front of the number of a unit. -/
def numberMark : UnitKind → List Char
  | .octet => ['0', 'x']
  | .scalar | .word => ['U', '+']

/-- The least number of digits of a unit that is shown as a number. -/
def numberWidth : UnitKind → Nat
  | .octet => 2
  | .scalar | .word => 4

/-- A unit as a number. -/
def numberText (unit : CodeUnit kind) : List Char :=
  numberMark kind ++ hexPadded (numberWidth kind) unit.code

/-- What stands behind a unit in quotes. -/
def annotation : {kind : UnitKind} → CodeUnit kind → List Char
  | .word, unit => [' ', '('] ++ unit.numberText ++ [')']
  | .octet, _ | .scalar, _ => []

/-- The two ways to describe a unit. -/
inductive Described (unit : CodeUnit kind) : List Char → Prop where
  /-- A character that is no control character is shown in quotes. -/
  | quoted {c : Char} (character : unit.scalar? = some c)
    (ordinary : isControlCode c.toNat = false) : Described unit (['\'', c, '\''] ++ unit.annotation)
  /-- Any unit may be shown as a number. -/
  | numbered : Described unit unit.numberText

/-- A character in quotes has a quote on each side. -/
theorem toList_quoted (c : Char) : (quoted c).toList = ['\'', c, '\''] := by
  rw [quoted, String.toList_append, String.toList_append, Char.toString, String.toList_singleton]
  rfl

/-- The text of a code point has its mark and its digits. -/
theorem toList_codePointText (code : Nat) :
    (codePointText code).toList = ['U', '+'] ++ hexPadded 4 code := by
  have mark : "U+".toList = ['U', '+'] := rfl
  rw [codePointText, String.toList_append, mark, String.toList_ofList]

/-- A unit is described in one of the two ways. -/
theorem described_describe {kind : UnitKind} (unit : CodeUnit kind) :
    Described unit unit.describe.toList := by
  cases kind with
  | octet =>
    have valid : unit.code.isValidChar := UnitKind.octet_within_scalar _ unit.admitted
    obtain ⟨c, character⟩ : ∃ c, unit.scalar? = some c := ⟨_, dif_pos valid⟩
    have code : c.toNat = unit.code := scalar?_eq_some_iff.1 character
    by_cases printable : 0x20 ≤ unit.code ∧ unit.code ≤ 0x7E
    · have ordinary : isControlCode c.toNat = false := by
        rw [code, isControlCode, Bool.or_eq_false_iff, Bool.and_eq_false_iff,
          decide_eq_false_iff_not, decide_eq_false_iff_not]
        omega
      rw [describe, if_pos printable, toChar_of_some character, toList_quoted]
      exact .quoted character ordinary
    · have mark : "0x".toList = ['0', 'x'] := rfl
      rw [describe, if_neg printable, String.toList_append, mark, String.toList_ofList]
      exact .numbered
  | scalar =>
    have character := scalar?_of_scalar unit
    have code := scalar?_eq_some_iff.1 character
    by_cases control : isControlCode unit.code = true
    · rw [describe, if_pos control, toList_codePointText]
      exact .numbered
    · have ordinary := Bool.eq_false_iff.2 control
      rw [← code] at ordinary
      rw [describe, if_neg control, toChar_of_some character, toList_quoted]
      exact .quoted character ordinary
  | word =>
    cases character : unit.scalar? with
    | none =>
      simp only [describe, character, toList_codePointText]
      exact .numbered
    | some c =>
      have code : c.toNat = unit.code := scalar?_eq_some_iff.1 character
      by_cases control : isControlCode unit.code = true
      · simp only [describe, character, if_pos control, toList_codePointText]
        exact .numbered
      · have ordinary := Bool.eq_false_iff.2 control
        rw [← code] at ordinary
        have text : unit.describe.toList = ['\'', c, '\''] ++ unit.annotation := by
          have opening : " (".toList = [' ', '('] := rfl
          have closing : ")".toList = [')'] := rfl
          simp only [describe, character, if_neg control, String.toList_append, toList_quoted,
            toList_codePointText, opening, closing, annotation, numberText, numberMark,
            numberWidth, List.append_assoc]
        rw [text]
        exact .quoted character ordinary

/-- A unit as a number has no control character in it. -/
theorem ordinary_numberText (unit : CodeUnit kind) : Ordinary unit.numberText := by
  have mark : Ordinary (numberMark kind) := by cases kind <;> decide
  exact mark.append (ordinary_hexPadded _ _)

/-- What stands behind a unit in quotes has no control character in it. -/
theorem ordinary_annotation {kind : UnitKind} (unit : CodeUnit kind) :
    Ordinary unit.annotation := by
  cases kind with
  | octet | scalar => exact List.forall_mem_nil _
  | word =>
    have opening : Ordinary [' ', '('] := by decide
    have closing : Ordinary [')'] := by decide
    exact (opening.append unit.ordinary_numberText).append closing

/-- Neither way to describe a unit brings in a control character. -/
theorem Described.ordinary {text : List Char} (described : Described unit text) :
    Ordinary text := by
  cases described with
  | @quoted c character ordinary =>
    have shown : Ordinary ['\'', c, '\''] := by
      intro one member
      obtain rfl | rfl | rfl : one = '\'' ∨ one = c ∨ one = '\'' := by simpa using member
      · decide
      · exact ordinary
      · decide
    exact shown.append unit.ordinary_annotation
  | numbered => exact unit.ordinary_numberText

/-! ## Reading a unit off the front of a text -/

/-- A unit as a number can be read off the front of a text, if no further digit follows. -/
theorem numberText_append_inj (ends : EndsNumber rest) (stops : EndsNumber later)
    (same : a.numberText ++ rest = b.numberText ++ later) : a = b ∧ rest = later := by
  rw [numberText, numberText, List.append_assoc, List.append_assoc] at same
  obtain ⟨codes, behind⟩ := hexPadded_append_inj ends stops (List.append_cancel_left same)
  exact ⟨ext_code codes, behind⟩

/-- A unit as a number does not begin like a unit in quotes. -/
theorem numberText_append_ne (unit : CodeUnit kind) (rest later : List Char) :
    unit.numberText ++ rest ≠ '\'' :: later := by
  cases kind <;> exact fun same => absurd (List.cons.inj same).1 (by decide)

/-- However a unit is described, it can be read off the front of a text, if no further digit
follows. -/
theorem Described.append_inj {text other : List Char} (first : Described a text)
    (second : Described b other) (ends : EndsNumber rest) (stops : EndsNumber later)
    (same : text ++ rest = other ++ later) : a = b ∧ rest = later := by
  cases first with
  | @quoted c character _ =>
    cases second with
    | @quoted d equal _ =>
      obtain ⟨rfl, _⟩ : c = d ∧ _ := List.cons.inj (List.cons.inj same).2
      -- The character in quotes decides what the unit is, and so what stands behind it.
      obtain rfl : a = b := by
        apply ext_code
        rw [← scalar?_eq_some_iff.1 character, scalar?_eq_some_iff.1 equal]
      exact ⟨rfl, List.append_cancel_left same⟩
    | numbered => exact absurd same.symm (b.numberText_append_ne _ _)
  | numbered =>
    cases second with
    | quoted _ _ => exact absurd same (a.numberText_append_ne _ _)
    | numbered => exact numberText_append_inj ends stops same

/-- A unit can be read off the front of a text that begins with its description, if no further digit
follows. -/
theorem describe_append_inj (ends : EndsNumber rest) (stops : EndsNumber later)
    (same : a.describe.toList ++ rest = b.describe.toList ++ later) : a = b ∧ rest = later :=
  a.described_describe.append_inj b.described_describe ends stops same

/-- No digit follows where a text ends. -/
theorem endsNumber_nil : EndsNumber [] := nofun

/-- Units are told apart by their descriptions. -/
theorem describe_inj : a.describe = b.describe ↔ a = b := by
  constructor
  · intro same
    have texts : a.describe.toList ++ [] = b.describe.toList ++ [] := by rw [same]
    exact (describe_append_inj endsNumber_nil endsNumber_nil texts).1
  · rintro rfl
    rfl

/-- A description begins with a quote or with the mark of a number. -/
theorem head_describe {first : Char} (begins : unit.describe.toList ++ rest = first :: later) :
    first = '\'' ∨ first = '0' ∨ first = 'U' := by
  have described := unit.described_describe
  generalize unit.describe.toList = text at described begins
  cases described with
  | quoted _ _ => exact Or.inl (List.cons.inj begins).1.symm
  | numbered =>
    cases kind with
    | octet => exact Or.inr (Or.inl (List.cons.inj begins).1.symm)
    | scalar | word => exact Or.inr (Or.inr (List.cons.inj begins).1.symm)

end CodeUnit

namespace Matcher

/-! ## Descriptions of matchers -/

/-- What is asked of a unit by a matcher that compares it with given units, if with any. -/
inductive Constraint (kind : UnitKind) where
  /-- Nothing. -/
  | any
  /-- To be the given unit. -/
  | literal (unit : CodeUnit kind)
  /-- To be one of the units from the first to the last, both included. -/
  | range (first last : CodeUnit kind)
  deriving DecidableEq

namespace Constraint

open CodeUnit

variable {p q : Constraint kind}

/-- The matcher that asks for this. -/
def matcher : Constraint kind → Matcher kind
  | any => .any
  | literal unit => .literal unit
  | range first last => .range first last

/-- The description of the matcher for every unit begins with a letter. -/
theorem head_text_any (kind : UnitKind) :
    ∃ later, (any : Constraint kind).matcher.text.toList = 'a' :: later :=
  ⟨_, String.toList_ofList⟩

/-- The description of a unit, with nothing behind it. -/
theorem toList_text_literal (unit : CodeUnit kind) :
    (literal unit).matcher.text.toList = unit.describe.toList ++ [] :=
  (List.append_nil _).symm

/-- The description of a range, with that of the first unit in front. -/
theorem toList_text_range (first last : CodeUnit kind) :
    (range first last).matcher.text.toList =
      first.describe.toList ++ (['.', '.', '='] ++ last.describe.toList) := by
  have points : "..=".toList = ['.', '.', '='] := rfl
  rw [matcher, text, String.toList_append, String.toList_append, points, List.append_assoc]

/-- The points behind the first unit of a range are no digits. -/
theorem endsNumber_points (last : List Char) : EndsNumber (['.', '.', '='] ++ last) := by
  rintro first ⟨⟩
  decide

/-- No text that begins with the description of a unit is that of the matcher for every unit. -/
theorem text_any_ne (unit : CodeUnit kind) (rest : List Char) :
    (any : Constraint kind).matcher.text.toList ≠ unit.describe.toList ++ rest := by
  intro same
  obtain ⟨later, letter⟩ := head_text_any kind
  exact absurd (head_describe (same.symm.trans letter)) (by decide)

/-- Constraints are told apart by their descriptions. -/
theorem text_inj (same : p.matcher.text = q.matcher.text) : p = q := by
  have texts : p.matcher.text.toList = q.matcher.text.toList := by rw [same]
  cases p with
  | any =>
    cases q with
    | any => rfl
    | literal unit => exact absurd texts (toList_text_literal unit ▸ text_any_ne unit _)
    | range first last => exact absurd texts (toList_text_range first last ▸ text_any_ne first _)
  | literal unit =>
    rw [toList_text_literal] at texts
    cases q with
    | any => exact absurd texts.symm (text_any_ne unit _)
    | literal other =>
      rw [toList_text_literal] at texts
      obtain ⟨rfl, _⟩ := describe_append_inj endsNumber_nil endsNumber_nil texts
      rfl
    | range first last =>
      rw [toList_text_range] at texts
      obtain ⟨_, behind⟩ := describe_append_inj endsNumber_nil (endsNumber_points _) texts
      contradiction
  | range first last =>
    rw [toList_text_range] at texts
    cases q with
    | any => exact absurd texts.symm (text_any_ne first _)
    | literal unit =>
      rw [toList_text_literal] at texts
      obtain ⟨_, behind⟩ := describe_append_inj (endsNumber_points _) endsNumber_nil texts
      contradiction
    | range start stop =>
      rw [toList_text_range] at texts
      obtain ⟨rfl, behind⟩ :=
        describe_append_inj (endsNumber_points _) (endsNumber_points _) texts
      have ends : last.describe.toList = stop.describe.toList := List.append_cancel_left behind
      obtain rfl := describe_inj.1 (String.toList_inj.1 ends)
      rfl

/-- No constraint is described like a negation. -/
theorem text_ne_negated (p : Constraint kind) (subject : Matcher kind) :
    p.matcher.text ≠ (negated subject).text := by
  intro same
  have begins : p.matcher.text.toList = 'n' :: (['o', 't', ' '] ++ subject.text.toList) := by
    have negation : "not ".toList = ['n', 'o', 't', ' '] := rfl
    rw [same, text, String.toList_append, negation]
    rfl
  cases p with
  | any =>
    obtain ⟨later, letter⟩ := head_text_any kind
    exact absurd (List.cons.inj (letter.symm.trans begins)).1 (by decide)
  | literal unit =>
    rw [toList_text_literal] at begins
    exact absurd (head_describe begins) (by decide)
  | range first last =>
    rw [toList_text_range] at begins
    exact absurd (head_describe begins) (by decide)

/-- Constraints below negations are told apart by their descriptions, and so are the numbers of
negations. -/
theorem text_layered_inj {m n : Nat}
    (same : (p.matcher.layered m).text = (q.matcher.layered n).text) : p = q ∧ m = n := by
  -- Both descriptions are read from the left: one negation after the other, and then what is below.
  induction m generalizing n with
  | zero =>
    cases n with
    | zero => exact ⟨text_inj same, rfl⟩
    | succ n => exact absurd same (p.text_ne_negated _)
  | succ m ih =>
    cases n with
    | zero => exact absurd same.symm (q.text_ne_negated _)
    | succ n =>
      have below : (p.matcher.layered m).text = (q.matcher.layered n).text :=
        (String.append_right_inj "not ").1 same
      obtain ⟨rfl, rfl⟩ := ih below
      exact ⟨rfl, rfl⟩

end Constraint

/-- Descriptions of one kind of unit. Different units have different descriptions, and no
description has a character in it that the published character data count among the control
characters. A matcher for every unit, for a single one or for a range, below any number of
negations, can be told from its description: what it asks of a unit, and the number of negations. -/
theorem descriptions_unambiguous (kind : UnitKind) :
    (∀ a b : CodeUnit kind, a.describe = b.describe ↔ a = b) ∧
      (∀ unit : CodeUnit kind, ∀ c ∈ unit.describe.toList,
        Unicode.CharacterData.published.category c ≠ .control) ∧
      ∀ (p q : Constraint kind) (m n : Nat),
        (p.matcher.layered m).text = (q.matcher.layered n).text ↔ p = q ∧ m = n := by
  refine ⟨fun a b => CodeUnit.describe_inj, fun unit c member control => ?_, fun p q m n => ?_⟩
  · have ordinary : isControlCode c.toNat = false :=
      unit.described_describe.ordinary c member
    rw [Unicode.CharacterData.published_eq_control_iff, ordinary] at control
    contradiction
  · constructor
    · exact Constraint.text_layered_inj
    · rintro ⟨rfl, rfl⟩
      rfl

/-- A quote is described in quotes, as three of them, none of which is a control character. Twice
negated it is not described as the range from itself to itself, once negated. -/
theorem descriptions_unambiguous_quote :
    let quote : CodeUnit .octet := ⟨0x27, by decide⟩
    quote.describe = "'''" ∧ '\'' ∈ quote.describe.toList ∧
      Unicode.CharacterData.published.category '\'' ≠ .control ∧
      (negated (negated (literal quote))).text ≠ (negated (range quote quote)).text := by
  intro quote
  obtain ⟨_, ordinary, apart⟩ := descriptions_unambiguous .octet
  have quotes : '\'' ∈ quote.describe.toList := by decide
  refine ⟨rfl, quotes, ordinary quote _ quotes, fun same => ?_⟩
  obtain ⟨absurd, _⟩ := (apart (.literal quote) (.range quote quote) 2 1).1 same
  contradiction

end Matcher

end Charwise
