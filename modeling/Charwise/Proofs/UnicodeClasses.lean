import Charwise.Encoding
import Mathlib.Logic.ExistsUnique

/-!
# The classes of Unicode

A 32-bit unit is a character, a surrogate, or beyond the last code point, and each case is decided
apart. The classes of a unit are told here from its general category, its script and its code: the
general categories divide the code points, the major groups gather them by the first letter of their
abbreviations, a surrogate has a general category and nothing else, and a unit beyond the last code
point has nothing at all (`Unicode.classified`). All of this holds for any character data.
-/

namespace Charwise

namespace Unicode

/-- The two letters that stand for a general category. The first is that of its group. -/
def GeneralCategory.abbreviation : GeneralCategory → Char × Char
  | .uppercaseLetter => ('L', 'u')
  | .lowercaseLetter => ('L', 'l')
  | .titlecaseLetter => ('L', 't')
  | .modifierLetter => ('L', 'm')
  | .otherLetter => ('L', 'o')
  | .nonspacingMark => ('M', 'n')
  | .enclosingMark => ('M', 'e')
  | .spacingMark => ('M', 'c')
  | .decimalNumber => ('N', 'd')
  | .letterNumber => ('N', 'l')
  | .otherNumber => ('N', 'o')
  | .spaceSeparator => ('Z', 's')
  | .lineSeparator => ('Z', 'l')
  | .paragraphSeparator => ('Z', 'p')
  | .control => ('C', 'c')
  | .format => ('C', 'f')
  | .privateUse => ('C', 'o')
  | .surrogate => ('C', 's')
  | .unassigned => ('C', 'n')
  | .dashPunctuation => ('P', 'd')
  | .openPunctuation => ('P', 's')
  | .closePunctuation => ('P', 'e')
  | .connectorPunctuation => ('P', 'c')
  | .otherPunctuation => ('P', 'o')
  | .initialPunctuation => ('P', 'i')
  | .finalPunctuation => ('P', 'f')
  | .mathSymbol => ('S', 'm')
  | .currencySymbol => ('S', 'c')
  | .modifierSymbol => ('S', 'k')
  | .otherSymbol => ('S', 'o')

/-- The letter that stands for a major group. -/
def MajorGroup.abbreviation : MajorGroup → Char
  | .letter => 'L'
  | .mark => 'M'
  | .number => 'N'
  | .separator => 'Z'
  | .other => 'C'
  | .punctuation => 'P'
  | .symbol => 'S'

/-- Major groups with the same letter are the same. -/
theorem MajorGroup.abbreviation_injective : Function.Injective MajorGroup.abbreviation := by
  intro one second same
  cases one <;> cases second <;> first | rfl | contradiction

/-- The group of a general category is told by the first letter of its abbreviation. -/
theorem GeneralCategory.group_eq_iff {category : GeneralCategory} {major : MajorGroup} :
    category.group = major ↔ category.abbreviation.1 = major.abbreviation := by
  have first : category.abbreviation.1 = category.group.abbreviation := by
    cases category <;> rfl
  rw [first]
  exact ⟨congrArg _, fun same => MajorGroup.abbreviation_injective same⟩

/-- The class of Unicode that has the same members as a basic class, where there is one. -/
def UnicodeClass.sameAs? : BasicClass → Option UnicodeClass
  | .alpha => some (.property .alphabetic)
  | .upper => some (.property .uppercase)
  | .lower => some (.property .lowercase)
  | .space => some (.property .whiteSpace)
  | .xdigit => some (.property .hexDigit)
  | .digit => some (.category (.exact .decimalNumber))
  | .cntrl => some (.category (.exact .control))
  | .punct => some (.category (.group .punctuation))
  | .alnum | .blank | .graph | .print => none

variable {data : CharacterData} {unit : CodeUnit .word} {c : UnicodeClass}

/-- The surrogates are the codes from U+D800 to U+DFFF. -/
theorem isSurrogate_iff {code : Nat} :
    isSurrogate code = true ↔ 0xD800 ≤ code ∧ code ≤ 0xDFFF := by
  simp [isSurrogate]

/-- A code point that is no character is a surrogate, and no other unit is one. -/
theorem scalar?_eq_none_iff :
    unit.scalar? = none ↔ isSurrogate unit.code = true ∨ 0x10FFFF < unit.code := by
  have invalid : unit.scalar? = none ↔
      ¬ (unit.code < 0xD800 ∨ 0xDFFF < unit.code ∧ unit.code < 0x110000) := by
    rw [CodeUnit.scalar?, dite_eq_right_iff]
    constructor
    · intro none valid
      exact Option.some_ne_none _ (none valid)
    · intro outside valid
      exact absurd valid outside
  rw [invalid, isSurrogate_iff]
  omega

/-- A surrogate belongs to the two named sets that have surrogates in them, and to no other class,
since its code is the only thing that is known of it. -/
theorem holds_of_surrogate (surrogate : isSurrogate unit.code = true) :
    c.holds data unit = true ↔
      c = .category (.exact .surrogate) ∨ c = .category (.group .other) := by
  have none : unit.scalar? = none := scalar?_eq_none_iff.2 (Or.inl surrogate)
  simp [UnicodeClass.holds, none, surrogate]

/-- A unit beyond the last code point belongs to no class. -/
theorem holds_of_beyond (beyond : 0x10FFFF < unit.code) : c.holds data unit = false := by
  have none : unit.scalar? = none := scalar?_eq_none_iff.2 (Or.inr beyond)
  have ordinary : isSurrogate unit.code = false := by
    rw [Bool.eq_false_iff, ne_eq, isSurrogate_iff]
    omega
  simp [UnicodeClass.holds, none, ordinary]

/-- The units that have a general category are the code points. -/
theorem generalCategory?_isSome_iff :
    (generalCategory? data unit).isSome = true ↔ unit.code ≤ 0x10FFFF := by
  unfold generalCategory?
  cases present : unit.scalar? with
  | some character =>
    have known : ¬ unit.scalar? = none := by simp [present]
    rw [scalar?_eq_none_iff] at known
    simp only [Option.isSome_some, true_iff]
    omega
  | none =>
    have unknown := scalar?_eq_none_iff.1 present
    by_cases surrogate : isSurrogate unit.code = true
    · have bounds := isSurrogate_iff.1 surrogate
      simp only [surrogate, if_true, Option.isSome_some, true_iff]
      omega
    · have beyond : 0x10FFFF < unit.code := unknown.resolve_left surrogate
      simp [surrogate, beyond]

/-- A named set of general categories has a unit as a member exactly if it has its general
category as a member. -/
theorem holds_category_iff {set : Category} :
    (UnicodeClass.category set).holds data unit = true ↔
      ∃ category, generalCategory? data unit = some category ∧ set.contains category = true := by
  unfold UnicodeClass.holds generalCategory?
  cases unit.scalar? with
  | some character => simp [CharacterData.belongs]
  | none =>
    cases isSurrogate unit.code with
    | false => simp
    | true =>
      -- Of a surrogate, the two sets are named; they are those that contain its general category.
      simp [Category.contains_iff, GeneralCategory.group, or_comm]

/-- A single category has a unit exactly if it is the general category of the unit. -/
theorem holds_exact_iff {category : GeneralCategory} :
    (UnicodeClass.category (.exact category)).holds data unit = true ↔
      generalCategory? data unit = some category := by
  rw [holds_category_iff]
  simp [Category.contains]

/-- A major group has a unit exactly if it is the group of its general category. -/
theorem holds_group_iff {major : MajorGroup} :
    (UnicodeClass.category (.group major)).holds data unit = true ↔
      (generalCategory? data unit).map GeneralCategory.group = some major := by
  rw [holds_category_iff]
  simp [Category.contains]

/-- A script has a unit as a member exactly if it is the script of the unit. -/
theorem holds_script_iff {script : Script} :
    (UnicodeClass.script script).holds data unit = true ↔ script? data unit = some script := by
  unfold UnicodeClass.holds script?
  cases unit.scalar? with
  | some character => simp [CharacterData.belongs]
  | none => simp

/-- A class and the basic class with the same members agree on every unit. -/
theorem holds_sameAs {one : BasicClass} (same : UnicodeClass.sameAs? one = some c) :
    (UnicodeClass.basic one).holds data unit = c.holds data unit := by
  unfold UnicodeClass.holds
  cases one <;> cases same <;> cases unit.scalar? <;> rfl

/-- What the classes of a unit owe to its general category, its script and its code. -/
structure Classified (data : CharacterData) (unit : CodeUnit .word) : Prop where
  /-- A named set has the unit exactly if it has the general category of the unit. -/
  category_iff : ∀ set, (Encoding.unicode data).holds (.category set) unit = true ↔
    ∃ category, generalCategory? data unit = some category ∧ set.contains category = true
  /-- A script has the unit exactly if it is the script of the unit. -/
  script_iff : ∀ script, (Encoding.unicode data).holds (.script script) unit = true ↔
    script? data unit = some script
  /-- A code point is in exactly one of the thirty single categories. -/
  one_category : unit.code ≤ 0x10FFFF →
    ∃! category, (Encoding.unicode data).holds (.category (.exact category)) unit = true
  /-- A code point is in exactly one of the seven major groups. -/
  one_group : unit.code ≤ 0x10FFFF →
    ∃! major, (Encoding.unicode data).holds (.category (.group major)) unit = true
  /-- A major group has the unit exactly if one of the categories with its letter has it. -/
  group_iff : ∀ major, (Encoding.unicode data).holds (.category (.group major)) unit = true ↔
    ∃ category : GeneralCategory, category.abbreviation.1 = major.abbreviation ∧
      (Encoding.unicode data).holds (.category (.exact category)) unit = true
  /-- A surrogate is in the category of surrogates and its group, and in no class besides. -/
  surrogate : 0xD800 ≤ unit.code → unit.code ≤ 0xDFFF → ∀ c,
    (Encoding.unicode data).holds c unit = true ↔
      c = .category (.exact .surrogate) ∨ c = .category (.group .other)
  /-- A unit beyond the last code point is in no class. -/
  beyond : 0x10FFFF < unit.code → ∀ c, (Encoding.unicode data).holds c unit = false
  /-- A basic class that has a second name has the same units under both names. -/
  sameAs : ∀ one c, UnicodeClass.sameAs? one = some c →
    (Encoding.unicode data).isBasic one unit = (Encoding.unicode data).holds c unit

/-- Whatever the character data are, the classes of every 32-bit unit follow from its general
category, its script and its code. -/
theorem classified (data : CharacterData) (unit : CodeUnit .word) : Classified data unit where
  category_iff set := holds_category_iff
  script_iff script := holds_script_iff
  one_category inside := by
    obtain ⟨category, known⟩ := Option.isSome_iff_exists.1 (generalCategory?_isSome_iff.2 inside)
    refine ⟨category, holds_exact_iff.2 known, fun other holds => ?_⟩
    have same : generalCategory? data unit = some other := holds_exact_iff.1 holds
    exact Option.some.inj (same.symm.trans known)
  one_group inside := by
    obtain ⟨category, known⟩ := Option.isSome_iff_exists.1 (generalCategory?_isSome_iff.2 inside)
    refine ⟨category.group, holds_group_iff.2 (by rw [known]; rfl), fun major holds => ?_⟩
    have same := holds_group_iff.1 holds
    rw [known] at same
    exact (Option.some.inj same).symm
  group_iff major := by
    change (UnicodeClass.category (.group major)).holds data unit = true ↔
      ∃ category : GeneralCategory, category.abbreviation.1 = major.abbreviation ∧
        (UnicodeClass.category (.exact category)).holds data unit = true
    simp only [holds_group_iff, holds_exact_iff, Option.map_eq_some_iff,
      GeneralCategory.group_eq_iff]
    exact exists_congr fun category => and_comm
  surrogate low high c := holds_of_surrogate (isSurrogate_iff.2 ⟨low, high⟩)
  beyond above c := holds_of_beyond above
  sameAs one c same := holds_sameAs same

end Unicode

end Charwise
