import Charwise.Words

/-!
# General categories

The thirty general categories of code points, and the sets of them that a class may ask for: one of
the seven major groups, or a single general category.
-/

namespace Charwise.Unicode

/-- The general category of a code point. -/
inductive GeneralCategory where
  | uppercaseLetter
  | lowercaseLetter
  | titlecaseLetter
  | modifierLetter
  | otherLetter
  | nonspacingMark
  | enclosingMark
  | spacingMark
  | decimalNumber
  | letterNumber
  | otherNumber
  | spaceSeparator
  | lineSeparator
  | paragraphSeparator
  | control
  | format
  | privateUse
  | surrogate
  | unassigned
  | dashPunctuation
  | openPunctuation
  | closePunctuation
  | connectorPunctuation
  | otherPunctuation
  | initialPunctuation
  | finalPunctuation
  | mathSymbol
  | currencySymbol
  | modifierSymbol
  | otherSymbol
  deriving DecidableEq

/-- The major groups of general categories. -/
inductive MajorGroup where
  | letter
  | mark
  | number
  | separator
  | other
  | punctuation
  | symbol
  deriving DecidableEq

/-- The words of the name of a major group. -/
def MajorGroup.words : MajorGroup → List String
  | .letter => ["letter"]
  | .mark => ["mark"]
  | .number => ["number"]
  | .separator => ["separator"]
  | .other => ["other"]
  | .punctuation => ["punctuation"]
  | .symbol => ["symbol"]

namespace GeneralCategory

/-- The general categories group by group, in the order in which they are listed. -/
def all : List GeneralCategory :=
  [.uppercaseLetter, .lowercaseLetter, .titlecaseLetter, .modifierLetter, .otherLetter,
    .nonspacingMark, .enclosingMark, .spacingMark, .decimalNumber, .letterNumber, .otherNumber,
    .spaceSeparator, .lineSeparator, .paragraphSeparator, .control, .format, .privateUse,
    .surrogate, .unassigned, .dashPunctuation, .openPunctuation, .closePunctuation,
    .connectorPunctuation, .otherPunctuation, .initialPunctuation, .finalPunctuation,
    .mathSymbol, .currencySymbol, .modifierSymbol, .otherSymbol]

/-- The list of general categories leaves none out. -/
theorem mem_all (category : GeneralCategory) : category ∈ all := by
  cases category <;> decide

/-- The group that a general category belongs to. -/
def group : GeneralCategory → MajorGroup
  | .uppercaseLetter | .lowercaseLetter | .titlecaseLetter | .modifierLetter | .otherLetter =>
    .letter
  | .nonspacingMark | .enclosingMark | .spacingMark => .mark
  | .decimalNumber | .letterNumber | .otherNumber => .number
  | .spaceSeparator | .lineSeparator | .paragraphSeparator => .separator
  | .control | .format | .privateUse | .surrogate | .unassigned => .other
  | .dashPunctuation | .openPunctuation | .closePunctuation | .connectorPunctuation
  | .otherPunctuation | .initialPunctuation | .finalPunctuation => .punctuation
  | .mathSymbol | .currencySymbol | .modifierSymbol | .otherSymbol => .symbol

/-- The words of the name of a general category. -/
def words : GeneralCategory → List String
  | .uppercaseLetter => ["uppercase", "letter"]
  | .lowercaseLetter => ["lowercase", "letter"]
  | .titlecaseLetter => ["titlecase", "letter"]
  | .modifierLetter => ["modifier", "letter"]
  | .otherLetter => ["other", "letter"]
  | .nonspacingMark => ["nonspacing", "mark"]
  | .enclosingMark => ["enclosing", "mark"]
  | .spacingMark => ["spacing", "mark"]
  | .decimalNumber => ["decimal", "number"]
  | .letterNumber => ["letter", "number"]
  | .otherNumber => ["other", "number"]
  | .spaceSeparator => ["space", "separator"]
  | .lineSeparator => ["line", "separator"]
  | .paragraphSeparator => ["paragraph", "separator"]
  | .control => ["control"]
  | .format => ["format"]
  | .privateUse => ["private", "use"]
  | .surrogate => ["surrogate"]
  | .unassigned => ["unassigned"]
  | .dashPunctuation => ["dash", "punctuation"]
  | .openPunctuation => ["open", "punctuation"]
  | .closePunctuation => ["close", "punctuation"]
  | .connectorPunctuation => ["connector", "punctuation"]
  | .otherPunctuation => ["other", "punctuation"]
  | .initialPunctuation => ["initial", "punctuation"]
  | .finalPunctuation => ["final", "punctuation"]
  | .mathSymbol => ["math", "symbol"]
  | .currencySymbol => ["currency", "symbol"]
  | .modifierSymbol => ["modifier", "symbol"]
  | .otherSymbol => ["other", "symbol"]

/-- The name of a general category, as one word with inner capitals. -/
def title (category : GeneralCategory) : String := pascalCase category.words

end GeneralCategory

/-- A set of general categories that has a name. -/
inductive Category where
  /-- All general categories of a major group. -/
  | group (major : MajorGroup)
  /-- A single general category. -/
  | exact (category : GeneralCategory)
  deriving DecidableEq

namespace Category

/-- Whether a named set has a general category as a member. -/
def contains : Category → GeneralCategory → Bool
  | .group major, category => category.group == major
  | .exact one, category => category == one

/-- Every named set: the groups, then the single categories. -/
def all : List Category :=
  [.letter, .mark, .number, .separator, .other, .punctuation, .symbol].map .group ++
    GeneralCategory.all.map .exact

/-- The words of the name of a set. -/
def words : Category → List String
  | .group major => major.words
  | .exact category => category.words

/-- The name of a set, in small letters with underscores. -/
def name (category : Category) : String := snakeCase category.words

/-- The set of a name. -/
def ofName? (name : String) : Option Category :=
  all.find? (·.name == name)

/-- A set is its group, or its only member. -/
theorem contains_iff {set : Category} {category : GeneralCategory} :
    set.contains category = true ↔ set = .group category.group ∨ set = .exact category := by
  cases set with
  | group major =>
    simp only [contains, beq_iff_eq, Category.group.injEq, reduceCtorEq, or_false]
    exact eq_comm
  | exact one =>
    simp only [contains, beq_iff_eq, Category.exact.injEq, reduceCtorEq, false_or]
    exact eq_comm

end Category

end Charwise.Unicode
