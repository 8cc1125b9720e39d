import Charwise.Unicode.CharacterData

/-!
# Classes of Unicode

A class of the Unicode encoding is a basic class, a named set of general categories, a property or a
script. This module holds the names of the classes and decides membership of a 32-bit unit. A
surrogate belongs to the two sets of general categories that contain surrogates and to nothing else,
and a unit beyond the last code point belongs to no class.
-/

namespace Charwise.Unicode

/-- The properties that a class may ask for. -/
inductive Property where
  | alphabetic
  | uppercase
  | lowercase
  | whiteSpace
  | hexDigit
  | noncharacterCodePoint
  deriving DecidableEq

namespace Property

/-- Every property. -/
def all : List Property :=
  [.alphabetic, .uppercase, .lowercase, .whiteSpace, .hexDigit, .noncharacterCodePoint]

/-- The words of the name of a property. -/
def words : Property → List String
  | .alphabetic => ["alphabetic"]
  | .uppercase => ["uppercase"]
  | .lowercase => ["lowercase"]
  | .whiteSpace => ["white", "space"]
  | .hexDigit => ["hex", "digit"]
  | .noncharacterCodePoint => ["noncharacter", "code", "point"]

/-- The name of a property, in small letters with underscores. -/
def name (property : Property) : String := snakeCase property.words

/-- The property of a name. -/
def ofName? (name : String) : Option Property :=
  all.find? (·.name == name)

end Property

/-- A class of Unicode code points. -/
inductive UnicodeClass where
  /-- A class that every encoding has. -/
  | basic (one : BasicClass)
  /-- The code points whose general category is in a named set. -/
  | category (set : Category)
  /-- The code points with a property. -/
  | property (one : Property)
  /-- The code points of a script. -/
  | script (one : Script)
  deriving DecidableEq

/-- Membership of a character in a property. -/
def CharacterData.has (data : CharacterData) : Property → Char → Bool
  | .alphabetic, c => data.alphabetic c
  | .uppercase, c => data.uppercase c
  | .lowercase, c => data.lowercase c
  | .whiteSpace, c => data.whiteSpace c
  | .hexDigit, c => isHexDigit c
  | .noncharacterCodePoint, c => isNoncharacter c

/-- Membership of a character in a class. -/
def CharacterData.belongs (data : CharacterData) : UnicodeClass → Char → Bool
  | .basic one, c => data.basic one c
  | .category set, c => set.contains (data.category c)
  | .property one, c => data.has one c
  | .script one, c => data.script c == one

/-- The surrogates, which are code points but no characters. -/
def isSurrogate (code : Nat) : Bool := 0xD800 ≤ code && code ≤ 0xDFFF

/-- The general category of a unit: that of its character, or the one of the surrogates. -/
def generalCategory? (data : CharacterData) (unit : CodeUnit .word) : Option GeneralCategory :=
  match unit.scalar? with
  | some c => some (data.category c)
  | none => if isSurrogate unit.code then some .surrogate else none

/-- The script of a unit that is a character. -/
def script? (data : CharacterData) (unit : CodeUnit .word) : Option Script :=
  unit.scalar?.map data.script

namespace UnicodeClass

/-- Membership of a unit in a class. -/
def holds (data : CharacterData) (c : UnicodeClass) (unit : CodeUnit .word) : Bool :=
  match unit.scalar? with
  | some character => data.belongs c character
  | none =>
    isSurrogate unit.code &&
      (c == .category (.exact .surrogate) || c == .category (.group .other))

/-- The text by which a class is named in a message. -/
def text : UnicodeClass → String
  | .basic one => one.name
  | .category set => set.name
  | .property one => one.name
  | .script one => one.lowerName

/-- The name of the kind of a class. -/
def kindName : UnicodeClass → String
  | .basic _ => "basic"
  | .category _ => "category"
  | .property _ => "property"
  | .script _ => "script"

/-- The name of a class within its kind, which is the full name for a script. -/
def nameInKind : UnicodeClass → String
  | .script one => one.name
  | other => other.text

/-- The scripts that have a name among the classes; the others are asked for by their full names. -/
def namedScripts : List Script :=
  [.arabic, .armenian, .bengali, .bopomofo, .braille, .cherokee, .common, .cyrillic, .devanagari,
    .ethiopic, .georgian, .greek, .gujarati, .gurmukhi, .han, .hangul, .hebrew, .hiragana,
    .inherited, .kannada, .katakana, .khmer, .lao, .latin, .malayalam, .mongolian, .myanmar,
    .ogham, .oriya, .runic, .sinhala, .syriac, .tamil, .telugu, .thaana, .thai, .tibetan,
    .unknown, .yi]

/-- Every class that has a name. No two of them have the same name. -/
def named : List UnicodeClass :=
  BasicClass.all.map .basic ++ Category.all.map .category ++ Property.all.map .property ++
    namedScripts.map .script

/-- The class of a name. -/
def ofName? (name : String) : Option UnicodeClass :=
  named.find? (·.text == name)

end UnicodeClass

end Charwise.Unicode
