import Charwise.Class.Octet
import Charwise.Locale
import Charwise.Unicode.Class

/-!
# Encodings

An encoding fixes the kind of unit that an input consists of and the classes that its units may
belong to. Three encodings have fixed classes; the other two classify as a locale says.
-/

namespace Charwise

open Unicode

/-- The encodings. -/
inductive Encoding where
  /-- ASCII, in octets. -/
  | ascii
  /-- ISO-8859-1, in octets. -/
  | latin1
  /-- Octets that are classified by a locale. -/
  | narrow (locale : Locale)
  /-- Scalar values that are classified by a locale. -/
  | wide (data : CharacterData) (locale : Locale)
  /-- 32-bit units with all classes of Unicode. -/
  | unicode (data : CharacterData)

namespace Encoding

/-- The name of an encoding. -/
def name : Encoding → String
  | .ascii => "ascii"
  | .latin1 => "iso8859_1"
  | .narrow _ => "standard"
  | .wide _ _ => "standard_wide"
  | .unicode _ => "unicode"

/-- The kind of unit that an encoding reads. -/
@[reducible] def kind : Encoding → UnitKind
  | .ascii | .latin1 | .narrow _ => .octet
  | .wide _ _ => .scalar
  | .unicode _ => .word

/-- Where a kind of unit is asked for, an encoding stands for the kind that it reads. -/
instance : Coe Encoding UnitKind := ⟨kind⟩

/-- The units of an encoding. -/
abbrev Unit (e : Encoding) : Type := CodeUnit e.kind

/-- The classes of an encoding. -/
@[reducible] def Class : Encoding → Type
  | .ascii | .latin1 | .narrow _ | .wide _ _ => BasicClass
  | .unicode _ => UnicodeClass

/-- A basic class as a class of an encoding. -/
def ofBasic : (e : Encoding) → BasicClass → e.Class
  | .ascii, c | .latin1, c | .narrow _, c | .wide _ _, c => c
  | .unicode _, c => .basic c

/-- The text by which a class is named in a message. -/
def classText : (e : Encoding) → e.Class → String
  | .ascii, c | .latin1, c | .narrow _, c | .wide _ _, c => c.name
  | .unicode _, c => c.text

/-- Membership of a unit in a class. In octets the UTF-8 locale can only classify the seven-bit
characters, since the other octets are parts of characters. -/
def holds : (e : Encoding) → e.Class → e.Unit → Bool
  | .ascii, c, unit => Ascii.holds c unit.code
  | .latin1, c, unit => Latin1.holds c unit.code
  | .narrow .latin1, c, unit => Latin1.holds c unit.code
  | .narrow .c, c, unit => Ascii.holds c unit.code
  | .narrow .utf8, c, unit => Ascii.holds c unit.code
  | .wide _ .c, c, unit => Ascii.holds c unit.code
  | .wide _ .latin1, c, unit => Latin1.holds c unit.code
  | .wide data .utf8, c, unit => unit.scalar?.any (data.basic c)
  | .unicode data, c, unit => c.holds data unit

/-- Membership of a unit in a basic class. -/
def isBasic (e : Encoding) (c : BasicClass) (unit : e.Unit) : Bool :=
  e.holds (e.ofBasic c) unit

/-- A 32-bit unit belongs to a basic class exactly if it is a character of that class. -/
theorem isBasic_unicode (data : CharacterData) (c : BasicClass) (unit : CodeUnit .word) :
    (unicode data).isBasic c unit = unit.scalar?.any (data.basic c) := by
  change (UnicodeClass.basic c).holds data unit = _
  unfold UnicodeClass.holds
  cases unit.scalar? with
  | none => simp
  | some character => rfl

/-- The basic classes that a unit belongs to. -/
def basicClasses (e : Encoding) (unit : e.Unit) : List BasicClass :=
  BasicClass.all.filter fun c => e.isBasic c unit

end Encoding

end Charwise
