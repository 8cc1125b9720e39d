import Charwise.Encoding
import Charwise.Words

/-!
# Reports on class parsers

The text that shows how the parser of a class is made up: its encoding, with the locale if there is
one, and its class.
-/

namespace Charwise

open Unicode

/-- A class of Unicode, with its kind around it. -/
def Unicode.UnicodeClass.structureText : UnicodeClass → String
  | .basic one => "Basic(" ++ pascalCase [one.name] ++ ")"
  | .category set => "Category(" ++ pascalCase set.words ++ ")"
  | .property one => "Property(" ++ pascalCase one.words ++ ")"
  | .script one => "Script(" ++ one.name ++ ")"

namespace Encoding

/-- An encoding, with its locale. -/
def structureText : Encoding → String
  | .ascii => "Ascii"
  | .latin1 => "Iso8859_1"
  | .narrow locale => "Standard \x7b locale: " ++ locale.label ++ " \x7d"
  | .wide _ locale => "StandardWide \x7b locale: " ++ locale.label ++ " \x7d"
  | .unicode _ => "Unicode"

/-- A class of an encoding. -/
def classStructureText : (e : Encoding) → e.Class → String
  | .ascii, c | .latin1, c | .narrow _, c | .wide _ _, c => pascalCase [c.name]
  | .unicode _, c => c.structureText

/-- The parser of a class. -/
def parserStructureText (e : Encoding) (c : e.Class) : String :=
  "Class \x7b encoding: " ++ e.structureText ++ ", class: " ++ e.classStructureText c ++ " \x7d"

/-- The parser of a class that reports a value of a named type. -/
def convertingStructureText (e : Encoding) (c : e.Class) (target : String) : String :=
  "AsAttribute \x7b parser: " ++ e.parserStructureText c ++ ", attribute: \"" ++ target ++ "\" \x7d"

end Encoding

end Charwise
