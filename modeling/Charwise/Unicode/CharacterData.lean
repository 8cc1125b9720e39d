import Charwise.CodeUnit
import Charwise.Class
import Charwise.Unicode.GeneralCategory
import Charwise.Unicode.Script

/-!
# Character data

What is known about each character, as functions, and the basic classes read from it. The laws of
the classes hold for any such data, so tables of different Unicode versions may stand side by side.
-/

namespace Charwise.Unicode

/-- The properties of characters that classification rests on. -/
structure CharacterData where
  /-- The general category. -/
  category : Char → GeneralCategory
  /-- The script. -/
  script : Char → Script
  /-- Membership in Alphabetic. -/
  alphabetic : Char → Bool
  /-- Membership in Uppercase. -/
  uppercase : Char → Bool
  /-- Membership in Lowercase. -/
  lowercase : Char → Bool
  /-- Membership in White_Space. -/
  whiteSpace : Char → Bool

/-- The hexadecimal digits, those of full width included. -/
def isHexDigit (c : Char) : Bool :=
  let code := c.toNat
  (0x30 ≤ code && code ≤ 0x39) || (0x41 ≤ code && code ≤ 0x46) ||
    (0x61 ≤ code && code ≤ 0x66) || (0xFF10 ≤ code && code ≤ 0xFF19) ||
    (0xFF21 ≤ code && code ≤ 0xFF26) || (0xFF41 ≤ code && code ≤ 0xFF46)

/-- The code points that are never characters: 32 in the Arabic presentation forms and the last two
of each plane. -/
def isNoncharacter (c : Char) : Bool :=
  let code := c.toNat
  (0xFDD0 ≤ code && code ≤ 0xFDEF) || code % 0x10000 == 0xFFFE || code % 0x10000 == 0xFFFF

/-- The line feed, the vertical tab, the form feed and the carriage return. -/
def isLineBreakControl (c : Char) : Bool :=
  0x0A ≤ c.toNat && c.toNat ≤ 0x0D

namespace CharacterData

/-- The visible characters: those assigned that are neither white space nor control characters. -/
def isGraph (data : CharacterData) (c : Char) : Bool :=
  !data.whiteSpace c &&
    match data.category c with
    | .control | .surrogate | .unassigned => false
    | _ => true

/-- The white space that stays on a line. -/
def isBlank (data : CharacterData) (c : Char) : Bool :=
  data.whiteSpace c && !isLineBreakControl c &&
    match data.category c with
    | .lineSeparator | .paragraphSeparator => false
    | _ => true

/-- The visible characters and the spaces. -/
def isPrint (data : CharacterData) (c : Char) : Bool :=
  (data.isGraph c || data.category c == .spaceSeparator) && data.category c != .control

/-- Membership of a character in a basic class. -/
def basic (data : CharacterData) : BasicClass → Char → Bool
  | .alnum, c => data.alphabetic c || data.category c == .decimalNumber
  | .alpha, c => data.alphabetic c
  | .blank, c => data.isBlank c
  | .cntrl, c => data.category c == .control
  | .digit, c => data.category c == .decimalNumber
  | .graph, c => data.isGraph c
  | .lower, c => data.lowercase c
  | .print, c => data.isPrint c
  | .punct, c => (Category.group .punctuation).contains (data.category c)
  | .space, c => data.whiteSpace c
  | .upper, c => data.uppercase c
  | .xdigit, c => isHexDigit c

end CharacterData

end Charwise.Unicode
