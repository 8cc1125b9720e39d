import Charwise.Class

/-!
# Classes of eight-bit characters

Membership of the codes below 256 in the basic classes, once for ASCII alone and once with the upper
half of ISO-8859-1. Codes outside a table belong to no class of it.
-/

namespace Charwise

/-- Whether a code lies between two codes, both included. -/
def between (first last code : Nat) : Bool := first ≤ code && code ≤ last

namespace Ascii

/-- The capital letters. -/
def isUpper (code : Nat) : Bool := between 0x41 0x5A code

/-- The small letters. -/
def isLower (code : Nat) : Bool := between 0x61 0x7A code

/-- The decimal digits. -/
def isDigit (code : Nat) : Bool := between 0x30 0x39 code

/-- The hexadecimal digits, in either case. -/
def isHexDigit (code : Nat) : Bool :=
  isDigit code || between 0x41 0x46 code || between 0x61 0x66 code

/-- Tab, line feed, vertical tab, form feed, carriage return and space. -/
def isSpace (code : Nat) : Bool := between 0x09 0x0D code || code == 0x20

/-- Tab and space. -/
def isBlank (code : Nat) : Bool := code == 0x09 || code == 0x20

/-- The visible characters that are neither letters nor digits. -/
def isPunct (code : Nat) : Bool :=
  between 0x21 0x2F code || between 0x3A 0x40 code || between 0x5B 0x60 code ||
    between 0x7B 0x7E code

/-- The codes below space, and delete. -/
def isControl (code : Nat) : Bool := code < 0x20 || code == 0x7F

/-- The characters from space to tilde. -/
def isPrint (code : Nat) : Bool := between 0x20 0x7E code

/-- Membership of a code in a class of ASCII. -/
def holds : BasicClass → Nat → Bool
  | .alnum, code => isUpper code || isLower code || isDigit code
  | .alpha, code => isUpper code || isLower code
  | .blank, code => isBlank code
  | .cntrl, code => isControl code
  | .digit, code => isDigit code
  | .graph, code => isPrint code && !isSpace code
  | .lower, code => isLower code
  | .print, code => isPrint code
  | .punct, code => isPunct code
  | .space, code => isSpace code
  | .upper, code => isUpper code
  | .xdigit, code => isHexDigit code

end Ascii

namespace Latin1

/-- What a code of the upper half of ISO-8859-1 stands for. -/
inductive Region where
  /-- A control character. -/
  | control
  /-- The no-break space. -/
  | space
  /-- A mark, sign or symbol. -/
  | mark
  /-- A capital letter. -/
  | capital
  /-- A small letter, or a letter without case. -/
  | small
  deriving DecidableEq

/-- The upper half holds controls up to 0x9F, the no-break space, marks with three letters among
them up to 0xBF, then capital letters, and from 0xDF on small letters. The multiplication and
division signs stand among the letters. -/
def region? (code : Nat) : Option Region :=
  if between 0x80 0x9F code then some .control
  else if code == 0xA0 then some .space
  else if code == 0xAA || code == 0xB5 || code == 0xBA then some .small
  else if between 0xA1 0xBF code || code == 0xD7 || code == 0xF7 then some .mark
  else if between 0xC0 0xDE code then some .capital
  else if between 0xDF 0xFF code then some .small
  else none

/-- Membership of a code of the upper half in a class. -/
def Region.holds : Region → BasicClass → Bool
  | .control, c => c == .cntrl
  | .space, c => c == .space || c == .blank || c == .print
  | .mark, c => c == .punct || c == .print || c == .graph
  | .capital, c => c == .alpha || c == .alnum || c == .upper || c == .print || c == .graph
  | .small, c => c == .alpha || c == .alnum || c == .lower || c == .print || c == .graph

/-- Membership of a code in a class of ISO-8859-1, which extends ASCII. -/
def holds (c : BasicClass) (code : Nat) : Bool :=
  if code < 0x80 then Ascii.holds c code else (region? code).any (·.holds c)

end Latin1

end Charwise
