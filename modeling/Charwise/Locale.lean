/-!
# Locales

The locale decides how the locale-dependent encodings classify characters. It is read from a name
such as `de_DE.ISO-8859-1@euro`: what follows the first at sign is a modifier, and what follows the
first point in front of it is the codeset.
-/

namespace Charwise

/-- The character sets that a locale may select. -/
inductive Locale where
  /-- The seven-bit characters of the C locale. -/
  | c
  /-- ISO-8859-1. -/
  | latin1
  /-- UTF-8. -/
  | utf8
  deriving DecidableEq

/-- The environment variables that name a locale. -/
inductive LocaleVariable where
  | lcAll
  | lcCtype
  | lang
  deriving DecidableEq

/-- The name of a variable. -/
def LocaleVariable.name : LocaleVariable → String
  | .lcAll => "LC_ALL"
  | .lcCtype => "LC_CTYPE"
  | .lang => "LANG"

/-- The reasons why no locale can be determined. -/
inductive LocaleError where
  /-- The locale name has a codeset that is none of the known ones. -/
  | unsupportedCodeset (locale codeset : String)
  /-- The value of a variable is not text. -/
  | notUnicode (var : LocaleVariable)
  deriving DecidableEq

/-- The wording of an error. -/
def LocaleError.message : LocaleError → String
  | .unsupportedCodeset locale codeset =>
    "locale `" ++ locale ++ "` uses unsupported codeset `" ++ codeset ++ "`"
  | .notUnicode var => "environment variable " ++ var.name ++ " is not valid unicode"

namespace Locale

/-- The usual name of the character set. -/
def codesetName : Locale → String
  | .c => "C"
  | .latin1 => "ISO-8859-1"
  | .utf8 => "UTF-8"

/-- The short name of a locale in a report. -/
def label : Locale → String
  | .c => "C"
  | .latin1 => "Latin1"
  | .utf8 => "Utf8"

/-- The part of a locale name in front of the modifier. -/
def withoutModifier (name : List Char) : List Char :=
  name.takeWhile (· != '@')

/-- The codeset of a locale name without modifier: what follows the first point. -/
def codeset? (name : List Char) : Option (List Char) :=
  match name.dropWhile (· != '.') with
  | [] => none
  | _ :: codeset => some codeset

/-- The ASCII letters and digits of a codeset, in small letters. Spellings of a codeset that differ
in nothing else are the same codeset. -/
def normalizeCodeset (codeset : List Char) : List Char :=
  (codeset.filter Char.isAlphanum).map Char.toLower

/-- The locale of a normalized codeset. -/
def ofCodeset? (codeset : String) : Option Locale :=
  if codeset = "utf8" then some .utf8
  else if codeset = "iso88591" ∨ codeset = "latin1" then some .latin1
  else if codeset = "ascii" ∨ codeset = "ansix341968" ∨ codeset = "usascii" then some .c
  else none

/-- The locale of a name. A name without a codeset stands for the Latin-1 variant of its language,
and the names `C` and `POSIX` stand for the C locale. -/
def ofName (name : String) : Except LocaleError Locale :=
  if name = "C" ∨ name = "POSIX" then .ok .c
  else
    match codeset? (withoutModifier name.toList) with
    | none => .ok .latin1
    | some codeset =>
      match ofCodeset? (String.ofList (normalizeCodeset codeset)) with
      | some locale => .ok locale
      | none => .error (.unsupportedCodeset name (String.ofList codeset))

end Locale

end Charwise
