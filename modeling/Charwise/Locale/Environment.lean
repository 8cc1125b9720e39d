import Charwise.Locale
import Charwise.Trace

/-!
# The locale of an environment

The variables are asked in a fixed order, and the first that is set to a text that is not empty
decides. Nothing is asked after it, so a variable of lower priority never matters, however bad its
value is.
-/

namespace Charwise

/-- The variables with their values in bytes; a variable without a value is unset. -/
abbrev Environment := LocaleVariable → Option ByteArray

/-- What is recorded while the locale is resolved. -/
inductive LocaleEvent where
  /-- A variable named a known locale. -/
  | resolved (var : LocaleVariable) (value : String) (locale : Locale)
  /-- A variable named a locale that is not known. -/
  | unrecognized (var : LocaleVariable) (value : String) (error : LocaleError)
  /-- No variable was set. -/
  | defaulted
  deriving DecidableEq

/-- The record of an event. -/
def LocaleEvent.record : LocaleEvent → TraceRecord
  | .resolved var value locale =>
    { level := .debug
      message := "resolved character classification locale"
      fields := [("variable", .text var.name), ("value", .text value),
        ("locale", .text locale.label)] }
  | .unrecognized var value error =>
    { level := .warn
      message := "unrecognized locale"
      fields := [("variable", .text var.name), ("value", .text value),
        ("error", .text error.message)] }
  | .defaulted =>
    { level := .debug
      message := "no locale variable set, using the C locale"
      fields := [] }

namespace Locale

/-- The variables in the order of their priority. -/
def priority : List LocaleVariable := [.lcAll, .lcCtype, .lang]

/-- The outcome of asking an environment for its locale. -/
structure Lookup where
  /-- The variables that were asked for, in order. -/
  asked : List LocaleVariable
  /-- What was recorded. -/
  events : List LocaleEvent
  /-- The locale, or why there is none. -/
  result : Except LocaleError Locale

/-- The locale that the text of a variable names. -/
def lookupText (var : LocaleVariable) (value : String) : Lookup :=
  match ofName value with
  | .ok locale => ⟨[var], [.resolved var value locale], .ok locale⟩
  | .error error => ⟨[var], [.unrecognized var value error], .error error⟩

/-- Ask for variables in order, until one of them decides. -/
def lookupIn (environment : Environment) : List LocaleVariable → Lookup
  | [] => ⟨[], [.defaulted], .ok .c⟩
  | var :: later =>
    let rest := lookupIn environment later
    let passed : Lookup := { rest with asked := var :: rest.asked }
    match environment var with
    | none => passed
    | some bytes =>
      match String.fromUTF8? bytes with
      | none => ⟨[var], [], .error (.notUnicode var)⟩
      | some value => if value = "" then passed else lookupText var value

/-- The locale of an environment. -/
def lookup (environment : Environment) : Lookup :=
  lookupIn environment priority

end Locale

end Charwise
