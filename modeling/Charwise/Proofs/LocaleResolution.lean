import Charwise.Locale.Environment

/-!
# The variable that decides

The first variable that is set to more than nothing decides the locale, alone: the variables in
front of it are asked and passed over, those behind it are never asked, and what they are set to has
no effect (`Locale.lookup_resolves`). The bytes of the deciding variable are read as UTF-8, and
`Locale.Settles` says what they lead to and what is recorded of it.
-/

namespace Charwise

/-- Whether a variable is set, and to more than no bytes at all. -/
def Environment.isSet (environment : Environment) (var : LocaleVariable) : Bool :=
  (environment var).any fun bytes => bytes.size != 0

/-- A variable that is set has bytes, and at least one. -/
theorem Environment.isSet_iff {environment : Environment} {var : LocaleVariable} :
    environment.isSet var = true ↔ ∃ bytes, environment var = some bytes ∧ bytes.size ≠ 0 := by
  simp [isSet, Option.any_eq_true]

namespace Locale

/-- What was recorded while asking, as records. -/
def Lookup.records (outcome : Lookup) : List TraceRecord :=
  outcome.events.map LocaleEvent.record

/-- The texts under which locales are recorded. -/
inductive RecordedAs : Locale → String → Prop where
  /-- The C locale. -/
  | c : RecordedAs .c "C"
  /-- The locale of ISO-8859-1. -/
  | latin1 : RecordedAs .latin1 "Latin1"
  /-- The locale of UTF-8. -/
  | utf8 : RecordedAs .utf8 "Utf8"

/-- Every locale is recorded under its label. -/
theorem recordedAs_label (locale : Locale) : locale.RecordedAs locale.label := by
  cases locale with
  | c => exact .c
  | latin1 => exact .latin1
  | utf8 => exact .utf8

/-- What the bytes of the deciding variable lead to: a result, and what is recorded of it. -/
inductive Settles (var : LocaleVariable) (bytes : ByteArray) :
    Except LocaleError Locale → List TraceRecord → Prop where
  /-- Bytes that are the UTF-8 form of no text are an error of the variable, without a record. -/
  | undecodable (invalid : ∀ text : String, text.toUTF8 ≠ bytes) :
    Settles var bytes (.error (.notUnicode var)) []
  /-- The locale that a text names is the result, and recorded with the variable and the text. -/
  | resolved {text recorded : String} {locale : Locale} (decoded : text.toUTF8 = bytes)
    (named : ofName text = .ok locale) (label : locale.RecordedAs recorded) :
    Settles var bytes (.ok locale)
      [{ level := .debug
         message := "resolved character classification locale"
         fields := [("variable", .text var.name), ("value", .text text),
           ("locale", .text recorded)] }]
  /-- A text with a codeset that is not known is an error, and a warning is recorded. -/
  | unrecognized {text codeset : String} (decoded : text.toUTF8 = bytes)
    (named : ofName text = .error (.unsupportedCodeset text codeset)) :
    Settles var bytes (.error (.unsupportedCodeset text codeset))
      [{ level := .warn
         message := "unrecognized locale"
         fields := [("variable", .text var.name), ("value", .text text),
           ("error", .text
             ("locale `" ++ text ++ "` uses unsupported codeset `" ++ codeset ++ "`"))] }]

/-- The rule of the first variable that is set, for variables in the order of their priority. -/
inductive Resolves (environment : Environment) (vars : List LocaleVariable) (outcome : Lookup) :
    Prop where
  /-- If no variable is set, all are asked for, and the locale is the C locale. -/
  | defaulted (unset : ∀ var ∈ vars, environment.isSet var = false)
    (asked : outcome.asked = vars) (result : outcome.result = .ok .c)
    (records : outcome.records =
      [{ level := .debug
         message := "no locale variable set, using the C locale"
         fields := [] }])
  /-- Otherwise the first variable that is set is the last one asked for, and its bytes decide. -/
  | decided {earlier later : List LocaleVariable} {var : LocaleVariable} {bytes : ByteArray}
    (order : vars = earlier ++ var :: later)
    (passed : ∀ before ∈ earlier, environment.isSet before = false)
    (present : environment var = some bytes) (more : bytes.size ≠ 0)
    (asked : outcome.asked = earlier ++ [var])
    (settled : Settles var bytes outcome.result outcome.records)

variable {environment other : Environment} {var : LocaleVariable} {bytes : ByteArray}
variable {vars later : List LocaleVariable} {outcome : Lookup}

/-- Bytes are read as the text whose UTF-8 form they are. -/
theorem fromUTF8?_eq_some_iff {text : String} :
    String.fromUTF8? bytes = some text ↔ text.toUTF8 = bytes := by
  unfold String.fromUTF8?
  split
  · rename_i valid
    rw [Option.some.injEq]
    exact ⟨fun same => same ▸ rfl, fun same => String.toByteArray_inj.1 same.symm⟩
  · rename_i invalid
    refine ⟨fun absurd => (Option.some_ne_none text absurd.symm).elim, fun same => ?_⟩
    exact (invalid (same ▸ text.isValidUTF8)).elim

/-- A text is empty exactly if its UTF-8 form has no bytes. -/
theorem size_toUTF8_eq_zero_iff {text : String} : text.toUTF8.size = 0 ↔ text = "" := by
  rw [ByteArray.size_eq_zero_iff]
  exact String.toByteArray_inj (t := "")

/-- The only reason for a name to be rejected is its codeset. -/
theorem ofName_eq_error {name : String} {error : LocaleError}
    (failed : ofName name = .error error) :
    ∃ codeset, error = .unsupportedCodeset name codeset := by
  unfold ofName at failed
  split at failed
  · contradiction
  · split at failed
    · contradiction
    · split at failed
      · contradiction
      · cases failed
        exact ⟨_, rfl⟩

/-- The outcome if the bytes of a variable decide. -/
def lookupBytes (var : LocaleVariable) (bytes : ByteArray) : Lookup :=
  match String.fromUTF8? bytes with
  | none => ⟨[var], [], .error (.notUnicode var)⟩
  | some value => lookupText var value

/-- If the bytes of a variable decide, only this variable is asked for. -/
theorem asked_lookupBytes : (lookupBytes var bytes).asked = [var] := by
  unfold lookupBytes lookupText
  split
  · rfl
  · split <;> rfl

/-- If the bytes of a variable decide, they lead to the result and to the record of it. -/
theorem settles_lookupBytes :
    Settles var bytes (lookupBytes var bytes).result (lookupBytes var bytes).records := by
  unfold lookupBytes
  split
  · rename_i unread
    have invalid : ∀ text : String, text.toUTF8 ≠ bytes := by
      intro text same
      simp [fromUTF8?_eq_some_iff.2 same] at unread
    exact .undecodable invalid
  · rename_i text read
    have decoded : text.toUTF8 = bytes := fromUTF8?_eq_some_iff.1 read
    unfold lookupText
    split
    · rename_i named
      exact .resolved decoded named (recordedAs_label _)
    · rename_i named
      obtain ⟨codeset, rfl⟩ := ofName_eq_error named
      exact .unrecognized decoded named

/-- A variable that is not set is asked for and passed over. -/
theorem lookupIn_of_unset (unset : environment.isSet var = false) :
    lookupIn environment (var :: later) =
      { lookupIn environment later with asked := var :: (lookupIn environment later).asked } := by
  rw [lookupIn]
  cases present : environment var with
  | none => rfl
  | some bytes =>
    have nothing : bytes.size = 0 := by
      simpa [Environment.isSet, present] using unset
    have empty : String.fromUTF8? bytes = some "" := by
      rw [fromUTF8?_eq_some_iff, ByteArray.size_eq_zero_iff.1 nothing]
      rfl
    simp only [empty, if_pos]

/-- The bytes of a variable that is set decide, and nothing behind it matters. -/
theorem lookupIn_of_set (present : environment var = some bytes) (more : bytes.size ≠ 0) :
    lookupIn environment (var :: later) = lookupBytes var bytes := by
  rw [lookupIn, lookupBytes]
  cases read : String.fromUTF8? bytes with
  | none => simp only [present, read]
  | some text =>
    have nonempty : text ≠ "" := by
      rw [← fromUTF8?_eq_some_iff.1 read] at more
      exact mt size_toUTF8_eq_zero_iff.2 more
    simp only [present, read, if_neg nonempty]

/-- A variable that is not set, in front of the others, is asked for and changes nothing else. -/
theorem Resolves.cons (unset : environment.isSet var = false)
    (resolves : Resolves environment later outcome) :
    Resolves environment (var :: later) { outcome with asked := var :: outcome.asked } := by
  cases resolves with
  | defaulted none asked result records =>
    exact .defaulted (List.forall_mem_cons.2 ⟨unset, none⟩) (congrArg _ asked) result records
  | decided order passed present more asked settled =>
    exact .decided (congrArg _ order) (List.forall_mem_cons.2 ⟨unset, passed⟩) present more
      (congrArg _ asked) settled

/-- Variables asked in any order follow the rule. -/
theorem resolves_lookupIn (environment : Environment) (vars : List LocaleVariable) :
    Resolves environment vars (lookupIn environment vars) := by
  induction vars with
  | nil => exact .defaulted (by simp) rfl rfl rfl
  | cons var later ih =>
    cases set : environment.isSet var with
    | false =>
      rw [lookupIn_of_unset set]
      exact ih.cons set
    | true =>
      obtain ⟨bytes, present, more⟩ := Environment.isSet_iff.1 set
      rw [lookupIn_of_set present more]
      have order : var :: later = [] ++ var :: later := rfl
      exact .decided order (by simp) present more asked_lookupBytes settles_lookupBytes

/-- What is asked for are the first variables, in their order. -/
theorem Resolves.asked_prefix (resolves : Resolves environment vars outcome) :
    outcome.asked <+: vars := by
  cases resolves with
  | defaulted _ asked _ _ =>
    exact asked ▸ List.prefix_refl vars
  | @decided earlier later var _ order _ _ _ asked _ =>
    rw [asked, order]
    exact ⟨later, by rw [List.append_assoc, List.singleton_append]⟩

/-- Environments that agree on the variables asked for lead to the same outcome. -/
theorem lookupIn_congr (vars : List LocaleVariable)
    (agree : ∀ var ∈ (lookupIn environment vars).asked, other var = environment var) :
    lookupIn other vars = lookupIn environment vars := by
  induction vars with
  | nil => rfl
  | cons var later ih =>
    cases set : environment.isSet var with
    | false =>
      rw [lookupIn_of_unset set] at agree ⊢
      obtain ⟨same, rest⟩ := List.forall_mem_cons.1 agree
      have unset : other.isSet var = false := by
        rw [← set, Environment.isSet, same, Environment.isSet]
      rw [lookupIn_of_unset unset, ih rest]
    | true =>
      obtain ⟨bytes, present, more⟩ := Environment.isSet_iff.1 set
      rw [lookupIn_of_set present more] at agree ⊢
      have same : other var = environment var := agree var (by simp [asked_lookupBytes])
      exact lookupIn_of_set (same.trans present) more

/-- The variables are asked for in the order `LC_ALL`, `LC_CTYPE`, `LANG`, none of them twice and
none behind the first that is set to more than nothing. The bytes of this one decide alone, and what
is not asked for has no effect on the result or on what is recorded. -/
theorem lookup_resolves (environment : Environment) :
    let order : List LocaleVariable := [.lcAll, .lcCtype, .lang]
    let outcome := lookup environment
    order.map LocaleVariable.name = ["LC_ALL", "LC_CTYPE", "LANG"] ∧
      Resolves environment order outcome ∧
      outcome.asked <+: order ∧ outcome.asked.Nodup ∧
      ∀ other : Environment,
        (∀ var ∈ outcome.asked, other var = environment var) → lookup other = outcome := by
  intro order outcome
  have resolves : Resolves environment order outcome := resolves_lookupIn environment order
  have distinct : order.Nodup := by decide
  refine ⟨rfl, resolves, resolves.asked_prefix, ?_, fun other agree => ?_⟩
  · exact resolves.asked_prefix.sublist.nodup distinct
  · exact lookupIn_congr order agree

end Locale

end Charwise
