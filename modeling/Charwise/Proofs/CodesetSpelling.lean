import Charwise.Class.Octet
import Charwise.Proofs.LocaleNames
import Mathlib.Logic.Relation

/-!
# Spellings of a codeset

Of a codeset only the ASCII letters and digits count, in small letters: two codesets are the same
exactly if one becomes the other by putting in and taking out other characters and by changing the
case of ASCII letters (`Locale.respelled_iff`). Six codesets are known, each in any spelling
(`Locale.ofSpelling?_eq_some_iff`). A name is decided by its codeset, and the region and the
modifier have no say (`Locale.codeset_decides`).
-/

namespace Charwise.Locale

/-! ## Letters and digits -/

/-- The capital letters are those of ASCII. -/
theorem isUpper_eq (one : Char) : one.isUpper = Ascii.isUpper one.toNat :=
  Bool.decide_and ..

/-- The letters and digits are those of ASCII. -/
theorem isAlphanum_eq (one : Char) : one.isAlphanum = Ascii.holds .alnum one.toNat := by
  have parts : one.isAlphanum = (one.isUpper || one.isLower || one.isDigit) := rfl
  rw [parts, isUpper_eq]
  rfl

/-- A capital letter of ASCII has a small one. -/
theorem toNat_toLower {capital : Char} (upper : Ascii.isUpper capital.toNat = true) :
    capital.toLower.toNat = capital.toNat + 0x20 := by
  have bound : capital.toNat ≤ 0x5A := by
    simp only [Ascii.isUpper, between, Bool.and_eq_true, decide_eq_true_eq] at upper
    exact upper.2
  rw [← isUpper_eq] at upper
  have small : capital.toLower.val = capital.val + 0x20 :=
    congrArg Char.val (dif_pos (of_decide_eq_true upper))
  change capital.toLower.val.toNat = capital.val.toNat + 0x20
  rw [small, UInt32.toNat_add]
  exact Nat.mod_eq_of_lt (by change capital.toNat + 0x20 < _; omega)

/-- Any other character stays as it is in small letters. -/
theorem toLower_eq_self {one : Char} (other : Ascii.isUpper one.toNat = false) :
    one.toLower = one := by
  rw [← isUpper_eq] at other
  exact dif_neg (of_decide_eq_false other)

/-- The codeset with another character in front: a letter or digit is put into small letters, and
anything else is left out. -/
theorem normalizeCodeset_cons (one : Char) (rest : List Char) :
    normalizeCodeset (one :: rest) =
      if Ascii.holds .alnum one.toNat then one.toLower :: normalizeCodeset rest
      else normalizeCodeset rest := by
  rw [← isAlphanum_eq, normalizeCodeset, List.filter_cons]
  split <;> rfl

/-- A codeset is put into small letters part by part. -/
theorem normalizeCodeset_append (front back : List Char) :
    normalizeCodeset (front ++ back) = normalizeCodeset front ++ normalizeCodeset back := by
  simp [normalizeCodeset]

/-! ## Respelling -/

/-- A change of a spelling that does not count. -/
inductive Respelling : List Char → List Char → Prop where
  /-- A character is put in that is no letter or digit of ASCII. -/
  | inserted (front back : List Char) {one : Char} (other : Ascii.holds .alnum one.toNat = false) :
    Respelling (front ++ back) (front ++ one :: back)
  /-- A capital letter of ASCII is replaced by the small one. -/
  | lowered (front back : List Char) {capital small : Char}
    (upper : Ascii.isUpper capital.toNat = true) (same : small.toNat = capital.toNat + 0x20) :
    Respelling (front ++ capital :: back) (front ++ small :: back)

/-- Spellings of one codeset: each becomes the other by changes that do not count, made or undone
in any order. -/
def Respelled : List Char → List Char → Prop := Relation.EqvGen Respelling

variable {one other : List Char}

/-- A letter and its small letter count the same. -/
theorem normalizeCodeset_lowered {capital small : Char}
    (upper : Ascii.isUpper capital.toNat = true) (same : small.toNat = capital.toNat + 0x20)
    (rest : List Char) : normalizeCodeset (capital :: rest) = normalizeCodeset (small :: rest) := by
  have lower : capital.toLower = small := Char.toNat_inj.1 ((toNat_toLower upper).trans same.symm)
  have bounds : 0x41 ≤ capital.toNat ∧ capital.toNat ≤ 0x5A := by
    simpa [Ascii.isUpper, between] using upper
  have remains : Ascii.isUpper small.toNat = false := by
    simp only [Ascii.isUpper, between, Bool.and_eq_false_iff, decide_eq_false_iff_not]
    omega
  have counted : Ascii.holds .alnum small.toNat = true := by
    simp only [Ascii.holds, Ascii.isUpper, Ascii.isLower, Ascii.isDigit, between, Bool.or_eq_true,
      Bool.and_eq_true, decide_eq_true_eq]
    omega
  rw [normalizeCodeset_cons, normalizeCodeset_cons, if_pos counted, if_pos, lower,
    toLower_eq_self remains]
  simp [Ascii.holds, upper]

/-- A change that does not count leaves the letters and digits as they are. -/
theorem Respelling.normalizeCodeset_eq (change : Respelling one other) :
    normalizeCodeset one = normalizeCodeset other := by
  cases change with
  | inserted front back ignored =>
    rw [normalizeCodeset_append, normalizeCodeset_append, normalizeCodeset_cons, ignored]
    rfl
  | lowered front back upper same =>
    rw [normalizeCodeset_append, normalizeCodeset_append, normalizeCodeset_lowered upper same]

/-- Spellings stay the same codeset with a character put in front of both. -/
theorem Respelled.cons (first : Char) (respelled : Respelled one other) :
    Respelled (first :: one) (first :: other) := by
  induction respelled with
  | rel _ _ change =>
    cases change with
    | inserted front back ignored => exact .rel _ _ (.inserted (first :: front) back ignored)
    | lowered front back upper same => exact .rel _ _ (.lowered (first :: front) back upper same)
  | refl => exact .refl _
  | symm _ _ _ ih => exact ih.symm
  | trans _ _ _ _ _ ih next => exact ih.trans _ _ _ next

/-- A codeset may be spelled by its letters and digits alone, in small letters. -/
theorem respelled_normalizeCodeset (codeset : List Char) :
    Respelled codeset (normalizeCodeset codeset) := by
  induction codeset with
  | nil => exact .refl _
  | cons first rest ih =>
    refine .trans _ _ _ (ih.cons first) ?_
    rw [normalizeCodeset_cons]
    cases counted : Ascii.holds .alnum first.toNat with
    | false => exact .symm _ _ (.rel _ _ (.inserted [] _ counted))
    | true =>
      cases upper : Ascii.isUpper first.toNat with
      | false =>
        rw [if_pos rfl, toLower_eq_self upper]
        exact .refl _
      | true => exact .rel _ _ (.lowered [] _ upper (toNat_toLower upper))

/-- The spellings of a codeset are those with the same letters and digits, in small letters. -/
theorem respelled_iff : Respelled one other ↔ normalizeCodeset one = normalizeCodeset other := by
  constructor
  · intro respelled
    induction respelled with
    | rel _ _ change => exact change.normalizeCodeset_eq
    | refl => rfl
    | symm _ _ _ ih => exact ih.symm
    | trans _ _ _ _ _ ih next => exact ih.trans next
  · intro same
    have back := (respelled_normalizeCodeset other).symm
    rw [← same] at back
    exact (respelled_normalizeCodeset one).trans _ _ _ back

/-! ## Names by their codesets -/

/-- The usual names of the codesets that select a locale. -/
def codesets : Locale → List String
  | .c => ["ASCII", "US-ASCII", "ANSI_X3.4-1968"]
  | .latin1 => ["ISO-8859-1", "Latin1"]
  | .utf8 => ["UTF-8"]

/-- A normalized codeset selects a locale exactly if it is that of a usual name. -/
theorem ofCodeset?_eq_some_iff {codeset : String} {locale : Locale} :
    ofCodeset? codeset = some locale ↔
      codeset ∈ locale.codesets.map fun usual => String.ofList (normalizeCodeset usual.toList) := by
  have normalized :
      locale.codesets.map (fun usual => String.ofList (normalizeCodeset usual.toList)) =
      match locale with
      | .c => ["ascii", "usascii", "ansix341968"]
      | .latin1 => ["iso88591", "latin1"]
      | .utf8 => ["utf8"] := by
    cases locale <;> decide
  rw [normalized]
  unfold ofCodeset?
  cases locale <;> grind

/-- A codeset selects a locale exactly if it is a spelling of one of the usual names. -/
theorem ofSpelling?_eq_some_iff {codeset : List Char} {locale : Locale} :
    ofSpelling? codeset = some locale ↔
      ∃ usual ∈ locale.codesets, Respelled codeset usual.toList := by
  rw [ofSpelling?, ofCodeset?_eq_some_iff, List.mem_map]
  simp only [respelled_iff, String.ofList_inj, @eq_comm _ (normalizeCodeset codeset)]

/-- The locale of a name with a codeset, if there is one, is that of the codeset in any spelling. -/
theorem toOption_ofName {name : String} {codeset : List Char}
    (form : Form name.toList (some codeset)) : (ofName name).toOption = ofSpelling? codeset := by
  rw [ofName_of_coded form]
  cases ofSpelling? codeset <;> rfl

/-- A name with a codeset stands for a locale exactly if the codeset is a spelling of one that
selects it. -/
theorem ofName_eq_ok_iff {name : String} {codeset : List Char} {locale : Locale}
    (form : Form name.toList (some codeset)) :
    ofName name = .ok locale ↔ ∃ usual ∈ locale.codesets, Respelled codeset usual.toList := by
  rw [ofName_of_coded form, ← ofSpelling?_eq_some_iff]
  cases ofSpelling? codeset <;> simp

/-- A name that is none of the two names of the C locale is a Latin-1 locale if it has no point in
front of the modifier. Otherwise the locale, or that there is none, is told by the letters and
digits of the codeset in small letters: it is the locale of which the codeset is a usual name, in
any spelling, and no other name with a spelling of the codeset is read otherwise, whatever its
region and its modifier are. A rejection tells the whole name and the codeset as it stands in the
name. -/
theorem codeset_decides (name : String) (ordinary : ¬ (name = "C" ∨ name = "POSIX")) :
    ('.' ∉ withoutModifier name.toList → ofName name = .ok .latin1) ∧
      ('.' ∈ withoutModifier name.toList → ∃ codeset, Form name.toList (some codeset) ∧
        (ofName name).toOption = ofCodeset? (String.ofList (normalizeCodeset codeset)) ∧
        (∀ locale, ofName name = .ok locale ↔
          ∃ usual ∈ locale.codesets, Respelled codeset usual.toList) ∧
        ∀ (other : String) (spelling : List Char), Form other.toList (some spelling) →
          Respelled codeset spelling → (ofName other).toOption = (ofName name).toOption) ∧
      ∀ error, ofName name = .error error → ∃ codeset,
        error = .unsupportedCodeset name (String.ofList codeset) ∧
          Form name.toList (some codeset) := by
  refine ⟨fun pointless => ?_, fun pointed => ?_, fun error failed => ?_⟩
  · exact ofName_of_bare (form_none pointless) ordinary
  · obtain ⟨codeset, form⟩ := form_some pointed
    refine ⟨codeset, form, toOption_ofName form, fun _ => ofName_eq_ok_iff form,
      fun other spelling second respelled => ?_⟩
    rw [toOption_ofName form, toOption_ofName second, ofSpelling?, ofSpelling?,
      respelled_iff.1 respelled]
  · by_cases pointed : '.' ∈ withoutModifier name.toList
    · obtain ⟨codeset, form⟩ := form_some pointed
      refine ⟨codeset, ?_, form⟩
      rw [ofName_of_coded form] at failed
      cases known : ofSpelling? codeset with
      | none =>
        rw [known] at failed
        exact (Except.error.inj failed).symm
      | some locale =>
        rw [known] at failed
        cases failed
    · rw [ofName_of_bare (form_none pointed) ordinary] at failed
      cases failed

/-- Another region, another case, other marks and no modifier lead to the same rejection, and for a
codeset that is known to the same locale. -/
theorem codeset_decides_spelled :
    let name := "ja_JP.EUC-JP@x"
    let other := "C.euc.jp"
    let known := "de_DE.UTF-8@euro"
    let otherKnown := "C.utf8"
    (¬ (name = "C" ∨ name = "POSIX") ∧ '.' ∈ withoutModifier name.toList ∧
        Form other.toList (some "euc.jp".toList) ∧ Respelled "EUC-JP".toList "euc.jp".toList ∧
        (ofName other).toOption = (ofName name).toOption ∧
        ofName name = .error (.unsupportedCodeset name "EUC-JP")) ∧
      ¬ (known = "C" ∨ known = "POSIX") ∧ '.' ∈ withoutModifier known.toList ∧
        Form otherKnown.toList (some "utf8".toList) ∧ Respelled "UTF-8".toList "utf8".toList ∧
        (ofName otherKnown).toOption = (ofName known).toOption ∧ ofName known = .ok .utf8 := by
  intro name other known otherKnown
  constructor
  · have ordinary : ¬ (name = "C" ∨ name = "POSIX") := by decide
    have pointed : '.' ∈ withoutModifier name.toList := by decide
    have cut : codeset? (withoutModifier name.toList) = some "EUC-JP".toList := by decide
    have spelled : Form other.toList (some "euc.jp".toList) := form_iff.2 (by decide)
    have respelled : Respelled "EUC-JP".toList "euc.jp".toList := respelled_iff.2 (by decide)
    have unknown : ofCodeset? (String.ofList (normalizeCodeset "EUC-JP".toList)) = none := by
      decide
    obtain ⟨_, decided, rejected⟩ := codeset_decides name ordinary
    obtain ⟨codeset, form, read, _, same⟩ := decided pointed
    obtain rfl : "EUC-JP".toList = codeset := Option.some.inj (cut.symm.trans form.codeset?_eq)
    refine ⟨ordinary, pointed, spelled, respelled, same other _ spelled respelled, ?_⟩
    cases outcome : ofName name with
    | ok locale =>
      rw [outcome, unknown] at read
      cases read
    | error error =>
      obtain ⟨told, rfl, again⟩ := rejected error outcome
      obtain rfl : "EUC-JP".toList = told := Option.some.inj (cut.symm.trans again.codeset?_eq)
      rfl
  · have ordinary : ¬ (known = "C" ∨ known = "POSIX") := by decide
    have pointed : '.' ∈ withoutModifier known.toList := by decide
    have cut : codeset? (withoutModifier known.toList) = some "UTF-8".toList := by decide
    have spelled : Form otherKnown.toList (some "utf8".toList) := form_iff.2 (by decide)
    have respelled : Respelled "UTF-8".toList "utf8".toList := respelled_iff.2 (by decide)
    obtain ⟨codeset, form, _, selects, same⟩ := (codeset_decides known ordinary).2.1 pointed
    obtain rfl : "UTF-8".toList = codeset := Option.some.inj (cut.symm.trans form.codeset?_eq)
    have usual : ∃ usual ∈ utf8.codesets, Respelled "UTF-8".toList usual.toList :=
      ⟨"UTF-8", List.mem_singleton.2 rfl, .refl _⟩
    exact ⟨ordinary, pointed, spelled, respelled, same otherKnown _ spelled respelled,
      (selects .utf8).2 usual⟩

end Charwise.Locale
