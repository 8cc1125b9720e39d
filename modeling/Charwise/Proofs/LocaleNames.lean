import Charwise.Proofs.LocaleResolution
import Mathlib.Data.List.TakeWhile

/-!
# Locale names

The grammar of locale names (`Locale.Form`) is read by cutting a name at its first at sign and then
at its first point (`Locale.form_iff`). A name with a point in front of the modifier is decided by
its codeset alone, and any other name is a Latin-1 locale, but for the two names of the C locale.
These must stand alone: a modifier, which changes nothing elsewhere, takes them out of the C locale
(`Locale.modifier_ignored_iff`).
-/

namespace Charwise.Locale

/-! ## The grammar of names -/

/-- What may stand behind the rest of a name. -/
inductive Modifier : List Char → Prop where
  /-- Nothing at all. -/
  | absent : Modifier []
  /-- An at sign and any text, which may have more at signs in it. -/
  | present (text : List Char) : Modifier ('@' :: text)

/-- How a name is made up, and which codeset it has, if any. The region is the language with the
territory. -/
inductive Form (name : List Char) : Option (List Char) → Prop where
  /-- A name without a point in front of the modifier has no codeset. -/
  | bare {region modifier : List Char} (spelled : name = region ++ modifier)
    (pointless : '.' ∉ region) (unmarked : '@' ∉ region) (modifies : Modifier modifier) :
    Form name none
  /-- The codeset stands between the first point and the modifier. -/
  | coded {region codeset modifier : List Char}
    (spelled : name = region ++ '.' :: codeset ++ modifier) (pointless : '.' ∉ region)
    (unmarked : '@' ∉ region) (inside : '@' ∉ codeset) (modifies : Modifier modifier) :
    Form name (some codeset)

variable {name region codeset front modifier : List Char} {part : Option (List Char)} {mark : Char}

/-- A text is cut in front of its first mark. -/
theorem takeWhile_ne_append {behind : List Char} (free : mark ∉ front)
    (begins : ∀ first ∈ behind.head?, first = mark) :
    (front ++ behind).takeWhile (· != mark) = front := by
  have inside : ∀ one ∈ front, (one != mark) = true := by
    intro one member
    exact bne_iff_ne.2 fun same => free (same ▸ member)
  rw [List.takeWhile_append_of_pos inside]
  cases behind with
  | nil => simp
  | cons first rest => simp [begins first rfl]

/-- What is left of a text that is cut begins with the mark. -/
theorem dropWhile_ne_append {behind : List Char} (free : mark ∉ front)
    (begins : ∀ first ∈ behind.head?, first = mark) :
    (front ++ behind).dropWhile (· != mark) = behind := by
  have joined := List.takeWhile_append_dropWhile (p := (· != mark)) (l := front ++ behind)
  rw [takeWhile_ne_append free begins] at joined
  exact List.append_cancel_left joined

/-- In front of the first mark there is none. -/
theorem not_mem_takeWhile_ne (text : List Char) : mark ∉ text.takeWhile (· != mark) := by
  intro member
  simpa using List.mem_takeWhile_imp member

/-- What is left of a text is nothing, or begins with the mark. -/
theorem head_dropWhile_ne (text : List Char) :
    ∀ first ∈ (text.dropWhile (· != mark)).head?, first = mark := by
  intro first member
  have stops := List.head?_dropWhile_not (· != mark) text
  rw [Option.mem_def.1 member] at stops
  simpa using stops

/-- A modifier begins with an at sign, if it has any text. -/
theorem modifier_iff {text : List Char} :
    Modifier text ↔ ∀ first ∈ text.head?, first = '@' := by
  constructor
  · rintro (_ | _) <;> simp
  · intro begins
    match text with
    | [] => exact .absent
    | first :: rest =>
      obtain rfl : first = '@' := begins first rfl
      exact .present rest

/-- A modifier with another one behind it is a modifier. -/
theorem Modifier.append (modifies : Modifier modifier) (more : List Char) :
    Modifier (modifier ++ '@' :: more) := by
  cases modifies with
  | absent => exact .present more
  | present text => exact .present _

/-- The modifier is cut off. -/
theorem withoutModifier_append (unmarked : '@' ∉ front) (modifies : Modifier modifier) :
    withoutModifier (front ++ modifier) = front :=
  takeWhile_ne_append unmarked (modifier_iff.1 modifies)

/-- What is cut off is a modifier. -/
theorem exists_modifier (name : List Char) :
    ∃ modifier, name = withoutModifier name ++ modifier ∧ Modifier modifier :=
  ⟨_, List.takeWhile_append_dropWhile.symm, modifier_iff.2 (head_dropWhile_ne name)⟩

/-- A text without a point has no codeset. -/
theorem codeset?_of_pointless (pointless : '.' ∉ region) : codeset? region = none := by
  have rest : (region ++ []).dropWhile (· != '.') = [] := dropWhile_ne_append pointless (by simp)
  rw [List.append_nil] at rest
  rw [codeset?, rest]

/-- The codeset stands behind the first point. -/
theorem codeset?_append (pointless : '.' ∉ region) (codeset : List Char) :
    codeset? (region ++ '.' :: codeset) = some codeset := by
  rw [codeset?, dropWhile_ne_append pointless (by simp)]

/-- A text with a point in it has a region in front of the first one. -/
theorem exists_region (pointed : '.' ∈ front) :
    ∃ region codeset, front = region ++ '.' :: codeset ∧ '.' ∉ region := by
  have joined : front.takeWhile (· != '.') ++ front.dropWhile (· != '.') = front :=
    List.takeWhile_append_dropWhile
  have pointless : '.' ∉ front.takeWhile (· != '.') := not_mem_takeWhile_ne front
  have begins : ∀ first ∈ (front.dropWhile (· != '.')).head?, first = '.' :=
    head_dropWhile_ne front
  cases rest : front.dropWhile (· != '.') with
  | nil =>
    rw [rest, List.append_nil] at joined
    exact absurd pointed (joined ▸ pointless)
  | cons point codeset =>
    obtain rfl : point = '.' := begins point (by rw [rest]; rfl)
    exact ⟨_, codeset, (rest ▸ joined).symm, pointless⟩

/-- The codeset of a name is that of its form. -/
theorem Form.codeset?_eq (form : Form name part) : codeset? (withoutModifier name) = part := by
  cases form with
  | bare spelled pointless unmarked modifies =>
    rw [spelled, withoutModifier_append unmarked modifies]
    exact codeset?_of_pointless pointless
  | coded spelled pointless unmarked inside modifies =>
    rw [spelled, withoutModifier_append (by simp [unmarked, inside]) modifies]
    exact codeset?_append pointless _

/-- Without a point in front of the modifier, a name has the form of a name without a codeset. -/
theorem form_none (pointless : '.' ∉ withoutModifier name) : Form name none := by
  obtain ⟨modifier, spelled, modifies⟩ := exists_modifier name
  exact .bare spelled pointless (not_mem_takeWhile_ne name) modifies

/-- With a point in front of the modifier, a name has the form of a name with a codeset. -/
theorem form_some (pointed : '.' ∈ withoutModifier name) : ∃ codeset, Form name (some codeset) := by
  obtain ⟨modifier, spelled, modifies⟩ := exists_modifier name
  obtain ⟨region, codeset, front, pointless⟩ := exists_region pointed
  have unmarked : '@' ∉ withoutModifier name := not_mem_takeWhile_ne name
  rw [front] at spelled unmarked
  simp only [List.mem_append, List.mem_cons, not_or] at unmarked
  exact ⟨codeset, .coded spelled pointless unmarked.1 unmarked.2.2 modifies⟩

/-- The grammar of names is read by cutting them. -/
theorem form_iff : Form name part ↔ codeset? (withoutModifier name) = part := by
  refine ⟨Form.codeset?_eq, ?_⟩
  rintro rfl
  by_cases pointed : '.' ∈ withoutModifier name
  · obtain ⟨codeset, form⟩ := form_some pointed
    exact form.codeset?_eq ▸ form
  · have form := form_none pointed
    exact form.codeset?_eq ▸ form

/-- A modifier behind a name does not change its form. -/
theorem Form.modified (form : Form name part) (more : List Char) :
    Form (name ++ '@' :: more) part := by
  cases form with
  | bare spelled pointless unmarked modifies =>
    rw [spelled, List.append_assoc]
    exact .bare rfl pointless unmarked (modifies.append more)
  | coded spelled pointless unmarked inside modifies =>
    rw [spelled, List.append_assoc]
    exact .coded rfl pointless unmarked inside (modifies.append more)

/-! ## Names by their forms -/

/-- The locale of a codeset in any spelling. -/
def ofSpelling? (codeset : List Char) : Option Locale :=
  ofCodeset? (String.ofList (normalizeCodeset codeset))

/-- A name without a codeset is a Latin-1 locale, unless it is a name of the C locale. -/
theorem ofName_of_bare {name : String} (form : Form name.toList none)
    (ordinary : ¬ (name = "C" ∨ name = "POSIX")) : ofName name = .ok .latin1 := by
  rw [ofName, if_neg ordinary, form.codeset?_eq]

/-- A name with a codeset is no name of the C locale. -/
theorem Form.ordinary {name : String} (form : Form name.toList (some codeset)) :
    ¬ (name = "C" ∨ name = "POSIX") := by
  have read := form.codeset?_eq
  rintro (rfl | rfl) <;> exact Option.some_ne_none _ read.symm

/-- A name with a codeset is decided by it, and a rejection tells the whole name and the codeset. -/
theorem ofName_of_coded {name : String} (form : Form name.toList (some codeset)) :
    ofName name = (ofSpelling? codeset).elim
      (.error (.unsupportedCodeset name (String.ofList codeset))) .ok := by
  rw [ofName, if_neg form.ordinary, form.codeset?_eq]
  unfold ofSpelling?
  dsimp only
  cases ofCodeset? (String.ofList (normalizeCodeset codeset)) <;> rfl

/-- When two names come to the same, but for the names themselves in what a rejection tells. -/
inductive ReadAlike (one other : String) : Prop where
  /-- The names stand for the same locale. -/
  | accepted {locale : Locale} (first : ofName one = .ok locale)
    (second : ofName other = .ok locale) : ReadAlike one other
  /-- Both names are rejected, and for the same codeset. -/
  | rejected {codeset : String} (first : ofName one = .error (.unsupportedCodeset one codeset))
    (second : ofName other = .error (.unsupportedCodeset other codeset)) : ReadAlike one other

/-- Names with the same codeset are read alike. -/
theorem readAlike_of_coded {one other : String} (first : Form one.toList (some codeset))
    (second : Form other.toList (some codeset)) : ReadAlike one other := by
  have oneRead := ofName_of_coded first
  have otherRead := ofName_of_coded second
  cases known : ofSpelling? codeset with
  | none =>
    rw [known] at oneRead otherRead
    exact .rejected oneRead otherRead
  | some locale =>
    rw [known] at oneRead otherRead
    exact .accepted oneRead otherRead

/-- A name with a modifier is no name of the C locale. -/
theorem ordinary_modified (name modifier : String) :
    ¬ (name ++ "@" ++ modifier = "C" ∨ name ++ "@" ++ modifier = "POSIX") := by
  have marked : '@' ∈ (name ++ "@" ++ modifier).toList := by simp
  rintro (same | same) <;> simp [same] at marked

/-- A modifier changes neither the locale nor the codeset for which a name is rejected, unless it
stands behind one of the two names of the C locale. With a modifier these are Latin-1 locales. The
name may have a modifier already, and the new one may hold any text. -/
theorem modifier_ignored_iff (name modifier : String) :
    (ReadAlike name (name ++ "@" ++ modifier) ↔ ¬ (name = "C" ∨ name = "POSIX")) ∧
      (name = "C" ∨ name = "POSIX" →
        ofName name = .ok .c ∧ ofName (name ++ "@" ++ modifier) = .ok .latin1) := by
  have text : (name ++ "@" ++ modifier).toList = name.toList ++ '@' :: modifier.toList := by simp
  have modified {part : Option (List Char)} (form : Form name.toList part) :
      Form (name ++ "@" ++ modifier).toList part := text ▸ form.modified modifier.toList
  have special (listed : name = "C" ∨ name = "POSIX") :
      ofName name = .ok .c ∧ ofName (name ++ "@" ++ modifier) = .ok .latin1 := by
    have pointless : '.' ∉ withoutModifier name.toList := by
      obtain rfl | rfl := listed <;> decide
    have bare := modified (form_none pointless)
    exact ⟨if_pos listed, ofName_of_bare bare (ordinary_modified name modifier)⟩
  refine ⟨⟨fun alike listed => ?_, fun ordinary => ?_⟩, special⟩
  · obtain ⟨plain, changed⟩ := special listed
    cases alike with
    | accepted first second =>
      rw [plain] at first
      rw [changed] at second
      cases first
      cases second
    | rejected first second =>
      rw [plain] at first
      cases first
  · by_cases pointed : '.' ∈ withoutModifier name.toList
    · obtain ⟨codeset, form⟩ := form_some pointed
      exact readAlike_of_coded form (modified form)
    · have form := form_none pointed
      exact .accepted (ofName_of_bare form ordinary)
        (ofName_of_bare (modified form) (ordinary_modified name modifier))

/-- The modifier of `C@euro` makes a Latin-1 locale of the C locale, and so does the one of
`POSIX@x`. -/
theorem modifier_changes_locale :
    '@' ∉ "C".toList ∧ ofName "C" = .ok .c ∧ ofName ("C" ++ "@" ++ "euro") = .ok .latin1 ∧
      '@' ∉ "POSIX".toList ∧ ofName "POSIX" = .ok .c ∧
      ofName ("POSIX" ++ "@" ++ "x") = .ok .latin1 :=
  ⟨by decide, rfl, rfl, by decide, rfl, rfl⟩

end Charwise.Locale
