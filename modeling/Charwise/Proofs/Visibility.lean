import Charwise.Encoding
import Charwise.Proofs.Coherence

/-!
# Visible letters, digits and punctuation

What is a letter, a digit or punctuation can be seen, as graphic and as printable: in the tables of
eight-bit characters always, and by any coherent character data if the character is assigned
(`Encoding.visible_iff_assigned`). The published data are coherent. A letter that their table of
letters knows and the older table of general categories does not is neither graphic nor printable
(`Encoding.letter_not_visible`).
-/

namespace Charwise

open Unicode

namespace Ascii

/-- Letters, digits and punctuation are printable and no space. -/
theorem visible_of_named {code : Nat}
    (named : holds .alnum code = true ∨ holds .punct code = true) :
    holds .graph code = true ∧ holds .print code = true := by
  simp only [holds, isUpper, isLower, isDigit, isPunct, isPrint, isSpace, between, Bool.or_eq_true,
    Bool.and_eq_true, Bool.not_eq_true', Bool.or_eq_false_iff, Bool.and_eq_false_iff,
    decide_eq_true_eq, decide_eq_false_iff_not, beq_eq_false_iff_ne] at named ⊢
  omega

end Ascii

namespace Latin1

/-- What is named in a region is visible there. -/
theorem Region.visible_of_named (region : Region)
    (named : region.holds .alnum = true ∨ region.holds .punct = true) :
    region.holds .graph = true ∧ region.holds .print = true := by
  revert named
  cases region <;> decide

/-- Letters, digits and punctuation of either half are printable and no space. -/
theorem visible_of_named {code : Nat}
    (named : holds .alnum code = true ∨ holds .punct code = true) :
    holds .graph code = true ∧ holds .print code = true := by
  unfold holds at named ⊢
  split
  · rename_i lower
    simp only [if_pos lower] at named
    exact Ascii.visible_of_named named
  · rename_i upper
    simp only [if_neg upper] at named
    cases known : region? code with
    | none => simp [known] at named
    | some region =>
      simp only [known, Option.any_some] at named ⊢
      exact region.visible_of_named named

end Latin1

namespace Unicode.CharacterData

variable {data : CharacterData} {c : Char}

/-- By coherent data, the general category of a letter, a digit or punctuation can be seen. -/
theorem isInvisible_of_named (coherent : data.Coherent)
    (named : data.basic .alnum c = true ∨ data.basic .punct c = true) :
    (data.category c).isInvisible = false := by
  simp only [basic, Bool.or_eq_true, beq_iff_eq, Category.contains] at named
  obtain (letter | digit) | punct := named
  · exact coherent.alphabetic c letter
  · rw [digit]
    rfl
  · cases category : data.category c <;> rw [category] at punct <;> first | rfl | contradiction

/-- By coherent data, a character that can be seen is graphic exactly if it is assigned. -/
theorem basic_graph_iff_assigned (coherent : data.Coherent)
    (visible : (data.category c).isInvisible = false) :
    data.basic .graph c = true ↔ data.category c ≠ .unassigned := by
  have full : data.whiteSpace c = false := by
    rw [Bool.eq_false_iff]
    intro blank
    simp [coherent.whiteSpace c blank] at visible
  simp only [basic, isGraph, full, Bool.not_false, Bool.true_and]
  revert visible
  cases data.category c <;> decide

/-- A character that can be seen is printable exactly if it is graphic. -/
theorem basic_print_iff_graph (visible : (data.category c).isInvisible = false) :
    data.basic .print c = true ↔ data.basic .graph c = true := by
  have spaceless : data.category c ≠ .spaceSeparator := by
    rintro same
    simp [same, GeneralCategory.isInvisible] at visible
  have ordinary : data.category c ≠ .control := by
    rintro same
    simp [same, GeneralCategory.isInvisible] at visible
  simp [basic, isPrint, spaceless, ordinary]

/-- A named character that is not assigned is a letter by its properties, and no digit or
punctuation. -/
theorem alphabetic_of_unassigned (named : data.basic .alnum c = true ∨ data.basic .punct c = true)
    (unassigned : data.category c = .unassigned) :
    data.basic .alpha c = true ∧ data.basic .digit c = false ∧ data.basic .punct c = false := by
  simpa [basic, unassigned, Category.contains, GeneralCategory.group] using named

end Unicode.CharacterData

namespace Encoding

/-- The encodings, with the published character data and with a locale where one is asked for. -/
def published (locale : Locale) : List Encoding :=
  [.ascii, .latin1, .narrow locale, .wide .published locale, .unicode .published]

/-- The general category by which a character is classified. Where characters are classified by a
table of eight-bit characters there is none. -/
def category? : (e : Encoding) → e.Unit → Option GeneralCategory
  | .wide data .utf8, unit => unit.scalar?.map data.category
  | .unicode data, unit => unit.scalar?.map data.category
  | _, _ => none

/-- An encoding is coherent if the character data in it are. -/
def Coherent : Encoding → Prop
  | .ascii | .latin1 | .narrow _ => True
  | .wide data _ | .unicode data => data.Coherent

/-- The encodings with the published character data are coherent. -/
theorem coherent_of_published {locale : Locale} {e : Encoding}
    (listed : e ∈ published locale) : e.Coherent := by
  simp only [published, List.mem_cons, List.not_mem_nil, or_false] at listed
  obtain rfl | rfl | rfl | rfl | rfl := listed
  · trivial
  · trivial
  · trivial
  · exact CharacterData.coherent_published
  · exact CharacterData.coherent_published

/-- What a named unit owes to the general category by which it is classified, if there is one. -/
structure VisibleIfAssigned (e : Encoding) (unit : e.Unit) : Prop where
  /-- The unit is graphic unless its character is unassigned. -/
  graph_iff : e.isBasic .graph unit = true ↔ e.category? unit ≠ some .unassigned
  /-- The unit is printable unless its character is unassigned. -/
  print_iff : e.isBasic .print unit = true ↔ e.category? unit ≠ some .unassigned
  /-- An unassigned character is named only as a letter, since digits and punctuation are told by
  the general category itself. -/
  letter_of_unassigned : e.category? unit = some .unassigned →
    e.isBasic .alpha unit = true ∧ e.isBasic .digit unit = false ∧ e.isBasic .punct unit = false

/-- A unit that is visible, and for which there is no general category, owes nothing more. -/
theorem VisibleIfAssigned.of_visible {e : Encoding} {unit : e.Unit}
    (unclassified : e.category? unit = none)
    (visible : e.isBasic .graph unit = true ∧ e.isBasic .print unit = true) :
    e.VisibleIfAssigned unit := by
  constructor
  · simp [unclassified, visible.1]
  · simp [unclassified, visible.2]
  · simp [unclassified]

/-- A named character owes what coherent character data say of it. -/
theorem VisibleIfAssigned.of_character {e : Encoding} {unit : e.Unit} {data : CharacterData}
    {c : Char} (coherent : data.Coherent) (category : e.category? unit = some (data.category c))
    (same : ∀ one, e.isBasic one unit = data.basic one c)
    (named : e.isBasic .alnum unit = true ∨ e.isBasic .punct unit = true) :
    e.VisibleIfAssigned unit := by
  simp only [same] at named
  have visible := CharacterData.isInvisible_of_named coherent named
  have graphic := CharacterData.basic_graph_iff_assigned coherent visible
  constructor
  · simp [same, category, graphic]
  · simp [same, category, CharacterData.basic_print_iff_graph visible, graphic]
  · simp only [same, category, Option.some.injEq]
    exact CharacterData.alphabetic_of_unassigned named

/-- In a coherent encoding, named units are visible unless they are unassigned. -/
theorem Coherent.visibleIfAssigned {e : Encoding} (coherent : e.Coherent) {unit : e.Unit}
    (named : e.isBasic .alnum unit = true ∨ e.isBasic .punct unit = true) :
    e.VisibleIfAssigned unit := by
  cases e with
  | ascii => exact .of_visible rfl (Ascii.visible_of_named named)
  | latin1 => exact .of_visible rfl (Latin1.visible_of_named named)
  | narrow locale =>
    cases locale with
    | c => exact .of_visible rfl (Ascii.visible_of_named named)
    | latin1 => exact .of_visible rfl (Latin1.visible_of_named named)
    | utf8 => exact .of_visible rfl (Ascii.visible_of_named named)
  | wide data locale =>
    cases locale with
    | c => exact .of_visible rfl (Ascii.visible_of_named named)
    | latin1 => exact .of_visible rfl (Latin1.visible_of_named named)
    | utf8 =>
      have present := CodeUnit.scalar?_of_scalar unit
      have category : (wide data .utf8).category? unit = some (data.category _) :=
        congrArg (Option.map data.category) present
      refine .of_character coherent category (fun one => ?_) named
      change unit.scalar?.any (data.basic one) = _
      rw [present, Option.any_some]
  | unicode data =>
    cases present : CodeUnit.scalar? unit with
    | none =>
      -- A unit that is no character belongs to no basic class.
      simp [isBasic_unicode, present] at named
    | some c =>
      have category : (unicode data).category? unit = some (data.category c) :=
        congrArg (Option.map data.category) present
      refine .of_character coherent category (fun one => ?_) named
      rw [isBasic_unicode, present, Option.any_some]

/-- In every encoding whose character data are coherent, under every locale, a letter, a digit or a
punctuation mark is graphic exactly if it is printable, and it is both unless the general category
says that its character is unassigned. Digits and punctuation are always both, so what is left out
are letters that the general categories do not know. The published character data are coherent, and
there these are the letters of later versions. -/
theorem visible_iff_assigned (e : Encoding) (unit : e.Unit)
    (named : e.isBasic .alnum unit = true ∨ e.isBasic .punct unit = true) :
    (e.Coherent → e.VisibleIfAssigned unit) ∧ ∀ locale, e ∈ published locale → e.Coherent :=
  ⟨fun coherent => coherent.visibleIfAssigned named, fun _ => coherent_of_published⟩

/-- A Latin letter with an accent is assigned, and so it is visible. -/
theorem visible_iff_assigned_accent :
    let e := Encoding.unicode .published
    let accented : e.Unit := ⟨0xE9, by decide⟩
    e ∈ published .utf8 ∧ e.isBasic .alnum accented = true ∧
      e.category? accented = some .lowercaseLetter ∧
      e.isBasic .graph accented = true ∧ e.isBasic .print accented = true := by
  intro e accented
  have listed : e ∈ published .utf8 := by simp [e, published]
  have named : e.isBasic .alnum accented = true := by decide +kernel
  have category : e.category? accented = some .lowercaseLetter := by decide +kernel
  obtain ⟨visibleIfAssigned, coherent⟩ := visible_iff_assigned e accented (Or.inl named)
  have visible := visibleIfAssigned (coherent .utf8 listed)
  have assigned : e.category? accented ≠ some .unassigned := by simp [category]
  exact ⟨listed, named, category, visible.graph_iff.2 assigned, visible.print_iff.2 assigned⟩

/-- The Cyrillic capital letter at U+1C89 is a letter of a later version than the table of general
categories. It is neither graphic nor printable, in 32-bit units and as a character. -/
theorem letter_not_visible :
    let word : (Encoding.unicode .published).Unit := ⟨0x1C89, by decide⟩
    let wide : (Encoding.wide .published .utf8).Unit := ⟨0x1C89, by decide⟩
    ((Encoding.unicode .published).isBasic .alnum word = true ∧
        (Encoding.unicode .published).isBasic .graph word = false ∧
        (Encoding.unicode .published).isBasic .print word = false) ∧
      (Encoding.wide .published .utf8).isBasic .alnum wide = true ∧
        (Encoding.wide .published .utf8).isBasic .graph wide = false ∧
        (Encoding.wide .published .utf8).isBasic .print wide = false := by
  decide +kernel

end Encoding

end Charwise
