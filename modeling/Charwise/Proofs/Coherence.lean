import Charwise.Proofs.TableStretches
import Charwise.Unicode.Published

/-!
# Coherent character data

The properties of characters come from tables of different Unicode versions, so they need not agree.
The published ones agree in this: white space is always a separator or a control character, and a
letter is never one (`CharacterData.coherent_published`). They do not agree on which characters are
assigned.
-/

-- The tables are lists of some thousand entries, which are gone through to the end.
set_option maxRecDepth 20000

namespace Charwise.Unicode

/-- The general categories of separators, control characters and surrogates, none of which can be
seen. -/
def GeneralCategory.isInvisible : GeneralCategory → Bool
  | .control | .surrogate | .spaceSeparator | .lineSeparator | .paragraphSeparator => true
  | _ => false

/-- Character data are coherent if the properties agree with the general category on what can be
seen. -/
structure CharacterData.Coherent (data : CharacterData) : Prop where
  /-- White space cannot be seen. -/
  whiteSpace : ∀ c, data.whiteSpace c = true → (data.category c).isInvisible = true
  /-- Letters can be seen, or nothing is known of them. -/
  alphabetic : ∀ c, data.alphabetic c = true → (data.category c).isInvisible = false

/-- The code of a character is a code point. -/
theorem toNat_lt_codeBound (c : Char) : c.toNat < codeBound := by
  have valid : c.toNat < 0xD800 ∨ 0xDFFF < c.toNat ∧ c.toNat < 0x110000 := c.valid
  unfold codeBound
  omega

namespace Table

/-- The entries of the general categories are in order. -/
theorem ascending_category : Ascending category.entries Prod.fst :=
  ascending_of_isChain (by decide +kernel)

/-- The boundaries of white space are in order. -/
theorem ascending_whiteSpace : Ascending whiteSpace.boundaries id :=
  ascending_of_isChain (by decide +kernel)

/-- The boundaries of the letters are in order. -/
theorem ascending_alphabetic : Ascending alphabetic.boundaries id :=
  ascending_of_isChain (by decide +kernel)

/-- The entries of the general categories begin at zero. -/
theorem start_category : category.entries[0]?.map Prod.fst = some 0 := by
  decide +kernel

/-- The stretches that cannot be seen: few, and in the table of general categories no others. -/
def invisible : List (Stretch GeneralCategory) :=
  [⟨0x0000, 0x0020, .control⟩, ⟨0x0020, 0x0021, .spaceSeparator⟩, ⟨0x007F, 0x00A0, .control⟩,
    ⟨0x00A0, 0x00A1, .spaceSeparator⟩, ⟨0x1680, 0x1681, .spaceSeparator⟩,
    ⟨0x2000, 0x200B, .spaceSeparator⟩, ⟨0x2028, 0x2029, .lineSeparator⟩,
    ⟨0x2029, 0x202A, .paragraphSeparator⟩, ⟨0x202F, 0x2030, .spaceSeparator⟩,
    ⟨0x205F, 0x2060, .spaceSeparator⟩, ⟨0x3000, 0x3001, .spaceSeparator⟩,
    ⟨0xD800, 0xE000, .surrogate⟩]

/-- The stretches are those of the table whose value says that they cannot be seen. -/
theorem filter_stretches_category :
    category.stretches.filter (·.value.isInvisible) = invisible := by
  decide +kernel

/-- A code point has an invisible general category exactly in the stretches that cannot be seen. -/
theorem isInvisible_category_iff {code : Nat} (bounded : code < codeBound) :
    (category.value code).isInvisible = true ↔ ∃ stretch ∈ invisible, stretch.Has code := by
  simp only [← filter_stretches_category, List.mem_filter]
  constructor
  · intro unseen
    obtain ⟨stretch, listed, here⟩ :=
      category.exists_stretch ascending_category start_category bounded
    have same := category.value_eq_of_mem_stretches ascending_category listed here
    exact ⟨stretch, ⟨listed, same ▸ unseen⟩, here⟩
  · rintro ⟨stretch, ⟨listed, unseen⟩, here⟩
    rw [category.value_eq_of_mem_stretches ascending_category listed here]
    exact unseen

/-- White space lies in the stretches that cannot be seen. -/
theorem whiteSpace_within_invisible :
    ∀ blank ∈ whiteSpace.stretches, ∀ code ∈ List.range' blank.first (blank.behind - blank.first),
      ∃ stretch ∈ invisible, stretch.Has code := by
  decide +kernel

/-- Letters lie apart from the stretches that cannot be seen. -/
theorem alphabetic_apart_invisible :
    (invisible.all fun stretch => alphabetic.stretches.all stretch.apart) = true := by
  decide +kernel

/-- The general category of white space is invisible. -/
theorem isInvisible_of_whiteSpace {code : Nat} (bounded : code < codeBound)
    (blank : whiteSpace.contains code = true) : (category.value code).isInvisible = true := by
  obtain ⟨stretch, listed, first, behind⟩ :=
    whiteSpace.exists_stretch ascending_whiteSpace bounded blank
  have within : code ∈ List.range' stretch.first (stretch.behind - stretch.first) := by
    rw [List.mem_range'_1]
    omega
  exact (isInvisible_category_iff bounded).2
    (whiteSpace_within_invisible stretch listed code within)

/-- The general category of a letter is not invisible. -/
theorem isInvisible_of_alphabetic {code : Nat} (bounded : code < codeBound)
    (letter : alphabetic.contains code = true) : (category.value code).isInvisible = false := by
  obtain ⟨stretch, listed, here⟩ := alphabetic.exists_stretch ascending_alphabetic bounded letter
  rw [Bool.eq_false_iff]
  intro unseen
  obtain ⟨hidden, among, there⟩ := (isInvisible_category_iff bounded).1 unseen
  have separate := List.all_eq_true.1 (List.all_eq_true.1 alphabetic_apart_invisible _ among)
    _ listed
  exact Stretch.not_has_of_apart separate there here

end Table

/-- The published character data are coherent. -/
theorem CharacterData.coherent_published : CharacterData.published.Coherent where
  whiteSpace c blank := Table.isInvisible_of_whiteSpace (toNat_lt_codeBound c) blank
  alphabetic c letter := Table.isInvisible_of_alphabetic (toNat_lt_codeBound c) letter

end Charwise.Unicode
