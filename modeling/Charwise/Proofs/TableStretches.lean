import Charwise.Unicode.CodeTable
import Mathlib.Data.List.Chain

/-!
# Stretches of a table

A table of code points is a list of stretches: the codes from one entry up to the next. Looking a
code up finds the value of the stretch that has it (`CodeMap.value_eq_of_mem_stretches`), so what is
checked stretch by stretch holds code by code, however many codes a stretch has.
-/

namespace Charwise.Unicode

variable {α : Type} {code : Nat}

/-- The number behind the last code point. -/
def codeBound : Nat := 0x110000

/-- Consecutive codes with the same value. -/
structure Stretch (α : Type) where
  /-- The first of the codes. -/
  first : Nat
  /-- The first code behind them. -/
  behind : Nat
  /-- The value that they have. -/
  value : α
  deriving DecidableEq

/-- Whether a code lies in a stretch. -/
def Stretch.Has (stretch : Stretch α) (code : Nat) : Prop :=
  stretch.first ≤ code ∧ code < stretch.behind

instance (stretch : Stretch α) (code : Nat) : Decidable (stretch.Has code) :=
  inferInstanceAs (Decidable (_ ∧ _))

/-- Whether no code lies in both of two stretches. -/
def Stretch.apart {β : Type} (stretch : Stretch α) (other : Stretch β) : Bool :=
  Nat.ble stretch.behind other.first || Nat.ble other.behind stretch.first

/-- Stretches with a code in common are not apart. -/
theorem Stretch.not_has_of_apart {β : Type} {stretch : Stretch α} {other : Stretch β}
    (separate : stretch.apart other = true) (here : stretch.Has code) : ¬ other.Has code := by
  obtain ⟨first, behind⟩ := here
  rintro ⟨otherFirst, otherBehind⟩
  rw [apart, Bool.or_eq_true, Nat.ble_eq, Nat.ble_eq] at separate
  omega

/-- The stretches of entries, each from its own key to the next one. -/
def stretchesOf : List (Nat × α) → List (Stretch α)
  | [] => []
  | entry :: later =>
    ⟨entry.1, (later.head?.map Prod.fst).getD codeBound, entry.2⟩ :: stretchesOf later

/-- There is one stretch for each entry. -/
theorem mem_stretchesOf {entries : List (Nat × α)} {stretch : Stretch α} :
    stretch ∈ stretchesOf entries ↔ ∃ (i : Nat) (inside : i < entries.length),
      stretch = ⟨entries[i].1, (entries[i + 1]?.map Prod.fst).getD codeBound, entries[i].2⟩ := by
  induction entries with
  | nil => simp [stretchesOf]
  | cons entry later ih =>
    rw [stretchesOf, List.mem_cons, ih]
    constructor
    · rintro (rfl | ⟨i, inside, rfl⟩)
      · exact ⟨0, by simp, by simp [List.head?_eq_getElem?]⟩
      · exact ⟨i + 1, by simpa using inside, rfl⟩
    · rintro ⟨i, inside, rfl⟩
      cases i with
      | zero => exact Or.inl (by simp [List.head?_eq_getElem?])
      | succ i => exact Or.inr ⟨i, by simpa using inside, rfl⟩

/-- Keys that never fall from one entry to the next never fall at all. -/
theorem ascending_of_isChain {entries : Array α} {key : α → Nat}
    (chain : (entries.toList.map key).IsChain (· ≤ ·)) : Ascending entries key := by
  have pairs := List.pairwise_iff_getElem.1 (List.isChain_iff_pairwise.1 chain)
  intro i j inside ordered
  obtain rfl | before := Nat.eq_or_lt_of_le ordered
  · exact Nat.le_refl _
  · have pair := pairs i j (by simp; omega) (by simpa using inside) before
    rw [List.getElem_map, List.getElem_map] at pair
    exact pair

/-- The number of digits that a table is searched with suffices for all of its entries: the count
splits them. -/
theorem countUpTo_spec {entries : Array α} {key : α → Nat} (ascending : Ascending entries key)
    (code : Nat) :
    let count := countUpTo entries key code (entries.size.log2 + 1) 0
    count ≤ entries.size ∧
      (∀ i entry, entries[i]? = some entry → i < count → key entry ≤ code) ∧
      (∀ i entry, entries[i]? = some entry → count ≤ i → code < key entry) := by
  have all : entries.size < 1 <<< (entries.size.log2 + 1) := by
    rw [Nat.one_shiftLeft]
    exact Nat.lt_log2_self
  obtain ⟨bounded, below, above⟩ := countUpTo_splits ascending
    (entries.size.log2 + 1) 0 (Nat.zero_le _) (by simp) (fun i inside enough => by omega)
  refine ⟨bounded, fun i entry present few => ?_, fun i entry present many => ?_⟩
  · obtain ⟨inside, rfl⟩ := Array.getElem?_eq_some_iff.1 present
    exact below i inside few
  · obtain ⟨inside, rfl⟩ := Array.getElem?_eq_some_iff.1 present
    exact above i inside many

/-- A code at an entry or behind it, and in front of the next one, is found at this entry. -/
theorem countUpTo_eq {entries : Array α} {key : α → Nat} (ascending : Ascending entries key)
    {i : Nat} (inside : i < entries.size) (reached : key entries[i] ≤ code)
    (next : ∀ entry, entries[i + 1]? = some entry → code < key entry) :
    countUpTo entries key code (entries.size.log2 + 1) 0 = i + 1 := by
  obtain ⟨bounded, below, above⟩ := countUpTo_spec ascending code
  have present : entries[i]? = some entries[i] := Array.getElem?_eq_getElem inside
  have counted : ¬ countUpTo entries key code (entries.size.log2 + 1) 0 ≤ i := fun few =>
    Nat.lt_irrefl _ (Nat.lt_of_lt_of_le (above i _ present few) reached)
  by_contra more
  have further : i + 1 < entries.size := by omega
  have following : entries[i + 1]? = some entries[i + 1] := Array.getElem?_eq_getElem further
  have before := next _ following
  have under := below (i + 1) _ following (by omega)
  omega

/-- A code in front of the next key, if there is one, is in front of the end of its stretch. -/
theorem lt_getD_codeBound {next : Option Nat} (bounded : code < codeBound)
    (before : ∀ key, next = some key → code < key) : code < next.getD codeBound := by
  cases next with
  | none => exact bounded
  | some key => exact before key rfl

/-- The stretches of a table. -/
def CodeMap.stretches (map : CodeMap α) : List (Stretch α) :=
  stretchesOf map.entries.toList

/-- A code has the value of the stretch that it lies in. -/
theorem CodeMap.value_eq_of_mem_stretches {map : CodeMap α}
    (ascending : Ascending map.entries Prod.fst) {stretch : Stretch α}
    (listed : stretch ∈ map.stretches) (here : stretch.Has code) :
    map.value code = stretch.value := by
  obtain ⟨i, inside, rfl⟩ := mem_stretchesOf.1 listed
  have within : i < map.entries.size := by simpa using inside
  have found : countUpTo map.entries Prod.fst code (map.entries.size.log2 + 1) 0 = i + 1 := by
    refine countUpTo_eq ascending within (by simpa using here.1) (fun entry next => ?_)
    have follows : map.entries.toList[i + 1]? = some entry := by simpa using next
    simpa [follows] using here.2
  rw [value, found]
  simp [within]

/-- If the first entry is at zero, every code point lies in a stretch. -/
theorem CodeMap.exists_stretch {map : CodeMap α} (ascending : Ascending map.entries Prod.fst)
    (start : map.entries[0]?.map Prod.fst = some 0) (bounded : code < codeBound) :
    ∃ stretch ∈ map.stretches, stretch.Has code := by
  obtain ⟨few, below, above⟩ := countUpTo_spec ascending code
  generalize countUpTo map.entries Prod.fst code (map.entries.size.log2 + 1) 0 = count at *
  obtain ⟨first, present, zero⟩ := Option.map_eq_some_iff.1 start
  have positive : count ≠ 0 := by
    rintro rfl
    have before := above 0 first present (Nat.le_refl _)
    omega
  have inside : count - 1 < map.entries.size := by omega
  have reached := below (count - 1) _ (Array.getElem?_eq_getElem inside) (by omega)
  refine ⟨_, mem_stretchesOf.2 ⟨count - 1, by simpa using inside, rfl⟩, by simpa using reached, ?_⟩
  refine lt_getD_codeBound bounded (fun key next => ?_)
  rw [Nat.sub_add_cancel (Nat.pos_of_ne_zero positive)] at next
  obtain ⟨entry, following, rfl⟩ := Option.map_eq_some_iff.1 next
  exact above count entry (by simpa using following) (Nat.le_refl _)

/-- The stretches from every other boundary to the next, the first boundary being taken. -/
def everyOther : List Nat → List (Stretch Unit)
  | [] => []
  | [first] => [⟨first, codeBound, ()⟩]
  | first :: behind :: later => ⟨first, behind, ()⟩ :: everyOther later

/-- There is a stretch for each boundary with an even number of boundaries in front of it. -/
theorem mem_everyOther {boundaries : List Nat} {i : Nat} (even : i % 2 = 0)
    (inside : i < boundaries.length) :
    ⟨boundaries[i], boundaries[i + 1]?.getD codeBound, ()⟩ ∈ everyOther boundaries := by
  fun_induction everyOther boundaries generalizing i with
  | case1 => simp at inside
  | case2 first =>
    obtain rfl : i = 0 := by simpa using inside
    simp
  | case3 first behind later ih =>
    match i with
    | 0 => simp
    | 1 => contradiction
    | i + 2 =>
      have shorter : i < later.length := by
        simp only [List.length_cons] at inside
        omega
      simpa using Or.inr (ih (by omega) shorter)

/-- The stretches of a set. -/
def CodeSet.stretches (set : CodeSet) : List (Stretch Unit) :=
  everyOther set.boundaries.toList

/-- Every code point of a set lies in one of its stretches. -/
theorem CodeSet.exists_stretch {set : CodeSet} (ascending : Ascending set.boundaries id)
    (bounded : code < codeBound) (member : set.contains code = true) :
    ∃ stretch ∈ set.stretches, stretch.Has code := by
  obtain ⟨few, below, above⟩ := countUpTo_spec ascending code
  rw [contains, beq_iff_eq] at member
  generalize countUpTo set.boundaries id code (set.boundaries.size.log2 + 1) 0 = count at *
  have inside : count - 1 < set.boundaries.size := by omega
  have reached := below (count - 1) _ (Array.getElem?_eq_getElem inside) (by omega)
  refine ⟨_, mem_everyOther (i := count - 1) (by omega) (by simpa using inside),
    by simpa using reached, ?_⟩
  refine lt_getD_codeBound bounded (fun key next => ?_)
  rw [Nat.sub_add_cancel (by omega)] at next
  exact above count key (by simpa using next) (Nat.le_refl _)

end Charwise.Unicode
