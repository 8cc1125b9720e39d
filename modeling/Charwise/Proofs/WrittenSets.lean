import Charwise.Proofs.SetRanges

/-!
# Writing set definitions

A set definition is written item by item, a range as its two ends with a hyphen between them. The
definition is read back as the same items in the same order, provided that no item begins with a
hyphen (`CharSet.ranges_written`). A range may end with a hyphen, and its ends may be reversed.
-/

namespace Charwise.CharSet

variable {kind : UnitKind}

/-- What a set is made up of. -/
inductive Item (kind : UnitKind) where
  /-- A unit by itself. -/
  | single (unit : CodeUnit kind)
  /-- The units from the first to the last, both included. -/
  | joined (first last : CodeUnit kind)
  deriving DecidableEq

namespace Item

/-- The unit that an item begins with. -/
def first : Item kind → CodeUnit kind
  | single unit => unit
  | joined first _ => first

/-- The bounds of an item. -/
def bounds : Item kind → CodeUnit kind × CodeUnit kind
  | single unit => (unit, unit)
  | joined first last => (first, last)

/-- The units as which an item is written. -/
def written : Item kind → List (CodeUnit kind)
  | single unit => [unit]
  | joined first last => [first, .hyphen, last]

/-- Whether a unit lies in an item. -/
def Has : Item kind → CodeUnit kind → Prop
  | single only, unit => unit = only
  | joined first last, unit => first ≤ unit ∧ unit ≤ last

/-- The units of an item are those between its bounds. -/
theorem has_iff {item : Item kind} {unit : CodeUnit kind} :
    item.Has unit ↔ item.bounds.1 ≤ unit ∧ unit ≤ item.bounds.2 := by
  cases item with
  | single only =>
    constructor
    · rintro rfl
      exact ⟨Nat.le_refl _, Nat.le_refl _⟩
    · rintro ⟨low, high⟩
      exact CodeUnit.ext_code (Nat.le_antisymm high low)
  | joined first last => exact Iff.rfl

end Item

/-- The definition that consists of items, one behind the other. -/
def written (items : List (Item kind)) : List (CodeUnit kind) :=
  items.flatMap Item.written

/-- A definition begins with the first unit of its first item. -/
theorem head?_written (items : List (Item kind)) :
    (written items).head? = items.head?.map Item.first := by
  cases items with
  | nil => rfl
  | cons item rest => cases item <;> rfl

variable {rest : List (CodeUnit kind)}

/-- A unit with no hyphen behind it is a range by itself. -/
theorem ranges_cons (apart : rest.head? ≠ some .hyphen) (unit : CodeUnit kind) :
    ranges (unit :: rest) = (unit, unit) :: ranges rest := by
  match rest with
  | [] => rfl
  | [_] => rfl
  | middle :: _ :: _ =>
    have other : middle ≠ .hyphen := fun same => apart (congrArg some same)
    rw [ranges, if_neg other]

/-- A range with no hyphen behind it ends where the rest of the definition begins. -/
theorem ranges_joined (apart : rest.head? ≠ some .hyphen) (first last : CodeUnit kind) :
    ranges (first :: .hyphen :: last :: rest) = (first, last) :: ranges rest := by
  have stops : continues rest = false := by
    match rest with
    | [] => rfl
    | [_] => rfl
    | middle :: _ :: _ => exact beq_false_of_ne fun same => apart (congrArg some same)
  rw [ranges, if_pos rfl, stops]
  rfl

/-- An item with no hyphen behind it is read back, and then the rest of the definition. -/
theorem ranges_item (apart : rest.head? ≠ some .hyphen) (item : Item kind) :
    ranges (item.written ++ rest) = item.bounds :: ranges rest := by
  cases item with
  | single unit => exact ranges_cons apart unit
  | joined first last => exact ranges_joined apart first last

/-- A definition written from items, none of which begins with a hyphen, is read as their bounds. -/
theorem ranges_items {items : List (Item kind)}
    (literal : ∀ item ∈ items, item.first ≠ .hyphen) :
    ranges (written items) = items.map Item.bounds := by
  induction items with
  | nil => rfl
  | cons item rest ih =>
    obtain ⟨_, later⟩ := List.forall_mem_cons.1 literal
    have apart : (written rest).head? ≠ some .hyphen := by
      rw [head?_written]
      cases rest with
      | nil => exact Option.some_ne_none _ ∘ Eq.symm
      | cons next _ =>
        have begins : next.first ≠ .hyphen := later next List.mem_cons_self
        exact fun same => begins (Option.some.inj same)
    rw [List.map_cons, ← ih later]
    exact ranges_item apart item

/-- If no item begins with a hyphen, the definition written from the items is read as exactly their
bounds in their order, and the set has the units that lie in one of the items. -/
theorem ranges_written (items : List (Item kind))
    (literal : ∀ item ∈ items, item.first ≠ .hyphen) :
    ranges (written items) = items.map Item.bounds ∧
      ∀ unit, (Matcher.set (written items)).test unit = true ↔ ∃ item ∈ items, item.Has unit := by
  have read := ranges_items literal
  refine ⟨read, fun unit => ?_⟩
  rw [Matcher.test, contains, read, List.any_map, List.any_eq_true]
  refine exists_congr fun item => and_congr_right fun _ => ?_
  simp [Item.has_iff]

/-- A range that ends with a hyphen, a unit and a reversed range are read back from `a--xz-b`. -/
theorem ranges_written_reversed :
    let a : CodeUnit .octet := ⟨0x61, by decide⟩
    let b : CodeUnit .octet := ⟨0x62, by decide⟩
    let x : CodeUnit .octet := ⟨0x78, by decide⟩
    let z : CodeUnit .octet := ⟨0x7A, by decide⟩
    let items := [.joined a .hyphen, .single x, .joined z b]
    (∀ item ∈ items, item.first ≠ .hyphen) ∧
      written items = [a, .hyphen, .hyphen, x, z, .hyphen, b] ∧
      ranges (written items) = [(a, .hyphen), (x, x), (z, b)] ∧
      (Matcher.set (written items)).test x = true := by
  intro a b x z items
  have literal : ∀ item ∈ items, item.first ≠ .hyphen := by decide
  obtain ⟨read, member⟩ := ranges_written items literal
  exact ⟨literal, rfl, read, (member x).2 ⟨.single x, by decide, rfl⟩⟩

end Charwise.CharSet
