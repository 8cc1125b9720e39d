/-!
# Tables over the code points

A property of code points is constant over long stretches, so a table keeps only the code points at
which its value changes, in ascending order. The stretch of a code point is found by counting the
entries that are not above it.
-/

namespace Charwise.Unicode

/-- The number of leading entries whose key is not above `code`, for entries with ascending keys.
The count is found one binary digit at a time, the highest first: `found` holds the digits decided
so far, and a further digit is set if the entries that it would add are still not above `code`. -/
def countUpTo {α : Type} (entries : Array α) (key : α → Nat) (code : Nat) : Nat → Nat → Nat
  | 0, found => found
  | digits + 1, found =>
    let next := found + 1 <<< digits
    if inside : next ≤ entries.size then
      have : next - 1 < entries.size := by
        have := Nat.two_pow_pos digits
        omega
      if key entries[next - 1] ≤ code then countUpTo entries key code digits next
      else countUpTo entries key code digits found
    else countUpTo entries key code digits found

/-- Keys that never fall from one entry to a later one. -/
def Ascending {α : Type} (entries : Array α) (key : α → Nat) : Prop :=
  ∀ i j (inside : j < entries.size) (_ : i ≤ j), key entries[i] ≤ key entries[j]

/-- For ascending keys the count splits the entries: those in front of it are not above `code`, and
the others are. The digits left to decide must suffice for the entries that are still open. -/
theorem countUpTo_splits {α : Type} {entries : Array α} {key : α → Nat} {code : Nat}
    (ascending : Ascending entries key) (digits found : Nat) (bounded : found ≤ entries.size)
    (below : ∀ i (inside : i < entries.size), i < found → key entries[i] ≤ code)
    (above : ∀ i (inside : i < entries.size),
      found + 1 <<< digits ≤ i + 1 → code < key entries[i]) :
    countUpTo entries key code digits found ≤ entries.size ∧
      (∀ i (inside : i < entries.size),
        i < countUpTo entries key code digits found → key entries[i] ≤ code) ∧
      (∀ i (inside : i < entries.size),
        countUpTo entries key code digits found ≤ i → code < key entries[i]) := by
  induction digits generalizing found with
  | zero =>
    simp only [countUpTo]
    exact ⟨bounded, below, fun i inside beyond => above i inside (by omega)⟩
  | succ digits ih =>
    have positive := Nat.two_pow_pos digits
    have double : 1 <<< (digits + 1) = 1 <<< digits + 1 <<< digits := by omega
    simp only [countUpTo]
    split
    · rename_i fits
      split
      · rename_i low
        refine ih _ fits (fun i inside before => ?_) (fun i inside beyond => ?_)
        · exact Nat.le_trans (ascending i _ (by omega) (by omega)) low
        · exact above i inside (by omega)
      · rename_i high
        refine ih _ bounded below (fun i inside beyond => ?_)
        exact Nat.lt_of_lt_of_le (Nat.lt_of_not_le high)
          (ascending _ i inside (by omega))
    · exact ih _ bounded below (fun i inside beyond => by omega)

/-- A set of code points, kept as the ascending code points at which membership changes. -/
structure CodeSet where
  /-- The first code point of the set, the first one after it that is outside, and so on. -/
  boundaries : Array Nat

/-- Membership of a code point: an odd number of changes lies at or below it. -/
def CodeSet.contains (set : CodeSet) (code : Nat) : Bool :=
  countUpTo set.boundaries id code (set.boundaries.size.log2 + 1) 0 % 2 == 1

/-- A value for every code point, kept as the ascending code points at which the value changes. -/
structure CodeMap (α : Type) where
  /-- The value in front of the first entry. -/
  outside : α
  /-- The code points at which the value changes, with the values from there on. -/
  entries : Array (Nat × α)

/-- The value of a code point, which the last entry at or below it gives. -/
def CodeMap.value {α : Type} (map : CodeMap α) (code : Nat) : α :=
  match countUpTo map.entries Prod.fst code (map.entries.size.log2 + 1) 0 with
  | 0 => map.outside
  | found + 1 => (map.entries[found]?.map Prod.snd).getD map.outside

end Charwise.Unicode
