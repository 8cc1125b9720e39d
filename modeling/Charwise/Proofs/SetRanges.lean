import Charwise.Matcher

/-!
# Ranges of a set definition

Which hyphens of a definition join their neighbours to a range can be told position by position: a
hyphen does so if it has a unit on each side and the unit in front of it does not join
(`CharSet.Joins`). A set has the units between the neighbours of such a hyphen, and the units that
stand alone, away from all of them (`Matcher.test_set_iff`).
-/

namespace Charwise

variable {kind : UnitKind}

namespace CharSet

/-- Whether the unit at a position joins its neighbours to a range. It is a hyphen, it is not the
first or the last unit, and the unit in front of it does not join. -/
def Joins (definition : List (CodeUnit kind)) : Nat → Prop
  | 0 => False
  | before + 1 =>
    definition[before + 1]? = some .hyphen ∧ before + 1 < definition.length - 1 ∧
      ¬ Joins definition before

/-- Whether a hyphen joins can be found out by going through the definition. -/
instance decidableJoins (definition : List (CodeUnit kind)) :
    (position : Nat) → Decidable (Joins definition position)
  | 0 => .isFalse id
  | before + 1 =>
    have := decidableJoins definition before
    inferInstanceAs (Decidable (definition[before + 1]? = some .hyphen ∧
      before + 1 < definition.length - 1 ∧ ¬ Joins definition before))

/-- Whether the unit at a position stands alone: it does not join, and no unit next to it does. -/
def Alone (definition : List (CodeUnit kind)) (position : Nat) : Prop :=
  ¬ Joins definition (position - 1) ∧ ¬ Joins definition position ∧
    ¬ Joins definition (position + 1)

/-- The range that a definition has from a position on. -/
inductive Begins (definition : List (CodeUnit kind)) (position : Nat) :
    CodeUnit kind × CodeUnit kind → Prop where
  /-- A unit in front of one that joins begins a range to the unit behind that one. -/
  | joined {first last : CodeUnit kind} (joins : Joins definition (position + 1))
    (here : definition[position]? = some first)
    (behind : definition[position + 2]? = some last) : Begins definition position (first, last)
  /-- A unit that stands alone is the range from itself to itself. -/
  | alone {unit : CodeUnit kind} (alone : Alone definition position)
    (here : definition[position]? = some unit) : Begins definition position (unit, unit)

variable {definition : List (CodeUnit kind)} {position start : Nat}
variable {range : CodeUnit kind × CodeUnit kind}

/-- Behind a unit that does not join, every hyphen joins that has a unit behind it. -/
theorem joins_succ_iff (free : ¬ Joins definition position) :
    Joins definition (position + 1) ↔
      definition[position + 1]? = some .hyphen ∧ position + 1 < definition.length - 1 := by
  rw [Joins, and_iff_left free]

/-- The first unit does not join. -/
theorem Joins.pos (joins : Joins definition position) : 0 < position := by
  cases position with
  | zero => exact joins.elim
  | succ before => exact Nat.succ_pos before

/-- Of two units in a row at most one joins. -/
theorem Joins.not_succ (joins : Joins definition position) : ¬ Joins definition (position + 1) :=
  fun next => next.2.2 joins

/-- From a unit on that does not join, the rest of a definition is read as by itself. -/
theorem joins_drop (free : ¬ Joins definition start) (position : Nat) :
    Joins (definition.drop start) position ↔ Joins definition (start + position) := by
  induction position with
  | zero => exact iff_of_false id free
  | succ before ih =>
    have length : (definition.drop start).length = definition.length - start :=
      List.length_drop
    rw [Joins, ← Nat.add_assoc, Joins, ih, List.getElem?_drop, length, Nat.add_assoc]
    refine and_congr_right fun _ => and_congr_left fun _ => ?_
    omega

/-- Units stand alone in the rest of a definition as they do in the whole, if the rest begins with a
unit that does not join and, where it is the end of a range, is the beginning of another. -/
theorem alone_drop (free : ¬ Joins definition start)
    (chained : Joins definition (start - 1) → Joins definition (start + 1)) (position : Nat) :
    Alone (definition.drop start) position ↔ Alone definition (start + position) := by
  rw [Alone, Alone, joins_drop free, joins_drop free, joins_drop free]
  cases position with
  | zero =>
    constructor
    · rintro ⟨_, _, behind⟩
      exact ⟨fun joins => behind (chained joins), free, behind⟩
    · rintro ⟨_, _, behind⟩
      exact ⟨free, free, behind⟩
  | succ before => rfl

/-- Ranges begin in the rest of a definition where they do in the whole. -/
theorem begins_drop (free : ¬ Joins definition start)
    (chained : Joins definition (start - 1) → Joins definition (start + 1)) (position : Nat) :
    Begins (definition.drop start) position range ↔ Begins definition (start + position) range := by
  have same (offset : Nat) :
      (definition.drop start)[position + offset]? = definition[start + position + offset]? := by
    rw [List.getElem?_drop, Nat.add_assoc]
  constructor
  · rintro (⟨joins, here, behind⟩ | ⟨alone, here⟩)
    · exact .joined ((joins_drop free _).1 joins) (same 0 ▸ here) (same 2 ▸ behind)
    · exact .alone ((alone_drop free chained _).1 alone) (same 0 ▸ here)
  · rintro (⟨joins, here, behind⟩ | ⟨alone, here⟩)
    · exact .joined ((joins_drop free _).2 joins) ((same 0).trans here) ((same 2).trans behind)
    · exact .alone ((alone_drop free chained _).2 alone) ((same 0).trans here)

/-- The ranges of a definition are those that begin in front of a position and those of the rest. -/
theorem exists_begins_iff (free : ¬ Joins definition start)
    (chained : Joins definition (start - 1) → Joins definition (start + 1)) :
    (∃ position, Begins definition position range) ↔
      (∃ position < start, Begins definition position range) ∨
        ∃ position, Begins (definition.drop start) position range := by
  constructor
  · rintro ⟨position, begins⟩
    obtain early | late := Nat.lt_or_ge position start
    · exact Or.inl ⟨position, early, begins⟩
    · obtain ⟨more, rfl⟩ := Nat.exists_eq_add_of_le late
      exact Or.inr ⟨more, (begins_drop free chained more).2 begins⟩
  · rintro (⟨position, _, begins⟩ | ⟨more, begins⟩)
    · exact ⟨position, begins⟩
    · exact ⟨start + more, (begins_drop free chained more).1 begins⟩

/-- No range begins at a unit that joins. -/
theorem Joins.not_begins (joins : Joins definition position) :
    ¬ Begins definition position range := by
  rintro (⟨next, _, _⟩ | ⟨alone, _⟩)
  · exact joins.not_succ next
  · exact alone.2.1 joins

/-- At the end of a range another one begins only if the unit behind it joins. -/
theorem Joins.not_begins_succ (joins : Joins definition position)
    (stops : ¬ Joins definition (position + 2)) : ¬ Begins definition (position + 1) range := by
  rintro (⟨next, _, _⟩ | ⟨alone, _⟩)
  · exact stops next
  · exact alone.1 joins

/-- A first unit with no unit behind it that joins is a range by itself, and the rest of the
definition is read as by itself. -/
theorem exists_begins_cons_iff {unit : CodeUnit kind} {rest : List (CodeUnit kind)}
    (free : ¬ Joins (unit :: rest) 1) :
    (∃ position, Begins (unit :: rest) position range) ↔
      range = (unit, unit) ∨ ∃ position, Begins rest position range := by
  rw [exists_begins_iff free (fun joins => joins.elim)]
  refine or_congr ⟨?_, ?_⟩ Iff.rfl
  · rintro ⟨position, early, begins⟩
    obtain rfl := Nat.lt_one_iff.1 early
    cases begins with
    | joined joins => exact absurd joins free
    | alone _ here =>
      cases here
      rfl
  · rintro rfl
    exact ⟨0, Nat.one_pos, .alone ⟨id, id, free⟩ rfl⟩

/-- From the beginning of a joined range to the next position at which one begins, there is no other
range. -/
theorem exists_begins_lt_iff {first last : CodeUnit kind} (joins : Joins definition 1)
    (here : definition[0]? = some first) (behind : definition[2]? = some last) (early : 0 < start)
    (none : ∀ position, 1 < position → position < start → ¬ Begins definition position range) :
    (∃ position < start, Begins definition position range) ↔ range = (first, last) := by
  constructor
  · rintro ⟨position, before, begins⟩
    match position with
    | 0 =>
      cases begins with
      | joined _ same more =>
        cases here.symm.trans same
        cases behind.symm.trans more
        rfl
      | alone alone => exact absurd joins alone.2.2
    | 1 => exact absurd begins joins.not_begins
    | more + 2 => exact absurd begins (none _ (by omega) before)
  · rintro rfl
    exact ⟨0, early, .joined joins here behind⟩

/-- The empty definition has no range. -/
theorem not_begins_nil : ¬ Begins [] position range := by
  rintro (⟨_, here, _⟩ | ⟨_, here⟩) <;> cases here

/-- The units behind a range continue it exactly if the first of them joins. -/
theorem continues_iff (first last : CodeUnit kind) (rest : List (CodeUnit kind)) :
    continues rest = true ↔ Joins (first :: .hyphen :: last :: rest) 3 := by
  have joins : Joins (first :: .hyphen :: last :: rest) 1 := ⟨rfl, by simp, id⟩
  rw [joins_succ_iff joins.not_succ]
  match rest with
  | [] => simp [continues]
  | [_] => simp [continues]
  | unit :: _ :: _ => simp [continues]

/-- The ranges of a definition are those that begin at its positions. -/
theorem mem_ranges_iff (definition : List (CodeUnit kind))
    (range : CodeUnit kind × CodeUnit kind) :
    range ∈ ranges definition ↔ ∃ position, Begins definition position range := by
  -- One case for a joined range, one for a single unit in front of others, and the short lists.
  fun_induction ranges definition with
  | case1 first last rest fromLast fromRest =>
    have joins : Joins (first :: .hyphen :: last :: rest) 1 := ⟨rfl, by simp, id⟩
    have free := joins.not_succ
    by_cases chained : continues rest = true
    · have further := (continues_iff first last rest).1 chained
      rw [if_pos chained, List.mem_cons, fromLast, exists_begins_iff free fun _ => further,
        exists_begins_lt_iff joins rfl rfl Nat.two_pos fun _ _ _ => by omega]
      rfl
    · have stops := mt (continues_iff first last rest).2 chained
      have none : ∀ position, 1 < position → position < 3 →
          ¬ Begins (first :: .hyphen :: last :: rest) position range := by
        intro position behind before
        obtain rfl : position = 2 := by omega
        exact joins.not_begins_succ stops
      rw [if_neg chained, List.mem_cons, fromRest,
        exists_begins_iff stops fun next => (free next).elim,
        exists_begins_lt_iff joins rfl rfl (by decide) none]
      rfl
  | case2 first middle last rest other fromMiddle =>
    have free : ¬ Joins (first :: middle :: last :: rest) 1 := by
      rintro ⟨joins, _⟩
      exact other (Option.some.inj joins)
    rw [exists_begins_cons_iff free, List.mem_cons, fromMiddle]
  | case3 first second =>
    have free : ¬ Joins [first, second] 1 := fun joins => absurd joins.2.1 (by simp)
    have last : ¬ Joins [second] 1 := fun joins => absurd joins.2.1 (by simp)
    rw [exists_begins_cons_iff free, exists_begins_cons_iff last]
    simp [not_begins_nil]
  | case4 single =>
    have last : ¬ Joins [single] 1 := fun joins => absurd joins.2.1 (by simp)
    rw [exists_begins_cons_iff last]
    simp [not_begins_nil]
  | case5 => simp [not_begins_nil]

/-- A set contains the units that lie in a range of its definition. -/
theorem contains_iff {unit : CodeUnit kind} :
    contains definition unit = true ↔
      ∃ range ∈ ranges definition, range.1 ≤ unit ∧ unit ≤ range.2 := by
  simp [contains]

/-- A hyphen that joins has a unit on each side, which bound its range. -/
theorem Joins.bounds (joins : Joins definition position) :
    ∃ first last, definition[position - 1]? = some first ∧
      definition[position + 1]? = some last ∧ (first, last) ∈ ranges definition := by
  cases position with
  | zero => exact joins.elim
  | succ before =>
    have room : before + 1 < definition.length - 1 := joins.2.1
    have here : definition[before]? = some definition[before] := List.getElem?_eq_getElem _
    have behind : definition[before + 2]? = some definition[before + 2] :=
      List.getElem?_eq_getElem _
    exact ⟨_, _, here, behind, (mem_ranges_iff _ _).2 ⟨before, .joined joins here behind⟩⟩

end CharSet

open CharSet

/-- What a set contains, by the positions of its definition. A unit is a member if it lies between
the neighbours of a hyphen that joins, or stands alone somewhere in the definition. If a hyphen
joins and the next but one does too, the unit between them is the end of one range and the beginning
of the other. A range whose bounds are reversed contributes nothing. -/
theorem Matcher.test_set_iff (definition : List (CodeUnit kind)) (unit : CodeUnit kind) :
    ((Matcher.set definition).test unit = true ↔
        (∃ position first last, Joins definition position ∧
          definition[position - 1]? = some first ∧ definition[position + 1]? = some last ∧
          first ≤ unit ∧ unit ≤ last) ∨
        ∃ position, definition[position]? = some unit ∧ Alone definition position) ∧
      (∀ position, Joins definition position → Joins definition (position + 2) →
        ∃ first middle last, definition[position - 1]? = some first ∧
          definition[position + 1]? = some middle ∧ definition[position + 3]? = some last ∧
          (first, middle) ∈ ranges definition ∧ (middle, last) ∈ ranges definition) ∧
      (Matcher.set definition).test unit =
        ((ranges definition).filter fun range => range.1 ≤ range.2).any
          fun range => range.1 ≤ unit && unit ≤ range.2 := by
  refine ⟨⟨fun member => ?_, ?_⟩, fun position joins next => ?_, ?_⟩
  · obtain ⟨range, listed, low, high⟩ := contains_iff.1 member
    obtain ⟨position, begins⟩ := (mem_ranges_iff _ _).1 listed
    cases begins with
    | @joined first last joins here behind =>
      exact Or.inl ⟨position + 1, first, last, joins, here, behind, low, high⟩
    | @alone single alone here =>
      have same : single = unit := CodeUnit.ext_code (Nat.le_antisymm low high)
      exact Or.inr ⟨position, same ▸ here, alone⟩
  · rintro (⟨position, first, last, joins, here, behind, low, high⟩ | ⟨position, here, alone⟩)
    · obtain ⟨_, _, sameFirst, sameLast, listed⟩ := joins.bounds
      cases here.symm.trans sameFirst
      cases behind.symm.trans sameLast
      exact contains_iff.2 ⟨_, listed, low, high⟩
    · have listed : (unit, unit) ∈ ranges definition :=
        (mem_ranges_iff _ _).2 ⟨position, .alone alone here⟩
      exact contains_iff.2 ⟨_, listed, Nat.le_refl _, Nat.le_refl _⟩
  · obtain ⟨first, middle, here, between, one⟩ := joins.bounds
    obtain ⟨again, last, same, behind, other⟩ := next.bounds
    cases between.symm.trans same
    exact ⟨first, middle, last, here, between, behind, one, other⟩
  · -- A range that contains the unit is in order, so it passes the filter.
    rw [Bool.eq_iff_iff, List.any_filter, test, contains_iff, List.any_eq_true]
    refine exists_congr fun range => and_congr_right fun _ => ?_
    simp only [Bool.and_eq_true, decide_eq_true_eq]
    exact ⟨fun held => ⟨Nat.le_trans held.1 held.2, held⟩, And.right⟩

/-- Both hyphens of `a-f-z` join, and the ranges share the letter in the middle. -/
example :
    let a : CodeUnit .octet := ⟨0x61, by decide⟩
    let f : CodeUnit .octet := ⟨0x66, by decide⟩
    let z : CodeUnit .octet := ⟨0x7A, by decide⟩
    let definition := [a, .hyphen, f, .hyphen, z]
    Joins definition 1 ∧ Joins definition 3 ∧ ranges definition = [(a, f), (f, z)] := by
  decide

/-! ## Hyphens at the edges -/

namespace CharSet

variable {definition : List (CodeUnit kind)} {position : Nat} {unit : CodeUnit kind}

/-- A unit that does not join is a member of the set, unless it bounds a range that is reversed. -/
theorem contains_or_reversed (here : definition[position]? = some unit)
    (free : ¬ Joins definition position) :
    contains definition unit = true ∨
      (∃ first, Joins definition (position - 1) ∧ definition[position - 2]? = some first ∧
        ¬ first ≤ unit) ∨
      ∃ last, Joins definition (position + 1) ∧ definition[position + 2]? = some last ∧
        ¬ unit ≤ last := by
  by_cases before : Joins definition (position - 1)
  · obtain ⟨first, last, start, stop, listed⟩ := before.bounds
    have inside : 0 < position - 1 := before.pos
    have same : position - 1 + 1 = position := by omega
    rw [same, here] at stop
    cases stop
    by_cases ordered : first ≤ unit
    · exact Or.inl (contains_iff.2 ⟨_, listed, ordered, Nat.le_refl _⟩)
    · exact Or.inr (Or.inl ⟨first, before, start, ordered⟩)
  by_cases behind : Joins definition (position + 1)
  · obtain ⟨first, last, start, stop, listed⟩ := behind.bounds
    rw [Nat.add_sub_cancel, here] at start
    cases start
    by_cases ordered : unit ≤ last
    · exact Or.inl (contains_iff.2 ⟨_, listed, Nat.le_refl _, ordered⟩)
    · exact Or.inr (Or.inr ⟨last, behind, stop, ordered⟩)
  · have listed : (unit, unit) ∈ ranges definition :=
      (mem_ranges_iff _ _).2 ⟨position, .alone ⟨before, free, behind⟩ here⟩
    exact Or.inl (contains_iff.2 ⟨_, listed, Nat.le_refl _, Nat.le_refl _⟩)

/-- The last unit of a definition does not join, and none joins behind it. -/
theorem not_joins_of_length_le (late : definition.length ≤ position + 1) :
    ¬ Joins definition position := by
  cases position with
  | zero => exact id
  | succ before =>
    rintro ⟨_, room, _⟩
    omega

/-- A hyphen at an edge of a definition is a member of the set, unless the hyphen next to it joins
it to a unit that makes the range a reversed one. In a definition of three units with the hyphens
next to each other, the order of the bounds alone decides. -/
theorem edge_hyphen_unless_reversed (definition : List (CodeUnit kind)) :
    (definition.head? = some .hyphen →
        contains definition .hyphen = true ∨
          ∃ last, Joins definition 1 ∧ definition[2]? = some last ∧ ¬ .hyphen ≤ last) ∧
      (definition.getLast? = some .hyphen →
        contains definition .hyphen = true ∨
          ∃ first, Joins definition (definition.length - 2) ∧
            definition[definition.length - 3]? = some first ∧ ¬ first ≤ .hyphen) ∧
      ∀ unit : CodeUnit kind,
        (contains [.hyphen, .hyphen, unit] .hyphen = true ↔ .hyphen ≤ unit) ∧
          (contains [unit, .hyphen, .hyphen] .hyphen = true ↔ unit ≤ .hyphen) := by
  refine ⟨fun first => ?_, fun last => ?_, fun unit => ⟨?_, ?_⟩⟩
  · rw [List.head?_eq_getElem?] at first
    obtain member | ⟨_, before, _⟩ | reversed := contains_or_reversed first id
    · exact Or.inl member
    · exact before.elim
    · exact Or.inr reversed
  · rw [List.getLast?_eq_getElem?] at last
    have free : ¬ Joins definition (definition.length - 1) := not_joins_of_length_le (by omega)
    obtain member | reversed | ⟨_, behind, _⟩ := contains_or_reversed last free
    · exact Or.inl member
    · exact Or.inr reversed
    · exact absurd behind (not_joins_of_length_le (by omega))
  · simp [contains, ranges, continues, CodeUnit.le_iff_code]
  · simp [contains, ranges, continues, CodeUnit.le_iff_code]

/-- The last hyphen of `a--` is no member of the set, since the range from `a` down to it is
reversed. Nor is the first one of `--!`, where the range leads down to the exclamation mark. -/
theorem edge_hyphen_not_member :
    let a : CodeUnit .octet := ⟨0x61, by decide⟩
    let mark : CodeUnit .octet := ⟨0x21, by decide⟩
    [a, .hyphen, .hyphen].getLast? = some .hyphen ∧
      (Matcher.set [a, .hyphen, .hyphen]).test .hyphen = false ∧
      [.hyphen, .hyphen, mark].head? = some .hyphen ∧
      (Matcher.set [.hyphen, .hyphen, mark]).test .hyphen = false := by
  decide

end CharSet

end Charwise
