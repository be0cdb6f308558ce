import Mathlib.Data.List.Basic
import Columnar.Column.Basic

/-!
# Well-formed columns

What can be relied on in a column that was made elsewhere.  Its bits, offsets
and children cover its rows, and a child that is labelled as never null has no
null under a present row.  Nothing is said about what lies under a null row, or
beside all rows.
-/

namespace Columnar

namespace Validity

def isNull (validity : Validity) (row : Nat) : Bool :=
  match validity with
  | none => false
  | some bits => bits[row]? == some false

/-- If there are bits at all, there is one for each row. -/
def Covers (validity : Validity) (rows : Nat) : Prop :=
  match validity with
  | none => True
  | some bits => bits.length = rows

instance (validity : Validity) (rows : Nat) :
    Decidable (validity.Covers rows) :=
  match validity with
  | none => inferInstanceAs (Decidable True)
  | some bits => inferInstanceAs (Decidable (bits.length = rows))

end Validity

namespace Column

/-! ## Windows -/

theorem length_window {xs : List α} {offset count : Nat}
    (h : offset + count ≤ xs.length) :
    (window xs offset count).length = count := by
  rw [window, List.length_take, List.length_drop]
  omega

theorem getElem?_window {xs : List α} {offset count index : Nat}
    (h : index < count) :
    (window xs offset count)[index]? = xs[offset + index]? := by
  rw [window, List.getElem?_take_of_lt h, List.getElem?_drop]

/-! ## Nulls -/

theorem isNull_eq (c : Column) (row : Nat) :
    c.isNull row = c.validity.isNull row := rfl

theorem nullCount_eq_zero_iff {c : Column} :
    c.nullCount = 0 ↔ forall row, c.isNull row = false := by
  unfold nullCount isNull
  cases c.validity with
  | none => simp
  | some bits => simp [List.count_eq_zero, List.mem_iff_getElem?]

theorem lt_length_of_isNull {c : Column} (hcovers : c.validity.Covers c.length)
    {row : Nat} (h : c.isNull row = true) : row < c.length := by
  unfold isNull at h
  cases hvalidity : c.validity with
  | none =>
      rw [hvalidity] at h
      cases h
  | some bits =>
      rw [hvalidity] at h hcovers
      have hlength : bits.length = c.length := hcovers
      rw [← hlength]
      exact (List.getElem?_eq_some_iff.mp (beq_iff_eq.mp h)).1

/-- No item from `start` up to `stop` is null. -/
def Present (c : Column) (start stop : Nat) : Prop :=
  forall item, item < stop -> start ≤ item -> c.isNull item = false

instance (c : Column) (start stop : Nat) : Decidable (c.Present start stop) :=
  inferInstanceAs (Decidable
    (forall item, item < stop -> start ≤ item -> c.isNull item = false))

theorem present_of_isNull {c : Column} {row : Nat} (h : c.isNull row = false) :
    c.Present row (row + 1) := by
  intro item hlt hle
  rw [Nat.le_antisymm (Nat.le_of_lt_succ hlt) hle]
  exact h

theorem validity_slice (c : Column) (start count : Nat) :
    (c.slice start count).validity = c.validity.map fun bits =>
      window bits start count := by
  cases c <;> rw [slice] <;> rfl

theorem nullCount_slice {c : Column} {start count : Nat}
    (h : c.Present start (start + count)) :
    (c.slice start count).nullCount = 0 := by
  rw [nullCount_eq_zero_iff]
  intro row
  rw [isNull, validity_slice]
  cases hvalidity : c.validity with
  | none => rfl
  | some bits =>
      rw [Option.map_some]
      by_cases hrow : row < count
      · have hpresent := h (start + row) (Nat.add_lt_add_left hrow start)
          (Nat.le_add_right _ _)
        rw [isNull, hvalidity] at hpresent
        simp only [getElem?_window hrow]
        exact hpresent
      · simp only [window, List.getElem?_take_eq_none (Nat.not_lt.mp hrow)]
        rfl

/-! ## Well-formedness -/

def startOf (offsets : List Nat) (row : Nat) : Nat := offsets.getD row 0

theorem startOf_eq_getElem {offsets : List Nat} {row : Nat}
    (h : row < offsets.length) :
    startOf offsets row = offsets[row] := by
  rw [startOf, List.getD, List.getElem?_eq_getElem h, Option.getD_some]

/-- Offsets that only grow and stay within so many items. -/
structure Offsets (offsets : List Nat) (items : Nat) : Prop where
  nonempty : offsets ≠ []
  monotone : offsets.Pairwise (· ≤ ·)
  within : forall start, start ∈ offsets -> start ≤ items

mutual

def WellFormed : Column -> Prop
  | .leaf _ slots validity => validity.Covers slots.length
  | .fixedList item size rows child validity =>
      Validity.Covers validity rows ∧ rows * size ≤ child.length ∧
        WellFormed child ∧
        (item.nullable = false -> forall row, row < rows ->
          Validity.isNull validity row = false ->
          child.Present (row * size) ((row + 1) * size))
  | .list item offsets child validity =>
      Validity.Covers validity (offsets.length - 1) ∧
        Offsets offsets child.length ∧
        WellFormed child ∧
        (item.nullable = false -> forall row, row < offsets.length - 1 ->
          Validity.isNull validity row = false ->
            child.Present (startOf offsets row) (startOf offsets (row + 1)))
  | .struct rows fields validity =>
      Validity.Covers validity rows ∧ WellFormedFields validity rows fields

def WellFormedFields (parent : Validity) (rows : Nat) :
    List (Label × Column) -> Prop
  | [] => True
  | (label, child) :: rest =>
      child.length = rows ∧ WellFormed child ∧
        (label.nullable = false -> forall row, row < rows ->
          Validity.isNull parent row = false -> child.isNull row = false) ∧
        WellFormedFields parent rows rest

end

instance (offsets : List Nat) (items : Nat) :
    Decidable (Offsets offsets items) :=
  decidable_of_iff
    (offsets ≠ [] ∧ offsets.Pairwise (· ≤ ·) ∧ forall start, start ∈ offsets ->
      start ≤ items)
    ⟨fun h => ⟨h.1, h.2.1, h.2.2⟩, fun h => ⟨h.nonempty, h.monotone, h.within⟩⟩

mutual

def decideWellFormed : (c : Column) -> Decidable c.WellFormed
  | .leaf _ slots validity =>
      inferInstanceAs (Decidable (Validity.Covers validity slots.length))
  | .fixedList _ _ _ child _ =>
      have := decideWellFormed child
      inferInstanceAs (Decidable (_ ∧ _ ∧ _ ∧ _))
  | .list _ _ child _ =>
      have := decideWellFormed child
      inferInstanceAs (Decidable (_ ∧ _ ∧ _ ∧ _))
  | .struct rows fields validity =>
      have := decideWellFormedFields validity rows fields
      inferInstanceAs (Decidable (_ ∧ _))

def decideWellFormedFields (parent : Validity) (rows : Nat) :
    (fields : List (Label × Column)) ->
      Decidable (WellFormedFields parent rows fields)
  | [] => inferInstanceAs (Decidable True)
  | (_, child) :: rest =>
      have := decideWellFormed child
      have := decideWellFormedFields parent rows rest
      inferInstanceAs (Decidable (_ ∧ _ ∧ _ ∧ _))

end

instance (c : Column) : Decidable c.WellFormed := decideWellFormed c

theorem covers_of_wellFormed {c : Column} (h : c.WellFormed) :
    c.validity.Covers c.length := by
  cases c with
  | leaf kind slots validity => exact h
  | fixedList item size rows child validity => exact h.1
  | list item offsets child validity => exact h.1
  | struct rows fields validity => exact h.1

/-! ## Columns by type -/

theorem eq_leaf_of_type {column : Column} {kind : LeafKind}
    (h : column.type = .leaf kind) :
    exists slots validity, column = .leaf kind slots validity := by
  cases column with
  | leaf stored slots validity =>
      cases h
      exact ⟨slots, validity, rfl⟩
  | fixedList item size rows child validity => cases h
  | list item offsets child validity => cases h
  | struct rows fields validity => cases h

theorem eq_fixedList_of_type {column : Column} {item : Label}
    {type : ColumnType} {size : Nat}
    (h : column.type = .fixedList item type size) :
    exists rows child validity,
      column = .fixedList item size rows child validity ∧
      child.type = type := by
  cases column with
  | leaf stored slots validity => cases h
  | fixedList label count rows child validity =>
      cases h
      exact ⟨rows, child, validity, rfl, rfl⟩
  | list item offsets child validity => cases h
  | struct rows fields validity => cases h

theorem eq_list_of_type {column : Column} {item : Label} {type : ColumnType}
    (h : column.type = .list item type) :
    exists offsets child validity, column = .list item offsets child validity ∧
      child.type = type := by
  cases column with
  | leaf stored slots validity => cases h
  | fixedList label count rows child validity => cases h
  | list label offsets child validity =>
      cases h
      exact ⟨offsets, child, validity, rfl, rfl⟩
  | struct rows fields validity => cases h

theorem eq_struct_of_type {column : Column} {types : List (Label × ColumnType)}
    (h : column.type = .struct types) :
    exists rows fields validity, column = .struct rows fields validity ∧
      Column.fieldTypes fields = types := by
  cases column with
  | leaf stored slots validity => cases h
  | fixedList label count rows child validity => cases h
  | list label offsets child validity => cases h
  | struct rows fields validity =>
      cases h
      exact ⟨rows, fields, validity, rfl, rfl⟩

/-! ## Empty columns -/

theorem validity_empty (type : ColumnType) : (empty type).validity = none := by
  cases type <;> rfl

theorem length_empty (type : ColumnType) : (empty type).length = 0 := by
  cases type <;> rfl

mutual

theorem type_empty : forall type : ColumnType, (empty type).type = type
  | .leaf _ => rfl
  | .fixedList _ item _ => by
      rw [empty, type, type_empty item]
  | .list _ item => by
      rw [empty, type, type_empty item]
  | .struct fields => by
      rw [empty, type, fieldTypes_emptyFields fields]

theorem fieldTypes_emptyFields : forall fields : List (Label × ColumnType),
    fieldTypes (emptyFields fields) = fields
  | [] => by
      rw [emptyFields, fieldTypes]
  | (_, type) :: rest => by
      rw [emptyFields, fieldTypes, type_empty type, fieldTypes_emptyFields rest]

end

end Column
end Columnar
