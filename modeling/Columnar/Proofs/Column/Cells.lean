import Columnar.Proofs.Column.WellFormed

/-!
# The cells of a column

What a column shows is one cell for each of its rows.  A null row shows nothing
else, and of a child only the items are seen that belong to a row.  Cutting rows
out of a column takes their cells along and leaves no trace of the others.
-/

namespace Columnar

/-- What is seen in one row of a column. -/
inductive Cell
  | null
  | slot (kind : LeafKind) (value : kind.Carrier)
  | items (cells : List Cell)
  | fields (cells : List (Label × Cell))

namespace Column

mutual

def cell : Column -> Nat -> Cell
  | .leaf kind slots validity, row =>
      if Validity.isNull validity row then
        .null
      else
        slots[row]?.elim .null (.slot kind)
  | .fixedList _ size _ child validity, row =>
      if Validity.isNull validity row then .null
      else
        .items
          ((List.range size).map fun item => cell child (row * size + item))
  | .list _ offsets child validity, row =>
      if Validity.isNull validity row then .null
      else
        .items
          ((List.range
            (startOf offsets (row + 1) - startOf offsets row)).map fun item =>
              cell child (startOf offsets row + item))
  | .struct _ fields validity, row =>
      if Validity.isNull validity row then
        .null
      else
        .fields (fieldCells fields row)

def fieldCells : List (Label × Column) -> Nat -> List (Label × Cell)
  | [], _ => []
  | (label, child) :: rest, row =>
      (label, cell child row) :: fieldCells rest row

end

def cells (c : Column) : List Cell := (List.range c.length).map c.cell

/-! ## Null rows and present rows -/

theorem cell_of_isNull {c : Column} {row : Nat} (h : c.isNull row = true) :
    c.cell row = .null := by
  rw [isNull_eq] at h
  cases c <;> rw [cell] <;> exact if_pos h

section

variable {item : Label} {child : Column} {validity : Validity} {row : Nat}

theorem cell_leaf {kind : LeafKind} {slots : List kind.Carrier}
    (hrow : row < slots.length)
    (h : (leaf kind slots validity).isNull row = false) :
    (leaf kind slots validity).cell row = .slot kind slots[row] := by
  have hbit : Validity.isNull validity row = false := h
  rw [cell, hbit, if_neg Bool.false_ne_true, List.getElem?_eq_getElem hrow]
  rfl

theorem cell_fixedList {size rows : Nat}
    (h : (fixedList item size rows child validity).isNull row = false) :
    (fixedList item size rows child validity).cell row =
      .items ((List.range size).map fun item =>
        child.cell (row * size + item)) := by
  rw [cell]
  exact if_neg (Bool.eq_false_iff.mp h)

theorem cell_list {offsets : List Nat}
    (h : (list item offsets child validity).isNull row = false) :
    (list item offsets child validity).cell row =
      .items ((List.range (startOf offsets (row + 1) - startOf offsets row)).map
        fun item => child.cell (startOf offsets row + item)) := by
  rw [cell]
  exact if_neg (Bool.eq_false_iff.mp h)

theorem cell_struct {rows : Nat} {fields : List (Label × Column)}
    (h : (struct rows fields validity).isNull row = false) :
    (struct rows fields validity).cell row =
      .fields (fieldCells fields row) := by
  rw [cell]
  exact if_neg (Bool.eq_false_iff.mp h)

end

theorem isNull_of_cell {c : Column} {row : Nat} (hrow : row < c.length)
    (h : c.cell row = .null) :
    c.isNull row = true := by
  cases hpresent : c.isNull row with
  | true => rfl
  | false =>
      cases c with
      | leaf kind slots validity =>
          rw [cell_leaf hrow hpresent] at h
          cases h
      | fixedList item size rows child validity =>
          rw [cell_fixedList hpresent] at h
          cases h
      | list item offsets child validity =>
          rw [cell_list hpresent] at h
          cases h
      | struct rows fields validity =>
          rw [cell_struct hpresent] at h
          cases h

theorem isNull_eq_of_cell_eq {c other : Column} {row place : Nat}
    (hrow : row < c.length) (hplace : place < other.length)
    (h : c.cell row = other.cell place) :
    c.isNull row = other.isNull place := by
  rw [Bool.eq_iff_iff]
  constructor
  · intro hnull
    exact isNull_of_cell hplace (h.symm.trans (cell_of_isNull hnull))
  · intro hnull
    exact isNull_of_cell hrow (h.trans (cell_of_isNull hnull))

/-! ## Cells of a slice -/

theorem startOf_window {offsets : List Nat} {offset count row : Nat}
    (h : row < count) :
    startOf (window offsets offset count) row =
      startOf offsets (offset + row) := by
  rw [startOf, startOf, List.getD_eq_getElem?_getD, List.getD_eq_getElem?_getD,
    getElem?_window h]

theorem isNull_window {validity : Validity} {offset count row : Nat}
    (h : row < count) :
    Validity.isNull (validity.map fun bits => window bits offset count) row =
      Validity.isNull validity (offset + row) := by
  cases validity with
  | none => rfl
  | some bits =>
      rw [Option.map_some, Validity.isNull, Validity.isNull, getElem?_window h]

mutual

theorem cell_slice :
    forall (c : Column) {offset count row : Nat}, row < count ->
    (c.slice offset count).cell row = c.cell (offset + row)
  | .leaf kind slots validity, offset, count, row, h => by
      rw [slice, cell, cell, isNull_window h, getElem?_window h]
  | .fixedList item size rows child validity, offset, count, row, h => by
      have hitems : (List.range size).map (fun item =>
            (child.slice (offset * size) (count * size)).cell
              (row * size + item)) =
          (List.range size).map fun item =>
            child.cell ((offset + row) * size + item) := by
        apply List.map_congr_left
        intro item hitem
        have hlt : row * size + item < count * size := by
          have hrow : (row + 1) * size ≤ count * size :=
            Nat.mul_le_mul_right size h
          rw [List.mem_range] at hitem
          rw [Nat.succ_mul] at hrow
          omega
        rw [cell_slice child hlt, Nat.add_mul, Nat.add_assoc]
      rw [slice, cell, cell, isNull_window h, hitems]
  | .list item offsets child validity, offset, count, row, h => by
      rw [slice, cell, cell, isNull_window h,
        startOf_window (Nat.lt_succ_of_lt h),
        startOf_window (Nat.succ_lt_succ h)]
      rfl
  | .struct rows fields validity, offset, count, row, h => by
      rw [slice, cell, cell, isNull_window h, fieldCells_slice fields h]

theorem fieldCells_slice :
    forall (fields : List (Label × Column)) {offset count row : Nat},
    row < count -> fieldCells (sliceFields fields offset count) row =
      fieldCells fields (offset + row)
  | [], _, _, _, _ => by
      rw [sliceFields, fieldCells, fieldCells]
  | (label, child) :: rest, offset, count, row, h => by
      rw [sliceFields, fieldCells, fieldCells, cell_slice child h,
        fieldCells_slice rest h]

end

theorem length_slice {c : Column} {offset count : Nat}
    (h : offset + count ≤ c.length) :
    (c.slice offset count).length = count := by
  cases c with
  | leaf kind slots validity =>
      rw [slice]
      exact length_window h
  | fixedList item size rows child validity =>
      rw [slice]
      rfl
  | struct rows fields validity =>
      rw [slice]
      rfl
  | list item offsets child validity =>
      rw [length] at h
      rw [slice, length, window, List.length_take, List.length_drop]
      omega

theorem length_cells (c : Column) : c.cells.length = c.length := by
  rw [cells, List.length_map, List.length_range]

theorem getElem?_cells {c : Column} {row : Nat} (h : row < c.length) :
    c.cells[row]? = some (c.cell row) := by
  rw [cells, List.getElem?_map, List.getElem?_range h, Option.map_some]

theorem cells_slice {c : Column} {offset count : Nat}
    (h : offset + count ≤ c.length) :
    (c.slice offset count).cells = window c.cells offset count := by
  have hlength := length_slice h
  apply List.ext_getElem?
  intro row
  by_cases hrow : row < count
  · rw [getElem?_cells (by omega), getElem?_window hrow,
      getElem?_cells (by omega),
      cell_slice c hrow]
  · have hwindow : (window c.cells offset count).length = count :=
      length_window (c.length_cells ▸ h)
    rw [List.getElem?_eq_none (by rw [length_cells]; omega),
      List.getElem?_eq_none (by omega)]

end Column
end Columnar
