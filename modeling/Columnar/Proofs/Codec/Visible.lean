import Columnar.Proofs.Codec.NormalForm
import Columnar.Proofs.Column.Slices

/-!
# Reading sees cells only

A row of a well-formed column is read as its cell says.  So rows that are cut
out are read as they were, and two columns of one type that show the same cells
are read alike, with the same instances or the same error: whatever is under a
null row or belongs to no row of a list, and whether bits that are all set are
kept.
-/

namespace Columnar
namespace Column

/-! ## Runs of present items -/

/-- So many items of one kind in a row, none of them null. -/
structure Run (kind : ElementKind) (c : Column) (start count : Nat) : Prop where
  type : c.type = .element kind
  present : c.Present start (start + count)
  fits : start + count ≤ c.length

section

variable {kind : ElementKind} {child : Column} {validity : Validity} {row : Nat}

theorem run_of_element {c : Column} (htype : c.type = .element kind)
    (hrow : row < c.length) (hpresent : c.isNull row = false) :
    Run kind c row 1 :=
  ⟨htype, present_of_isNull hpresent, hrow⟩

theorem run_of_fixedList {size rows : Nat}
    (hwell : (fixedList .item size rows child validity).WellFormed)
    (htype : child.type = .element kind) (hrow : row < rows)
    (hpresent : (fixedList .item size rows child validity).isNull row = false) :
    Run kind child (row * size) size := by
  rcases hwell with ⟨_, hitems, _, hnulls⟩
  have hitem := hnulls rfl row hrow hpresent
  have hfits : (row + 1) * size ≤ child.length :=
    Nat.le_trans (Nat.mul_le_mul_right size hrow) hitems
  rw [Nat.succ_mul] at hitem hfits
  exact ⟨htype, hitem, hfits⟩

theorem run_of_list {offsets : List Nat}
    (hwell : (list .item offsets child validity).WellFormed)
    (htype : child.type = .element kind) (hrow : row + 1 < offsets.length)
    (hpresent : (list .item offsets child validity).isNull row = false) :
    Run kind child (startOf offsets row)
      (startOf offsets (row + 1) - startOf offsets row) := by
  rcases hwell with ⟨_, hoffsets, _, hnulls⟩
  have hitem := hnulls rfl row (by omega) hpresent
  have hle := hoffsets.startOf_le (Nat.le_add_right row 1) hrow
  refine ⟨htype, ?_, ?_⟩
  · rw [Nat.add_sub_of_le hle]
    exact hitem
  · rw [Nat.add_sub_of_le hle]
    exact hoffsets.startOf_le_items hrow

end

theorem presentElements_eq_of_cell_eq {kind : ElementKind}
    {child other : Column} {start place count : Nat}
    (hchild : Run kind child start count) (hother : Run kind other place count)
    (h : forall item, item < count ->
      child.cell (start + item) = other.cell (place + item)) :
    (child.slice start count).presentElements kind =
      (other.slice place count).presentElements kind := by
  have hnulls := nullCount_slice hchild.present
  have hothernulls := nullCount_slice hother.present
  rcases eq_leaf_of_type hchild.type with ⟨slots, validity, rfl⟩
  rcases eq_leaf_of_type hother.type with ⟨others, bits, rfl⟩
  have hslots : start + count ≤ slots.length := hchild.fits
  have hothers : place + count ≤ others.length := hother.fits
  have hwindow : window slots start count = window others place count := by
    apply List.ext_getElem (by rw [length_window hslots, length_window hothers])
    intro item hitem _
    rw [length_window hslots] at hitem
    have hcell := h item hitem
    rw [cell_leaf (by omega) (hchild.present _ (by omega) (by omega)),
      cell_leaf (by omega) (hother.present _ (by omega) (by omega))] at hcell
    simpa [window] using hcell
  rw [slice] at hnulls hothernulls ⊢
  rw [slice, presentElements_leaf hnulls, presentElements_leaf hothernulls,
    hwindow]

end Column

namespace Datatype

section

variable {name : String} {nullable broadcast nonEmpty : Bool} {row : Nat}
  {child : Column} {validity : Validity}

theorem readRow_of_present_enumeration {variants : List Variant}
    {slots : List UInt8} (hrow : row < slots.length)
    (hpresent : (Column.leaf (.element .u8) slots validity).isNull row =
      false) :
    readRow ⟨name, .enumeration variants, nullable, broadcast, nonEmpty⟩
        (.leaf (.element .u8) slots validity) row =
          readVariant name variants slots[row] := by
  have hbyte : slots[row]? = some slots[row] := List.getElem?_eq_getElem hrow
  rw [readRow, hpresent, if_neg Bool.false_ne_true, hbyte]

theorem readRow_of_present_list {kind : ElementKind} {offsets : List Nat}
    {item : Label} (hrow : row + 1 < offsets.length)
    (hpresent : (Column.list item offsets child validity).isNull row = false) :
    readRow ⟨name, .list kind, nullable, broadcast, nonEmpty⟩
        (.list item offsets child validity) row =
      (child.slice (Column.startOf offsets row)
        (Column.startOf offsets (row + 1) -
          Column.startOf offsets row)).presentElements kind := by
  have hstart : row < offsets.length := Nat.lt_of_succ_lt hrow
  rw [readRow, hpresent, if_neg Bool.false_ne_true,
    List.getElem?_eq_getElem hstart, List.getElem?_eq_getElem hrow,
    Column.startOf_eq_getElem hstart, Column.startOf_eq_getElem hrow]

end

mutual

/-- Rows of well-formed columns that show the same cell are read alike. -/
theorem readRow_eq_of_cell_eq :
    forall (d : Datatype) {column other : Column} {row place : Nat},
    column.WellFormed -> other.WellFormed -> column.type = d.columnType ->
      other.type = d.columnType -> row < column.length ->
      place < other.length ->
        column.cell row = other.cell place ->
        d.readRow column row = d.readRow other place
  | ⟨name, shape, nullable, broadcast, nonEmpty⟩, column, other, row, place,
    hwell, hotherwell,
      htype, hothertype, hrow, hplace, hcell => by
      have hnull := Column.isNull_eq_of_cell_eq hrow hplace hcell
      cases hpresent : column.isNull row with
      | true =>
          rw [readRow_of_isNull hpresent,
            readRow_of_isNull (hnull.symm.trans hpresent)]
      | false =>
          have hotherpresent : other.isNull place = false :=
            hnull.symm.trans hpresent
          match shape with
          | .primitive kind =>
              rw [readRow, hpresent, readRow, hotherpresent]
              apply Column.presentElements_eq_of_cell_eq
                (Column.run_of_element htype hrow hpresent)
                (Column.run_of_element hothertype hplace hotherpresent)
              intro item hitem
              rw [Nat.lt_one_iff.mp hitem]
              exact hcell
          | .enumeration variants =>
              rcases Column.eq_leaf_of_type htype with ⟨slots, validity, rfl⟩
              rcases Column.eq_leaf_of_type hothertype with ⟨others, bits, rfl⟩
              rw [Column.cell_leaf hrow hpresent,
                Column.cell_leaf hplace hotherpresent] at hcell
              rw [readRow_of_present_enumeration hrow hpresent,
                readRow_of_present_enumeration hplace hotherpresent,
                eq_of_heq (Cell.slot.inj hcell).2]
          | .fixedList kind arity =>
              rcases Column.eq_fixedList_of_type htype with
                ⟨rows, child, validity, rfl, hchild⟩
              rcases Column.eq_fixedList_of_type hothertype with
                ⟨count, items, bits, rfl, hitems⟩
              rw [Column.cell_fixedList hpresent,
                Column.cell_fixedList hotherpresent, Cell.items.injEq,
                List.map_inj_left] at hcell
              rw [readRow, hpresent, readRow, hotherpresent]
              exact Column.presentElements_eq_of_cell_eq
                (Column.run_of_fixedList hwell hchild hrow hpresent)
                (Column.run_of_fixedList hotherwell hitems hplace hotherpresent)
                fun item hitem => hcell item (List.mem_range.mpr hitem)
          | .list kind =>
              rcases Column.eq_list_of_type htype with
                ⟨offsets, child, validity, rfl, hchild⟩
              rcases Column.eq_list_of_type hothertype with
                ⟨others, items, bits, rfl, hitems⟩
              have hbelow : row + 1 < offsets.length :=
                Nat.add_lt_of_lt_sub hrow
              have hplacebelow : place + 1 < others.length :=
                Nat.add_lt_of_lt_sub hplace
              have hrun := Column.run_of_list hwell hchild hbelow hpresent
              have hotherrun :=
                Column.run_of_list hotherwell hitems hplacebelow hotherpresent
              rw [Column.cell_list hpresent, Column.cell_list hotherpresent,
                Cell.items.injEq] at hcell
              have hlength := congrArg List.length hcell
              rw [List.length_map, List.length_map, List.length_range,
                List.length_range] at hlength
              rw [hlength, List.map_inj_left] at hcell
              rw [hlength] at hrun
              rw [readRow_of_present_list hbelow hpresent,
                readRow_of_present_list hplacebelow hotherpresent, hlength]
              exact Column.presentElements_eq_of_cell_eq hrun hotherrun
                fun item hitem => hcell item (List.mem_range.mpr hitem)
          | .struct fields =>
              rcases Column.eq_struct_of_type htype with
                ⟨rows, children, validity, rfl, htypes⟩
              rcases Column.eq_struct_of_type hothertype with
                ⟨count, others, bits, rfl, hothertypes⟩
              rw [Column.cell_struct hpresent, Column.cell_struct hotherpresent,
                Cell.fields.injEq] at hcell
              rw [readRow, hpresent, readRow, hotherpresent]
              exact congrArg (Except.map Instance.struct)
                (readFields_eq_of_fieldCells_eq fields hwell.2 hotherwell.2
                  htypes hothertypes hrow hplace hcell)

theorem readFields_eq_of_fieldCells_eq : forall (fields : List (Field Datatype))
    {children others : List (Label × Column)} {parent bits : Validity}
    {rows count row place : Nat},
    Column.WellFormedFields parent rows children ->
    Column.WellFormedFields bits count others ->
      Column.fieldTypes children = fieldTypes fields ->
        Column.fieldTypes others = fieldTypes fields -> row < rows ->
        place < count ->
          Column.fieldCells children row = Column.fieldCells others place ->
            readFields fields children row = readFields fields others place
  | [], children, others, _, _, _, _, row, place, _, _, htypes, hothertypes,
    _, _, _ => by
      rw [readFields, readFields]
      · exact nofun
      · exact nofun
  | ⟨name, datatype⟩ :: rest, children, others, _, _, _, _, row, place, hwell,
    hotherwell, htypes,
      hothertypes, hrow, hplace, hcells => by
      rcases exists_child_of_fieldTypes htypes with
        ⟨child, later, rfl, htype, hlater⟩
      rcases exists_child_of_fieldTypes hothertypes with
        ⟨twin, further, rfl, htwin, hfurther⟩
      rcases hwell with ⟨hlength, hchild, _, hrest⟩
      rcases hotherwell with ⟨hotherlength, htwinwell, _, hotherrest⟩
      rw [Column.fieldCells, Column.fieldCells, List.cons.injEq, Prod.mk.injEq]
        at hcells
      rw [readFields, readFields,
        readRow_eq_of_cell_eq datatype hchild htwinwell htype htwin
          (hlength ▸ hrow) (hotherlength ▸ hplace) hcells.1.2,
        readFields_eq_of_fieldCells_eq rest hrest hotherrest hlater hfurther
          hrow hplace hcells.2]

end

/-! ## Columns -/

theorem readRows_eq_of_readRow_eq {d : Datatype} {column other : Column}
    {row place count : Nat}
    (h : forall index, index < count ->
      d.readRow column (row + index) = d.readRow other (place + index)) :
    d.readRows column row count = d.readRows other place count := by
  induction count generalizing row place with
  | zero => rfl
  | succ count ih =>
      have hfirst : d.readRow column row = d.readRow other place :=
        h 0 (Nat.succ_pos count)
      have hrest : d.readRows column (row + 1) count = d.readRows other
          (place + 1) count := by
        apply ih
        intro index hindex
        rw [Nat.add_right_comm row, Nat.add_right_comm place]
        exact h (index + 1) (Nat.succ_lt_succ hindex)
      rw [readRows, readRows, hfirst, hrest]

section

variable {d : Datatype} {column : Column}

theorem decode_slice (hwell : column.WellFormed) {rows : List Instance}
    (h : d.decode column = .ok rows) {offset count : Nat}
    (hfits : offset + count ≤ column.length) :
    d.decode (column.slice offset count) =
      .ok (Column.window rows offset count) := by
  have htype : column.type = d.columnType := (reads_of_decode h).1
  have hcut : (column.slice offset count).type = d.columnType :=
    (column.type_slice offset count).trans htype
  have hlength : (Column.window rows offset count).length = count :=
    Column.length_window ((length_of_decode h).symm ▸ hfits)
  have hrows : d.readRows (column.slice offset count) 0
        (Column.window rows offset count).length =
      .ok (Column.window rows offset count) := by
    apply readRows_eq_ok
    intro index row hrow
    have hindex : index < count :=
      hlength ▸ (List.getElem?_eq_some_iff.mp hrow).1
    rw [Column.getElem?_window hindex] at hrow
    rw [Nat.zero_add, ← readRow_of_decode h hrow]
    exact readRow_eq_of_cell_eq d (Column.wellFormed_slice column hwell hfits)
      hwell hcut htype (by rw [Column.length_slice hfits]; exact hindex)
      (by omega) (Column.cell_slice column hindex)
  rw [hlength] at hrows
  rw [decode, if_pos hcut, Column.length_slice hfits, hrows]
  rfl

theorem decode_eq_of_cells_eq (hwell : column.WellFormed) {other : Column}
    (hother : other.WellFormed) (htype : other.type = column.type)
    (hcells : other.cells = column.cells) :
    d.decode other = d.decode column := by
  have hlength : other.length = column.length := by
    rw [← Column.length_cells, hcells, Column.length_cells]
  rw [decode, decode, htype, hlength]
  split
  · next hd =>
      congr 1
      apply readRows_eq_of_readRow_eq
      intro row hrow
      rw [Nat.zero_add]
      have hcell : other.cells[row]? = column.cells[row]? := by rw [hcells]
      rw [Column.getElem?_cells (hlength ▸ hrow), Column.getElem?_cells hrow,
        Option.some.injEq] at hcell
      exact readRow_eq_of_cell_eq d hother hwell (htype.trans hd) hd
        (hlength ▸ hrow) hrow hcell
  · rfl

/--
Reading a well-formed column shows what its cells show.  Any rows that are cut
out of one that can be read are read as they were, and a column of the same type
with the same cells is read alike, or refused with the same error.
-/
theorem decode_shows_cells (hwell : column.WellFormed) :
    (forall rows offset count, d.decode column = .ok rows ->
      offset + count ≤ column.length ->
      d.decode (column.slice offset count) =
        .ok (Column.window rows offset count)) ∧
    forall other : Column, other.WellFormed -> other.type = column.type ->
      other.cells = column.cells -> d.decode other = d.decode column := by
  constructor
  · intro rows offset count hdecode hfits
    exact decode_slice hwell hdecode hfits
  · intro other hother htype hcells
    exact decode_eq_of_cells_eq hwell hother htype hcells

end

namespace Sample

/--
The rows of `cutTagged`, kept apart.  Another byte is under the absent row, the
absent list is empty, and the items of the lists have bits that are all set.
-/
def plainTagged : Column :=
  .struct 3 [
    ({ name := "mode", nullable := false },
      .leaf (.element .u8) ([2, 7, 1] : List UInt8) none),
    ({ name := "tags", nullable := true },
      .list .item [0, 2, 2, 2]
        (.leaf (.element .u32) ([7, 8] : List UInt32) (some [true, true]))
        (some [true, true, false]))]
    (some [true, false, true])

end Sample

open Sample in
theorem decode_shows_cells_tagged :
    tagged.decode (cutTagged.slice 1 2) =
      .ok [.null, .struct [.one .u8 1, .null]] ∧
      tagged.decode plainTagged = tagged.decode cutTagged := by
  have hwell : cutTagged.WellFormed := by decide
  have hdecode : tagged.decode cutTagged = .ok taggedRows := rfl
  rcases decode_shows_cells (d := tagged) hwell with ⟨hslice, hcells⟩
  constructor
  · exact hslice taggedRows 1 2 hdecode (by decide)
  · exact hcells plainTagged (by decide) rfl rfl

end Datatype
end Columnar
