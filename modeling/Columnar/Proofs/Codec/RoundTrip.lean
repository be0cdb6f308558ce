import Columnar.Codec.Decode
import Columnar.Proofs.Codec.Encoding
import Columnar.Proofs.Column.WellFormed

/-!
# Decoding what was encoded

Every row of a column that was laid out reads as the instance it was laid out
from.  A null row is told by its bit alone; the elements of a present row are
found in the run that the rows before it leave off.
-/

namespace Columnar
namespace Column

/-! ## Runs of a dense list -/

theorem window_flatMap {f : α -> List β} {xs : List α} {index : Nat} {x : α}
    (h : xs[index]? = some x) :
    window (xs.flatMap f) ((xs.take index).flatMap f).length (f x).length =
      f x := by
  induction xs generalizing index with
  | nil => cases h
  | cons head rest ih =>
      cases index with
      | zero =>
          cases h
          simp [window]
      | succ index =>
          have hrest :
            window (rest.flatMap f) ((rest.take index).flatMap f).length
              (f x).length = f x := ih h
          rw [List.take_succ_cons, List.flatMap_cons, List.flatMap_cons,
            List.length_append, window, ← List.drop_drop, List.drop_left]
          exact hrest

theorem getElem?_of_window_one {xs : List α} {index : Nat} {x : α}
    (h : window xs index 1 = [x]) : xs[index]? = some x := by
  rw [window] at h
  have hhead : (xs.drop index).head? = some x := by
    cases hdrop : xs.drop index with
    | nil =>
        rw [hdrop] at h
        cases h
    | cons y others =>
        rw [hdrop] at h
        cases h
        rfl
  rw [← hhead, List.head?_drop]

theorem getElem?_offsetsFrom (start : Nat) (lengths : List Nat) {index : Nat}
    (h : index ≤ lengths.length) :
    (offsetsFrom start lengths)[index]? =
      some (start + (lengths.take index).sum) := by
  induction lengths generalizing start index with
  | nil =>
      cases Nat.le_zero.mp h
      rfl
  | cons length rest ih =>
      cases index with
      | zero => rfl
      | succ index =>
          rw [offsetsFrom, List.getElem?_cons_succ,
            ih _ (Nat.le_of_succ_le_succ h), List.take_succ_cons, List.sum_cons,
            Nat.add_assoc]

theorem presentElements_leaf {kind : ElementKind} {values : List kind.Carrier}
    {validity : Validity}
    (h : (leaf (.element kind) values validity).nullCount = 0) :
    (leaf (.element kind) values validity).presentElements kind =
      .ok (.elements ⟨kind, values⟩) := by
  rw [presentElements, if_neg (by rw [h]; exact Nat.lt_irrefl 0)]
  simp

end Column

namespace Instance

/-! ## Runs of a row -/

section

variable {kind : ElementKind} {rows : List Instance} {index : Nat}
  {row : Instance}

theorem window_slots_fixed {count : Nat}
    (h : forall other, other ∈ rows -> other.Fills kind (.fixed count))
    (hrow : rows[index]? = some row) :
    Column.window (rows.flatMap (slots kind (.fixed count)))
        (index * count) count =
      row.slots kind (.fixed count) := by
  -- The rows before a row of fixed size end where it begins.
  have hlt : index < rows.length := (List.getElem?_eq_some_iff.mp hrow).1
  have hbefore :
      ((rows.take index).flatMap (slots kind (.fixed count))).length =
        index * count := by
    rw [length_flatMap_slots_fixed fun other hother => h other
        (List.mem_of_mem_take hother), List.length_take,
      Nat.min_eq_left (Nat.le_of_lt hlt)]
  have hcount : (row.slots kind (.fixed count)).length = count :=
    length_slots_fixed (h row (List.mem_of_getElem? hrow))
  have hwindow := Column.window_flatMap (f := slots kind (.fixed count)) hrow
  rw [hbefore, hcount] at hwindow
  exact hwindow

theorem sum_take_counts
    (h : forall other, other ∈ rows -> other.Fills kind .variable) :
    ((rows.map fun other => other.count?.getD 0).take index).sum =
      ((rows.take index).flatMap (slots kind .variable)).length := by
  rw [← List.map_take, List.length_flatMap]
  congr 1
  apply List.map_congr_left
  intro other hother
  exact (length_slots_variable (h other (List.mem_of_mem_take hother))).symm

theorem sum_take_succ_counts (hrow : rows[index]? = some row) :
    ((rows.map fun other => other.count?.getD 0).take (index + 1)).sum =
      ((rows.map fun other => other.count?.getD 0).take index).sum +
        row.count?.getD 0 := by
  have hcount : (rows.map fun other => other.count?.getD 0)[index]? =
      some (row.count?.getD 0) := by
    rw [List.getElem?_map, hrow, Option.map_some]
  rw [List.take_add_one, hcount, List.sum_append, Option.toList_some,
    List.sum_singleton]

end

/-! ## Nulls -/

theorem isNull_presence {c : Column} {rows : List Instance}
    (hc : c.validity = presence rows) {index : Nat} {row : Instance}
    (hrow : rows[index]? = some row) :
    c.isNull index = row.isNull := by
  rw [Column.isNull, hc, presence]
  by_cases hnull : rows.any isNull = true
  · rw [if_pos hnull]
    simp [hrow]
  · rw [if_neg hnull]
    cases hrownull : row.isNull with
    | false => rfl
    | true =>
        exact absurd
          (List.any_eq_true.mpr
            ⟨row, List.mem_of_getElem? hrow, hrownull⟩) hnull

end Instance

namespace Datatype

theorem validity_layout (d : Datatype) (rows : List Instance) :
    (d.layout rows).validity = Instance.presence rows := by
  rcases d with ⟨_, shape, _, _, _⟩
  cases shape <;> rw [layout] <;> rfl

theorem isNull_layout (d : Datatype) {rows : List Instance} {index : Nat}
    {row : Instance} (hrow : rows[index]? = some row) :
    (d.layout rows).isNull index = row.isNull :=
  Instance.isNull_presence (validity_layout d rows) hrow

/-! ## Rows of each shape -/

theorem readVariant_declared {name : String} {variants : List Variant}
    {byte : UInt8} (h : exists v, v ∈ variants ∧ v.value = byte) :
    readVariant name variants byte = .ok (.one .u8 byte) := by
  rcases h with ⟨v, hv, hbyte⟩
  have hany : variants.any (fun v => v.value == byte) = true :=
    List.any_eq_true.mpr ⟨v, hv, beq_iff_eq.mpr hbyte⟩
  rw [readVariant, if_pos hany]

section

variable {name : String} {nullable broadcast nonEmpty : Bool}
  {rows : List Instance} {index : Nat} {row : Instance}

theorem readRow_of_isNull {d : Datatype} {column : Column}
    (h : column.isNull index = true) :
    d.readRow column index =
      if d.nullable then .ok .null else .error .missingData := by
  rcases d with ⟨name, shape, nullable, broadcast, nonEmpty⟩
  rw [readRow.eq_def]
  exact if_pos h

theorem readRow_layout_null {d : Datatype} (hconforms : d.Conforms row)
    (hrow : rows[index]? = some row) (hnull : row.isNull = true) :
    d.readRow (d.layout rows) index = .ok row := by
  have hbit : (d.layout rows).isNull index = true := by
    rw [isNull_layout d hrow, hnull]
  rw [readRow_of_isNull hbit, if_pos (nullable_of_conforms hconforms hnull)]
  cases row with
  | null => rfl
  | elements data => cases hnull
  | struct values => cases hnull

theorem readRow_layout_primitive {kind : ElementKind}
    (hfill : forall other, other ∈ rows -> other.Fills kind (.fixed 1))
    (hrow : rows[index]? = some row) (hpresent : row.isNull = false) :
    readRow ⟨name, .primitive kind, nullable, broadcast, nonEmpty⟩
        (layout ⟨name, .primitive kind, nullable, broadcast, nonEmpty⟩ rows)
        index = .ok row := by
  have hbit :=
    isNull_layout ⟨name, .primitive kind, nullable, broadcast, nonEmpty⟩ hrow
  have hwindow := Instance.window_slots_fixed hfill hrow
  rw [hpresent] at hbit
  rw [Nat.mul_one] at hwindow
  have hnulls := Column.nullCount_slice (Column.present_of_isNull hbit)
  rw [layout, Column.ofElements, Column.slice] at hnulls
  rw [readRow, hbit, if_neg Bool.false_ne_true, layout, Column.ofElements,
    Column.slice, Column.presentElements_leaf hnulls, hwindow,
    ← Instance.eq_elements_slots
      (hfill row (List.mem_of_getElem? hrow)) hpresent]

theorem readRow_layout_fixedList {kind : ElementKind} {arity : UInt32}
    (hfill : forall other, other ∈ rows ->
      other.Fills kind (.fixed arity.toNat))
    (hrow : rows[index]? = some row) (hpresent : row.isNull = false) :
    readRow ⟨name, .fixedList kind arity, nullable, broadcast, nonEmpty⟩
        (layout
          ⟨name, .fixedList kind arity, nullable, broadcast, nonEmpty⟩ rows)
        index = .ok row := by
  have hbit := isNull_layout
    ⟨name, .fixedList kind arity, nullable, broadcast, nonEmpty⟩ hrow
  have hwindow := Instance.window_slots_fixed hfill hrow
  rw [layout, hpresent] at hbit
  rw [layout, readRow, hbit, if_neg Bool.false_ne_true, Column.ofElements,
    Column.slice, Column.presentElements_leaf rfl, hwindow,
    ← Instance.eq_elements_slots
      (hfill row (List.mem_of_getElem? hrow)) hpresent]

theorem readRow_layout_list {kind : ElementKind}
    (hfill : forall other, other ∈ rows -> other.Fills kind .variable)
    (hrow : rows[index]? = some row) (hpresent : row.isNull = false) :
    readRow ⟨name, .list kind, nullable, broadcast, nonEmpty⟩
        (layout ⟨name, .list kind, nullable, broadcast, nonEmpty⟩ rows) index =
      .ok row := by
  have hbit :=
    isNull_layout ⟨name, .list kind, nullable, broadcast, nonEmpty⟩ hrow
  rw [layout, hpresent] at hbit
  have hlt : index < rows.length := (List.getElem?_eq_some_iff.mp hrow).1
  have hle : index + 1 ≤
      (rows.map fun other => other.count?.getD 0).length := by
    rw [List.length_map]
    exact hlt
  have hstart := Column.getElem?_offsetsFrom 0
    (rows.map fun other => other.count?.getD 0) (Nat.le_of_succ_le hle)
  have hstop := Column.getElem?_offsetsFrom 0
    (rows.map fun other => other.count?.getD 0) hle
  have hrowfill := hfill row (List.mem_of_getElem? hrow)
  rw [Instance.sum_take_succ_counts hrow, Instance.sum_take_counts hfill,
    ← Instance.length_slots_variable hrowfill, Nat.zero_add] at hstop
  rw [Instance.sum_take_counts hfill, Nat.zero_add] at hstart
  rw [layout, readRow, hbit, if_neg Bool.false_ne_true, hstart, hstop]
  dsimp only
  rw [Nat.add_sub_cancel_left, Column.ofElements, Column.slice,
    Column.presentElements_leaf rfl, Column.window_flatMap hrow,
    ← Instance.eq_elements_slots hrowfill hpresent]

theorem readRow_layout_enumeration {variants : List Variant}
    (hconforms : forall other, other ∈ rows ->
      Conforms
        ⟨name, .enumeration variants, nullable, broadcast, nonEmpty⟩ other)
    (hrow : rows[index]? = some row) (hpresent : row.isNull = false) :
    readRow ⟨name, .enumeration variants, nullable, broadcast, nonEmpty⟩
        (layout
          ⟨name, .enumeration variants, nullable, broadcast, nonEmpty⟩ rows)
        index = .ok row := by
  have hlayout : layout
        ⟨name, .enumeration variants, nullable, broadcast, nonEmpty⟩ rows =
      .leaf (.element .u8) (rows.flatMap (Instance.slots .u8 (.fixed 1)))
        (Instance.presence rows) := by
    rw [layout]
    rfl
  have hbit := isNull_layout
    ⟨name, .enumeration variants, nullable, broadcast, nonEmpty⟩ hrow
  have hmem := List.mem_of_getElem? hrow
  have hfill : forall other, other ∈ rows -> other.Fills .u8 (.fixed 1) :=
    fun other hother =>
      (conforms_enumeration_iff.mp (hconforms other hother)).2.1
  have hdeclared := (conforms_enumeration_iff.mp (hconforms row hmem)).2.2
  have hlength := Instance.length_slots_fixed (hfill row hmem)
  have hwindow := Instance.window_slots_fixed hfill hrow
  rcases List.length_eq_one_iff.mp hlength with ⟨byte, hbyte⟩
  have helements : row = .one .u8 byte := by
    rw [Instance.one, ← hbyte]
    exact Instance.eq_elements_slots (hfill row hmem) hpresent
  rw [Nat.mul_one, hbyte] at hwindow
  rw [hlayout, hpresent] at hbit
  rw [hlayout, readRow, hbit, if_neg Bool.false_ne_true,
    Column.getElem?_of_window_one hwindow]
  dsimp only
  rw [helements] at hdeclared
  rw [readVariant_declared (hdeclared byte List.mem_cons_self), helements]

end

/-! ## Rows and columns -/

mutual

theorem readRow_layout : forall d : Datatype, d.validate = .ok () ->
    forall {rows : List Instance}, (forall row, row ∈ rows -> d.Conforms row) ->
      forall {index : Nat} {row : Instance}, rows[index]? = some row ->
        d.readRow (d.layout rows) index = .ok row
  | ⟨name, shape, nullable, broadcast, nonEmpty⟩, hvalid, rows, hconforms,
    index, row, hrow => by
      have hmem := List.mem_of_getElem? hrow
      -- An absent row is told by its bit before its shape matters.
      cases hpresent : row.isNull with
      | true => exact readRow_layout_null (hconforms row hmem) hrow hpresent
      | false =>
          match shape with
          | .primitive kind =>
              exact readRow_layout_primitive
                (fun other hother =>
                  (conforms_primitive_iff.mp (hconforms other hother)).2)
                hrow hpresent
          | .fixedList kind arity =>
              exact readRow_layout_fixedList
                (fun other hother =>
                  (conforms_fixedList_iff.mp (hconforms other hother)).2)
                hrow hpresent
          | .list kind =>
              exact readRow_layout_list
                (fun other hother =>
                  (conforms_list_iff.mp (hconforms other hother)).2)
                hrow hpresent
          | .enumeration variants =>
              exact readRow_layout_enumeration hconforms hrow hpresent
          | .struct fields =>
              have hbit := isNull_layout
                ⟨name, .struct fields, nullable, broadcast, nonEmpty⟩ hrow
              rw [layout, hpresent] at hbit
              rw [layout, readRow, hbit, if_neg Bool.false_ne_true]
              have hrowconforms := hconforms row hmem
              cases row with
              | null => cases hpresent
              | elements data => exact hrowconforms.elim
              | struct values =>
                  have hvalues : (rows.map Instance.fields?)[index]? =
                      some (some values) := by
                    rw [List.getElem?_map, hrow]
                    rfl
                  rw [readFields_layoutFields fields
                      (validate_field_of_validate hvalid)
                      (forall_conformEach_fields? hconforms) hvalues]
                  rfl

theorem readFields_layoutFields : forall fields : List (Field Datatype),
    (forall field, field ∈ fields -> field.datatype.validate = .ok ()) ->
      forall {rows : List (Option (List Instance))},
        (forall values, some values ∈ rows -> ConformEach fields values) ->
          forall {index : Nat} {values : List Instance},
            rows[index]? = some (some values) ->
            readFields fields (layoutFields fields rows) index = .ok values
  | [], _, rows, heach, index, values, hrow => by
      have hvalues :=
        length_eq_of_conformEach (heach values (List.mem_of_getElem? hrow))
      rw [List.eq_nil_of_length_eq_zero hvalues, layoutFields, readFields]
      exact nofun
  | ⟨name, datatype⟩ :: rest, hvalid, rows, heach, index, values, hrow => by
      have hfirst := hvalid ⟨name, datatype⟩ List.mem_cons_self
      have hrest : forall field, field ∈ rest ->
          field.datatype.validate = .ok () :=
        fun field hfield => hvalid field (List.mem_cons_of_mem _ hfield)
      have hrowconforms := heach values (List.mem_of_getElem? hrow)
      cases values with
      | nil => exact hrowconforms.elim
      | cons value others =>
          have hvalue : (rows.map (Instance.firstOr datatype.filler))[index]? =
              some value := by
            rw [List.getElem?_map, hrow]
            rfl
          have hothers : (rows.map fun row => row.map List.tail)[index]? =
              some (some others) := by
            rw [List.getElem?_map, hrow]
            rfl
          rw [layoutFields, readFields,
            readRow_layout datatype hfirst
              (forall_conforms_firstOr hfirst heach) hvalue,
            readFields_layoutFields rest hrest
              (forall_conformEach_tail heach) hothers]
          rfl

end

theorem readRows_eq_ok {d : Datatype} {column : Column} {start : Nat}
    {rows : List Instance}
    (h : forall (index : Nat) (row : Instance), rows[index]? = some row ->
      d.readRow column (start + index) = .ok row) :
    d.readRows column start rows.length = .ok rows := by
  induction rows generalizing start with
  | nil => rfl
  | cons row rest ih =>
      have hrow : d.readRow column start = .ok row := h 0 row rfl
      have hrest : d.readRows column (start + 1) rest.length = .ok rest := by
        apply ih
        intro index other hother
        rw [Nat.add_right_comm]
        exact h (index + 1) other hother
      rw [List.length_cons, readRows, hrow, hrest]
      rfl

theorem decode_layout {d : Datatype} (hvalid : d.validate = .ok ())
    {rows : List Instance} (h : d.Encodable rows) :
    d.decode (d.layout rows) = .ok rows := by
  rw [decode, if_pos (type_layout d h.aritiesFit rows),
    length_layout h.conforms, readRows_eq_ok]
  · rfl
  · intro index row hrow
    rw [Nat.zero_add]
    exact readRow_layout d hvalid h.conforms hrow

theorem decode_of_encode {d : Datatype} (hvalid : d.validate = .ok ())
    {rows : List Instance} {column : Column} (h : d.encode rows = .ok column) :
    d.decode column = .ok rows := by
  rcases (encode_eq_ok_iff d hvalid).mp h with ⟨hrows, rfl⟩
  exact decode_layout hvalid hrows

/--
Decoding undoes encoding: what was encoded comes back, row by row and bit by
bit.
-/
theorem decode_encode {d : Datatype} (hvalid : d.validate = .ok ())
    {rows : List Instance} {column : Column} (h : d.encode rows = .ok column) :
    column.length = rows.length ∧ column.type = d.columnType ∧
      d.decode column = .ok rows := by
  refine ⟨?_, ?_, ?_⟩
  · exact length_of_encode hvalid h
  · exact type_of_encode hvalid h
  · exact decode_of_encode hvalid h

theorem decode_encode_poses :
    exists column, Sample.pose.encode Sample.poses = .ok column ∧
      column.length = 4 ∧
      Sample.pose.decode column = .ok Sample.poses := by
  have hvalid : Sample.pose.validate = .ok () := rfl
  have hencode : Sample.pose.encode Sample.poses =
    .ok (Sample.pose.layout Sample.poses) := rfl
  rcases decode_encode hvalid hencode with ⟨hlength, _, hdecode⟩
  exact ⟨_, hencode, hlength, hdecode⟩

end Datatype
end Columnar
