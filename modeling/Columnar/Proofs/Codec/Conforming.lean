import Columnar.Proofs.Codec.Described

/-!
# Instances that are read conform

Whatever a row of a well-formed column is read as conforms to the datatype: a
null row is read only where the datatype has nulls, and the runs of a present
row have the length the column type or the offsets give them.
-/

namespace Columnar
namespace Column

theorem presentElements_slice_eq_ok {child : Column} {kind : ElementKind}
    {start count : Nat} (htype : child.type = .element kind)
    (hfits : start + count ≤ child.length) {i : Instance}
    (h : (child.slice start count).presentElements kind = .ok i) :
    exists values : List kind.Carrier, i = .elements ⟨kind, values⟩ ∧
      values.length = count := by
  rcases eq_leaf_of_type htype with ⟨slots, validity, rfl⟩
  rw [slice, presentElements] at h
  split at h
  · cases h
  · rw [if_pos rfl] at h
    exact ⟨_, (Except.ok.inj h).symm, length_window hfits⟩

namespace Offsets

variable {offsets : List Nat} {items : Nat} (h : Offsets offsets items)
include h

theorem startOf_le {row other : Nat} (hle : row ≤ other)
    (hother : other < offsets.length) :
    startOf offsets row ≤ startOf offsets other := by
  rcases Nat.eq_or_lt_of_le hle with rfl | hlt
  · exact Nat.le_refl _
  · rw [startOf_eq_getElem hother, startOf_eq_getElem (Nat.lt_trans hlt hother)]
    exact List.pairwise_iff_getElem.mp h.monotone row other _ hother hlt

theorem startOf_le_items {row : Nat} (hrow : row < offsets.length) :
    startOf offsets row ≤ items := by
  rw [startOf_eq_getElem hrow]
  exact h.within _ (List.getElem_mem hrow)

end Offsets
end Column

namespace Datatype

/-! ## Nulls -/

theorem isNull_of_presentElements {column : Column} {kind : ElementKind}
    {i : Instance} (h : column.presentElements kind = .ok i) :
    i.isNull = false := by
  unfold Column.presentElements at h
  split at h
  · cases h
  · split at h
    · split at h
      · cases h
        rfl
      · cases h
    · cases h

theorem isNull_of_readVariant {name : String} {variants : List Variant}
    {byte : UInt8} {i : Instance} (h : readVariant name variants byte = .ok i) :
    i.isNull = false := by
  rw [readVariant] at h
  split at h
  · cases h
    rfl
  · cases h

theorem isNull_of_readRow {d : Datatype} {column : Column} {row : Nat}
    {i : Instance} (h : d.readRow column row = .ok i) :
    i.isNull = column.isNull row := by
  cases hnull : column.isNull row with
  | true =>
      rw [readRow_of_isNull hnull] at h
      split at h
      · cases h
        rfl
      · cases h
  | false =>
      rcases d with ⟨name, shape, nullable, broadcast, nonEmpty⟩
      rw [readRow.eq_def] at h
      dsimp only at h
      rw [hnull, if_neg Bool.false_ne_true] at h
      cases shape with
      | primitive kind => exact isNull_of_presentElements h
      | enumeration variants =>
          dsimp only at h
          split at h
          · split at h
            · exact isNull_of_readVariant h
            · cases h
          · cases h
      | fixedList kind arity =>
          dsimp only at h
          split at h
          · exact isNull_of_presentElements h
          · cases h
      | list kind =>
          dsimp only at h
          split at h
          · split at h
            · exact isNull_of_presentElements h
            · cases h
          · cases h
      | struct fields =>
          dsimp only at h
          split at h
          · rcases map_eq_ok_iff.mp h with ⟨values, _, rfl⟩
            rfl
          · cases h

/-! ## Children of a struct -/

theorem readFields_cons_eq_ok_iff {name : String} {datatype : Datatype}
    {rest : List (Field Datatype)} {label : Label} {child : Column}
    {others : List (Label × Column)} {row : Nat} {values : List Instance} :
    readFields (⟨name, datatype⟩ :: rest) ((label, child) :: others) row =
      .ok values ↔
      exists value remaining, datatype.readRow child row = .ok value ∧
        readFields rest others row = .ok remaining ∧
          value :: remaining = values := by
  rw [readFields]
  simp only [bind_eq_ok_iff, inContext_eq_ok_iff, pure_eq_ok_iff,
    eq_comm (a := values)]
  constructor
  · intro h
    rcases h with ⟨value, hvalue, remaining, hremaining, hvalues⟩
    exact ⟨value, remaining, hvalue, hremaining, hvalues⟩
  · intro h
    rcases h with ⟨value, remaining, hvalue, hremaining, hvalues⟩
    exact ⟨value, hvalue, remaining, hremaining, hvalues⟩

/-! ## Conformance -/

section

variable {name : String} {nullable broadcast nonEmpty : Bool} {column : Column}
  {row : Nat} {i : Instance}

theorem conforms_of_readRow_primitive {kind : ElementKind}
    (htype : column.type = .element kind) (hrow : row < column.length)
    (hpresent : column.isNull row = false)
    (h : readRow ⟨name, .primitive kind, nullable, broadcast, nonEmpty⟩
      column row = .ok i) :
    Conforms ⟨name, .primitive kind, nullable, broadcast, nonEmpty⟩ i := by
  rw [readRow, hpresent, if_neg Bool.false_ne_true] at h
  rcases Column.presentElements_slice_eq_ok htype hrow h with
    ⟨values, rfl, hlength⟩
  exact ⟨rfl, hlength⟩

theorem conforms_of_readRow_enumeration {variants : List Variant}
    (htype : column.type = .element .u8) (hpresent : column.isNull row = false)
    (h : readRow ⟨name, .enumeration variants, nullable, broadcast, nonEmpty⟩
        column row = .ok i) :
    Conforms
      ⟨name, .enumeration variants, nullable, broadcast, nonEmpty⟩ i := by
  rcases Column.eq_leaf_of_type htype with ⟨slots, validity, rfl⟩
  rw [readRow, hpresent, if_neg Bool.false_ne_true] at h
  split at h
  · next byte hbyte =>
      rw [readVariant] at h
      split at h
      · next hdeclared =>
          cases h
          rcases List.any_eq_true.mp hdeclared with ⟨v, hv, hvalue⟩
          exact ⟨v, hv, by rw [beq_iff_eq.mp hvalue]⟩
      · cases h
  · cases h

theorem conforms_of_readRow_fixedList {kind : ElementKind} {arity : UInt32}
    (hwell : column.WellFormed)
    (htype : column.type = .fixedList .item (.element kind) arity.toNat)
    (hrow : row < column.length) (hpresent : column.isNull row = false)
    (h : readRow ⟨name, .fixedList kind arity, nullable, broadcast, nonEmpty⟩
        column row = .ok i) :
    Conforms
      ⟨name, .fixedList kind arity, nullable, broadcast, nonEmpty⟩ i := by
  rcases Column.eq_fixedList_of_type htype with
    ⟨rows, child, validity, rfl, hchild⟩
  rcases hwell with ⟨_, hitems, _, _⟩
  have hfits : row * arity.toNat + arity.toNat ≤ child.length := by
    rw [← Nat.succ_mul]
    exact Nat.le_trans (Nat.mul_le_mul_right _ hrow) hitems
  rw [readRow, hpresent, if_neg Bool.false_ne_true] at h
  rcases Column.presentElements_slice_eq_ok hchild hfits h with
    ⟨values, rfl, hlength⟩
  exact ⟨rfl, hlength⟩

theorem elements_of_readRow_list {kind : ElementKind} {item : Label}
    {offsets : List Nat} {child : Column} {validity : Validity}
    (hoffsets : Column.Offsets offsets child.length)
    (hchild : child.type = .element kind) (hrow : row + 1 < offsets.length)
    (hpresent : (Column.list item offsets child validity).isNull row = false)
    (h : readRow ⟨name, .list kind, nullable, broadcast, nonEmpty⟩
      (.list item offsets child validity) row = .ok i) :
    exists values : List kind.Carrier, i = .elements ⟨kind, values⟩ ∧
      values.length = Column.startOf offsets (row + 1) -
        Column.startOf offsets row := by
  have hstart : row < offsets.length := Nat.lt_of_succ_lt hrow
  have hle := hoffsets.startOf_le (Nat.le_add_right row 1) hrow
  have hfits := hoffsets.startOf_le_items hrow
  rw [readRow, hpresent, if_neg Bool.false_ne_true,
    List.getElem?_eq_getElem hstart, List.getElem?_eq_getElem hrow,
    ← Column.startOf_eq_getElem hstart, ← Column.startOf_eq_getElem hrow] at h
  exact Column.presentElements_slice_eq_ok hchild (by omega) h

end

mutual

/-- Only instances of the datatype are read from a well-formed column. -/
theorem conforms_of_readRow : forall (d : Datatype), d.AritiesFit ->
    forall {column : Column} {row : Nat} {i : Instance}, column.WellFormed ->
      column.type = d.columnType -> row < column.length ->
      d.readRow column row = .ok i ->
        d.Conforms i
  | ⟨name, shape, nullable, broadcast, nonEmpty⟩, hfit, column, row, i, hwell,
    htype, hrow, h => by
      cases hpresent : column.isNull row with
      | true =>
          rw [readRow_of_isNull hpresent] at h
          split at h
          · next hnullable =>
              cases h
              exact conforms_null_iff.mpr hnullable
          · cases h
      | false =>
          match shape with
          | .primitive kind =>
              exact conforms_of_readRow_primitive htype hrow hpresent h
          | .enumeration variants =>
              exact conforms_of_readRow_enumeration htype hpresent h
          | .fixedList kind arity =>
              have harity :=
                le_maxRowSize_iff.mpr (aritiesFit_fixedList_iff.mp hfit)
              rw [columnType, Nat.min_eq_left harity] at htype
              exact conforms_of_readRow_fixedList hwell htype hrow hpresent h
          | .list kind =>
              rcases Column.eq_list_of_type htype with
                ⟨offsets, child, validity, rfl, hchild⟩
              rcases elements_of_readRow_list hwell.2.1 hchild
                (Nat.add_lt_of_lt_sub hrow) hpresent h with ⟨values, rfl, _⟩
              rfl
          | .struct fields =>
              rcases Column.eq_struct_of_type htype with
                ⟨rows, children, validity, rfl, htypes⟩
              rw [readRow, hpresent, if_neg Bool.false_ne_true] at h
              rcases map_eq_ok_iff.mp h with ⟨values, hvalues, rfl⟩
              rw [conforms_struct_iff]
              exact conformEach_of_readFields fields
                (aritiesFit_struct_iff.mp hfit) hwell.2 htypes hrow hvalues

theorem conformEach_of_readFields : forall (fields : List (Field Datatype)),
    (forall arity, arity ∈ fieldArities fields -> arity < wordLimit) ->
      forall {children : List (Label × Column)} {parent : Validity}
        {rows row : Nat}
        {values : List Instance},
          Column.WellFormedFields parent rows children ->
          Column.fieldTypes children = fieldTypes fields -> row < rows ->
            readFields fields children row = .ok values ->
            ConformEach fields values
  | [], _, children, parent, rows, row, values, _, _, _, h => by
      rw [readFields] at h
      · cases h
        trivial
      · exact nofun
  | ⟨name, datatype⟩ :: rest, hfit, children, parent, rows, row, values, hwell,
    htypes, hrow, h => by
      rcases exists_child_of_fieldTypes htypes with
        ⟨child, others, rfl, htype, hothers⟩
      rcases readFields_cons_eq_ok_iff.mp h with
        ⟨value, remaining, hvalue, hremaining, rfl⟩
      rcases hwell with ⟨hlength, hchild, _, hrest⟩
      rw [fieldArities, List.forall_mem_append] at hfit
      rw [ConformEach]
      constructor
      · exact conforms_of_readRow datatype hfit.1 hchild htype
          (hlength ▸ hrow) hvalue
      · exact conformEach_of_readFields rest hfit.2 hrest hothers
          hrow hremaining

end

end Datatype
end Columnar
