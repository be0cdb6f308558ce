import Columnar.Proofs.Codec.RoundTrip

/-!
# Columns that fit a datatype

A column fits a datatype if it has its type, and its nulls only where the
datatype has them.  Those that encoding makes do.  A well-formed column that
fits can be read, whatever is under its null rows, save for bytes that are no
variant of an enumeration; and a column that can be read fits.
-/

namespace Columnar
namespace Datatype

structure Describes (d : Datatype) (column : Column) : Prop where
  type : column.type = d.columnType
  present : d.nullable = false -> forall row, column.isNull row = false

theorem describes_empty (d : Datatype) : d.Describes (.empty d.columnType) where
  type := Column.type_empty d.columnType
  present := by
    intro _ row
    rw [Column.isNull, Column.validity_empty]

theorem describes_of_encode {d : Datatype} (hvalid : d.validate = .ok ())
    {rows : List Instance} {column : Column} (h : d.encode rows = .ok column) :
    d.Describes column where
  type := type_of_encode hvalid h
  present := by
    intro hnullable row
    rcases (encode_eq_ok_iff d hvalid).mp h with ⟨hrows, rfl⟩
    have hnone : rows.any Instance.isNull = false := by
      rw [List.any_eq_false]
      intro i hi hnull
      rw [nullable_of_conforms (hrows.conforms i hi) hnull] at hnullable
      cases hnullable
    rw [Column.isNull, validity_layout, Instance.presence, hnone]
    rfl

/-! ## Outcomes of reading -/

mutual

def hasEnumeration : Datatype -> Bool
  | ⟨_, shape, _, _, _⟩ =>
      match shape with
      | .primitive _ | .fixedList _ _ | .list _ => false
      | .enumeration _ => true
      | .struct fields => anyEnumeration fields

def anyEnumeration : List (Field Datatype) -> Bool
  | [] => false
  | ⟨_, datatype⟩ :: rest => hasEnumeration datatype || anyEnumeration rest

end

end Datatype

/--
There is a result, or else an enumeration that may occur has met another byte.
-/
def Readable (enumerated : Bool) (outcome : Except DecodeError α) : Prop :=
  match outcome with
  | .ok _ => True
  | .error e =>
      enumerated = true ∧ exists name byte, e.root = .invalidEnumValue name byte

namespace Readable

variable {enumerated : Bool}

theorem mono {other : Bool} {outcome : Except DecodeError α}
    (h : Readable enumerated outcome)
    (himp : enumerated = true -> other = true) : Readable other outcome := by
  cases outcome with
  | ok value => trivial
  | error e => exact ⟨himp h.1, h.2⟩

theorem bind {x : Except DecodeError α} {f : α -> Except DecodeError β}
    (hx : Readable enumerated x) (hf : forall a, Readable enumerated (f a)) :
    Readable enumerated (x >>= f) := by
  cases x with
  | ok a => exact hf a
  | error e => exact hx

theorem map {x : Except DecodeError α} (f : α -> β)
    (hx : Readable enumerated x) :
    Readable enumerated (x.map f) := by
  cases x with
  | ok a => trivial
  | error e => exact hx

theorem inContext {x : Except DecodeError α} (location : String)
    (hx : Readable enumerated x) :
    Readable enumerated (Columnar.inContext location x) := by
  cases x with
  | ok a => trivial
  | error e => exact hx

theorem ok_or_invalid {outcome : Except DecodeError α}
    (h : Readable enumerated outcome) :
    (exists value, outcome = .ok value) ∨
      enumerated = true ∧ exists e name byte, outcome = .error e ∧
        e.root = .invalidEnumValue name byte := by
  cases outcome with
  | ok value => exact Or.inl ⟨value, rfl⟩
  | error e =>
      rcases h with ⟨henumerated, name, byte, hroot⟩
      exact Or.inr ⟨henumerated, e, name, byte, rfl, hroot⟩

end Readable

namespace Datatype

/-! ## Rows of each shape -/

theorem presentElements_slice {child : Column} {kind : ElementKind}
    {start count : Nat} (htype : child.type = .element kind)
    (h : child.Present start (start + count)) :
    exists i, (child.slice start count).presentElements kind = .ok i := by
  rcases Column.eq_leaf_of_type htype with ⟨slots, validity, rfl⟩
  have hnulls := Column.nullCount_slice h
  rw [Column.slice] at hnulls ⊢
  exact ⟨_, Column.presentElements_leaf hnulls⟩

section

variable {name : String} {nullable broadcast nonEmpty : Bool} {column : Column}
  {row : Nat}

theorem readRow_primitive {kind : ElementKind}
    (htype : column.type = .element kind)
    (hpresent : column.isNull row = false) :
    exists i,
      readRow ⟨name, .primitive kind, nullable, broadcast, nonEmpty⟩
          column row =
        .ok i := by
  rw [readRow, hpresent, if_neg Bool.false_ne_true]
  exact presentElements_slice htype (Column.present_of_isNull hpresent)

theorem readRow_enumeration {variants : List Variant}
    (htype : column.type = .element .u8) (hrow : row < column.length)
    (hpresent : column.isNull row = false) :
    Readable true
      (readRow
        ⟨name, .enumeration variants, nullable, broadcast, nonEmpty⟩
        column row) := by
  rcases Column.eq_leaf_of_type htype with ⟨slots, validity, rfl⟩
  have hbyte : slots[row]? = some slots[row] := List.getElem?_eq_getElem hrow
  rw [readRow, hpresent, if_neg Bool.false_ne_true, hbyte]
  dsimp only
  rw [readVariant]
  split
  · trivial
  · exact ⟨rfl, _, _, rfl⟩

theorem readRow_fixedList {kind : ElementKind} {arity : UInt32} {size : Nat}
    (hwell : column.WellFormed)
    (htype : column.type = .fixedList .item (.element kind) size)
    (hrow : row < column.length) (hpresent : column.isNull row = false) :
    exists i,
      readRow ⟨name, .fixedList kind arity, nullable, broadcast, nonEmpty⟩
          column row =
        .ok i := by
  rcases Column.eq_fixedList_of_type htype with
    ⟨rows, child, validity, rfl, hchild⟩
  rcases hwell with ⟨_, _, _, hitems⟩
  have hitem := hitems rfl row hrow hpresent
  rw [Nat.succ_mul] at hitem
  rw [readRow, hpresent, if_neg Bool.false_ne_true]
  exact presentElements_slice hchild hitem

theorem readRow_list {kind : ElementKind} (hwell : column.WellFormed)
    (htype : column.type = .list .item (.element kind))
    (hrow : row < column.length) (hpresent : column.isNull row = false) :
    exists i, readRow ⟨name, .list kind, nullable, broadcast, nonEmpty⟩ column
      row = .ok i := by
  rcases Column.eq_list_of_type htype with
    ⟨offsets, child, validity, rfl, hchild⟩
  rcases hwell with ⟨_, hoffsets, _, hitems⟩
  have hstop : row + 1 < offsets.length := Nat.add_lt_of_lt_sub hrow
  have hstart : row < offsets.length := Nat.lt_of_succ_lt hstop
  have hle : offsets[row] ≤ offsets[row + 1] :=
    List.pairwise_iff_getElem.mp hoffsets.monotone row (row + 1) hstart hstop
      (Nat.lt_succ_self row)
  have hitem := hitems rfl row hrow hpresent
  rw [Column.startOf_eq_getElem hstart, Column.startOf_eq_getElem hstop,
    ← Nat.add_sub_of_le hle] at hitem
  rw [readRow, hpresent, if_neg Bool.false_ne_true,
    List.getElem?_eq_getElem hstart, List.getElem?_eq_getElem hstop]
  exact presentElements_slice hchild hitem

end

/-! ## Rows and columns -/

theorem exists_child_of_fieldTypes {name : String} {datatype : Datatype}
    {rest : List (Field Datatype)} {children : List (Label × Column)}
    (h : Column.fieldTypes children = fieldTypes (⟨name, datatype⟩ :: rest)) :
    exists child others, children = (datatype.label name, child) :: others ∧
      child.type = datatype.columnType ∧
        Column.fieldTypes others = fieldTypes rest := by
  cases children with
  | nil => cases h
  | cons first others =>
      rcases first with ⟨label, child⟩
      rw [Column.fieldTypes, fieldTypes] at h
      rcases List.cons.inj h with ⟨hfirst, hothers⟩
      rcases Prod.mk.inj hfirst with ⟨rfl, htype⟩
      exact ⟨child, others, rfl, htype, hothers⟩

mutual

theorem readable_readRow : forall (d : Datatype) {column : Column} {row : Nat},
    column.WellFormed -> column.type = d.columnType -> row < column.length ->
      (column.isNull row = true -> d.nullable = true) ->
        Readable d.hasEnumeration (d.readRow column row)
  | ⟨name, shape, nullable, broadcast, nonEmpty⟩, column, row, hwell, htype,
    hrow, hnullable => by
      -- Under a null row nothing is read, so only a present row needs its
      -- shape.
      cases hpresent : column.isNull row with
      | true =>
          rw [readRow_of_isNull hpresent, if_pos (hnullable hpresent)]
          trivial
      | false =>
          match shape with
          | .primitive kind =>
              rcases readRow_primitive htype hpresent with ⟨i, hread⟩
              rw [hread]
              trivial
          | .fixedList kind arity =>
              rcases readRow_fixedList hwell htype hrow hpresent with ⟨i, hread⟩
              rw [hread]
              trivial
          | .list kind =>
              rcases readRow_list hwell htype hrow hpresent with ⟨i, hread⟩
              rw [hread]
              trivial
          | .enumeration variants =>
              exact readRow_enumeration htype hrow hpresent
          | .struct fields =>
              rcases Column.eq_struct_of_type htype with
                ⟨rows, children, validity, rfl, htypes⟩
              have hparent : validity.isNull row = false :=
                (Column.isNull_eq _ row).symm.trans hpresent
              rw [readRow, hpresent, if_neg Bool.false_ne_true]
              exact (readable_readFields fields hwell.2 htypes hrow
                hparent).map _

theorem readable_readFields : forall (fields : List (Field Datatype))
    {children : List (Label × Column)} {parent : Validity} {rows row : Nat},
    Column.WellFormedFields parent rows children ->
      Column.fieldTypes children = fieldTypes fields -> row < rows ->
        parent.isNull row = false ->
          Readable (anyEnumeration fields) (readFields fields children row)
  | [], children, parent, rows, row, _, _, _, _ => by
      rw [readFields]
      · trivial
      · exact nofun
  | ⟨name, datatype⟩ :: rest, children, parent, rows, row, hwell, htypes, hrow,
    hpresent => by
      rcases exists_child_of_fieldTypes htypes with
        ⟨child, others, rfl, htype, hothers⟩
      rcases hwell with ⟨hlength, hchild, hnulls, hrest⟩
      have hnullable : child.isNull row = true -> datatype.nullable = true := by
        intro hnull
        cases hlabel : datatype.nullable with
        | true => rfl
        | false =>
            rw [hnulls hlabel row hrow hpresent] at hnull
            cases hnull
      have hvalue :=
        readable_readRow datatype hchild htype (hlength ▸ hrow) hnullable
      have hvalues := readable_readFields rest hrest hothers hrow hpresent
      rw [readFields, anyEnumeration]
      apply Readable.bind
      · exact (hvalue.inContext name).mono fun h => by rw [h]; rfl
      · intro value
        exact (hvalues.mono fun h => by rw [h, Bool.or_true]).bind fun _ =>
          trivial

end

theorem readable_readRows {d : Datatype} {column : Column} {start count : Nat}
    (h : forall row, row < start + count ->
      Readable d.hasEnumeration (d.readRow column row)) :
    Readable d.hasEnumeration (d.readRows column start count) := by
  induction count generalizing start with
  | zero => trivial
  | succ count ih =>
      have hrest : Readable d.hasEnumeration
          (d.readRows column (start + 1) count) := by
        apply ih
        intro row hrow
        exact h row (by omega)
      rw [readRows]
      apply Readable.bind
      · exact h start (by omega)
      · intro value
        exact hrest.bind fun _ => trivial

/--
What lies under null rows does not keep a well-formed column from being read.
-/
theorem readable_decode {d : Datatype} {column : Column}
    (hwell : column.WellFormed) (h : d.Describes column) :
    Readable d.hasEnumeration (d.decode column) := by
  rw [decode, if_pos h.type]
  apply Readable.inContext
  apply readable_readRows
  intro row hrow
  rw [Nat.zero_add] at hrow
  apply readable_readRow d hwell h.type hrow
  intro hnull
  cases hnullable : d.nullable with
  | true => rfl
  | false =>
      rw [h.present hnullable row] at hnull
      cases hnull

theorem exists_readRow_of_readRows {d : Datatype} {column : Column}
    {start count : Nat} {rows : List Instance}
    (h : d.readRows column start count = .ok rows) {row : Nat}
    (hstart : start ≤ row) (hrow : row < start + count) :
    exists i, d.readRow column row = .ok i := by
  induction count generalizing start rows with
  | zero => omega
  | succ count ih =>
      rcases bind_eq_ok_iff.mp h with ⟨i, hfirst, hrest⟩
      rcases bind_eq_ok_iff.mp hrest with ⟨others, hothers, _⟩
      rcases Nat.eq_or_lt_of_le hstart with rfl | hlt
      · exact ⟨i, hfirst⟩
      · exact ih hothers hlt (by omega)

theorem describes_of_decode {d : Datatype} {column : Column}
    (hcovers : column.validity.Covers column.length) {rows : List Instance}
    (h : d.decode column = .ok rows) : d.Describes column := by
  rw [decode] at h
  split at h
  · next htype =>
      refine ⟨htype, ?_⟩
      intro hnullable row
      cases hnull : column.isNull row with
      | false => rfl
      | true =>
          cases hread : d.readRows column 0 column.length with
          | error e =>
              rw [hread] at h
              cases h
          | ok values =>
              have hlt := Column.lt_length_of_isNull hcovers hnull
              rcases exists_readRow_of_readRows hread (Nat.zero_le row)
                (by omega) with ⟨i, hi⟩
              rw [readRow_of_isNull hnull, hnullable] at hi
              cases hi
  · cases h

end Datatype
end Columnar
