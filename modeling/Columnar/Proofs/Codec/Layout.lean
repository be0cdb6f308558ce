import Mathlib.Data.List.Basic
import Columnar.Codec.Encode
import Columnar.Proofs.Codec.Limits
import Columnar.Proofs.Conformance

/-!
# The column of instances

Which column instances of a datatype become, whatever has to be checked before
they may.  The slot of an absent row is filled: with zeros in a leaf or a fixed
row, with nothing in a list, and with the filler of each field in a struct.
-/

namespace Columnar

namespace Instance

/-- One bit for each row, if any row is absent. -/
def presence (rows : List Instance) : Validity :=
  if rows.any isNull then some (rows.map fun row => !row.isNull) else none

/-- What a row puts into a dense run of elements. -/
def slots (kind : ElementKind) (arity : Arity) : Instance -> List kind.Carrier
  | .null => List.replicate arity.slot kind.zero
  | .elements data => (data.as? kind).getD []
  | .struct _ => []

/--
The row is absent, or it holds elements of one kind in an accepted number.
-/
def Fills (kind : ElementKind) (arity : Arity) : Instance -> Prop
  | .null => True
  | .elements data => data.kind = kind ∧ arity.accepts data.length = true
  | .struct _ => False

theorem length_slots_fixed {kind : ElementKind} {count : Nat} {row : Instance}
    (h : row.Fills kind (.fixed count)) :
    (row.slots kind (.fixed count)).length = count := by
  cases row with
  | null => exact List.length_replicate
  | elements data =>
      rcases data with ⟨stored, values⟩
      rcases h with ⟨rfl, hcount⟩
      have hlength : values.length = count := Arity.accepts_fixed_iff.mp hcount
      simp [slots, Elements.as?, hlength]
  | struct values => exact h.elim

theorem length_slots_variable {kind : ElementKind} {row : Instance}
    (h : row.Fills kind .variable) :
    (row.slots kind .variable).length = row.count?.getD 0 := by
  cases row with
  | null => rfl
  | elements data =>
      rcases data with ⟨stored, values⟩
      rcases h with ⟨rfl, _⟩
      simp [slots, Elements.as?, count?, elements?, Elements.length]
  | struct values => exact h.elim

theorem length_flatMap_slots_fixed {kind : ElementKind} {count : Nat}
    {rows : List Instance}
    (h : forall row, row ∈ rows -> row.Fills kind (.fixed count)) :
    (rows.flatMap (slots kind (.fixed count))).length =
      rows.length * count := by
  induction rows with
  | nil => rw [List.flatMap_nil, List.length_nil, List.length_nil, Nat.zero_mul]
  | cons row rest ih =>
      have hrow : (row.slots kind (.fixed count)).length = count :=
        length_slots_fixed (h row List.mem_cons_self)
      have hrest : (rest.flatMap (slots kind (.fixed count))).length =
          rest.length * count :=
        ih fun other hother => h other (List.mem_cons_of_mem _ hother)
      rw [List.flatMap_cons, List.length_append, hrow, hrest, List.length_cons,
        Nat.succ_mul, Nat.add_comm]

theorem eq_elements_slots {kind : ElementKind} {arity : Arity} {row : Instance}
    (h : row.Fills kind arity) (hpresent : row.isNull = false) :
    row = .elements ⟨kind, row.slots kind arity⟩ := by
  cases row with
  | null => cases hpresent
  | elements data =>
      rcases data with ⟨stored, values⟩
      rcases h with ⟨rfl, _⟩
      simp [slots, Elements.as?]
  | struct values => exact h.elim

end Instance

namespace Datatype

mutual

def layout : Datatype -> List Instance -> Column
  | ⟨_, shape, _, _, _⟩, rows =>
      let validity := Instance.presence rows
      match shape with
      | .primitive kind =>
          .ofElements
            ⟨kind, rows.flatMap (Instance.slots kind (.fixed 1))⟩ validity
      | .enumeration _ =>
          .ofElements
            ⟨.u8, rows.flatMap (Instance.slots .u8 (.fixed 1))⟩ validity
      | .fixedList kind arity =>
          .fixedList .item arity.toNat rows.length
            (.ofElements
              ⟨kind, rows.flatMap (Instance.slots kind (.fixed arity.toNat))⟩
              none)
            validity
      | .list kind =>
          .list .item
            (Column.offsetsFrom 0 (rows.map fun row => row.count?.getD 0))
            (.ofElements
              ⟨kind, rows.flatMap (Instance.slots kind .variable)⟩ none)
            validity
      | .struct fields =>
          .struct rows.length (layoutFields fields (rows.map Instance.fields?))
            validity

def layoutFields :
    List (Field Datatype) -> List (Option (List Instance)) ->
    List (Label × Column)
  | [], _ => []
  | ⟨name, datatype⟩ :: rest, rows =>
      (datatype.label name, layout datatype
        (rows.map (Instance.firstOr datatype.filler)))
        :: layoutFields rest (rows.map fun row => row.map List.tail)

end

/-! ## Conformance of rows of elements -/

section

variable {name : String} {nullable broadcast nonEmpty : Bool} {row : Instance}

theorem conforms_primitive_iff {kind : ElementKind} :
    Conforms ⟨name, .primitive kind, nullable, broadcast, nonEmpty⟩ row ↔
      (row.isNull = true -> nullable = true) ∧ row.Fills kind (.fixed 1) := by
  cases row <;> simp [Conforms, Instance.isNull, Instance.Fills]

theorem conforms_fixedList_iff {kind : ElementKind} {arity : UInt32} :
    Conforms ⟨name, .fixedList kind arity, nullable, broadcast, nonEmpty⟩ row ↔
      (row.isNull = true -> nullable = true) ∧
        row.Fills kind (.fixed arity.toNat) := by
  cases row <;> simp [Conforms, Instance.isNull, Instance.Fills]

theorem conforms_list_iff {kind : ElementKind} :
    Conforms ⟨name, .list kind, nullable, broadcast, nonEmpty⟩ row ↔
      (row.isNull = true -> nullable = true) ∧ row.Fills kind .variable := by
  cases row <;>
    simp [Conforms, Instance.isNull, Instance.Fills, Arity.accepts]

theorem conforms_enumeration_iff {variants : List Variant} :
    Conforms ⟨name, .enumeration variants, nullable, broadcast, nonEmpty⟩ row ↔
      (row.isNull = true -> nullable = true) ∧ row.Fills .u8 (.fixed 1) ∧
        forall byte : UInt8, byte ∈ (row.values? .u8).getD [] ->
          exists v, v ∈ variants ∧ v.value = byte := by
  cases row with
  | null =>
      simp [Conforms, Instance.isNull, Instance.Fills, Instance.values?,
        Instance.elements?]
  | struct values => simp [Conforms, Instance.Fills]
  | elements data =>
      rcases data with ⟨kind, values⟩
      rw [Conforms]
      constructor
      · intro h
        rcases h with ⟨v, hv, hdata⟩
        cases hdata
        refine ⟨nofun, ⟨rfl, rfl⟩, ?_⟩
        intro byte hbyte
        rw [List.mem_singleton.mp hbyte]
        exact ⟨v, hv, rfl⟩
      · intro h
        rcases h with ⟨_, ⟨hkind, hcount⟩, hdeclared⟩
        cases hkind
        have hlength : values.length = 1 := Arity.accepts_fixed_iff.mp hcount
        rcases List.length_eq_one_iff.mp hlength with ⟨byte, rfl⟩
        rcases hdeclared byte List.mem_cons_self with ⟨v, hv, hbyte⟩
        exact ⟨v, hv, by rw [hbyte]⟩

end

/-! ## Length and type -/

theorem length_offsetsFrom (start : Nat) (lengths : List Nat) :
    (Column.offsetsFrom start lengths).length = lengths.length + 1 := by
  induction lengths generalizing start with
  | nil => rfl
  | cons length rest ih =>
      rw [Column.offsetsFrom, List.length_cons, ih, List.length_cons]

theorem length_layout {d : Datatype} {rows : List Instance}
    (h : forall row, row ∈ rows -> d.Conforms row) :
    (d.layout rows).length = rows.length := by
  rcases d with ⟨name, shape, nullable, broadcast, nonEmpty⟩
  cases shape with
  | primitive kind =>
      rw [layout]
      exact (Instance.length_flatMap_slots_fixed fun row hrow =>
        (conforms_primitive_iff.mp (h row hrow)).2).trans (Nat.mul_one _)
  | enumeration variants =>
      rw [layout]
      exact (Instance.length_flatMap_slots_fixed fun row hrow =>
        (conforms_enumeration_iff.mp (h row hrow)).2.1).trans (Nat.mul_one _)
  | fixedList kind arity =>
      rw [layout]
      rfl
  | list kind =>
      rw [layout, Column.length, length_offsetsFrom, List.length_map,
        Nat.add_sub_cancel]
  | struct fields =>
      rw [layout]
      rfl

mutual

theorem type_layout :
    forall (d : Datatype), d.AritiesFit -> forall rows : List Instance,
    (d.layout rows).type = d.columnType
  | ⟨_, .primitive _, _, _, _⟩, _, rows => by
      rw [layout, columnType]
      rfl
  | ⟨_, .enumeration _, _, _, _⟩, _, rows => by
      rw [layout, columnType]
      rfl
  | ⟨_, .list _, _, _, _⟩, _, rows => by
      rw [layout, columnType]
      rfl
  | ⟨_, .fixedList kind arity, _, _, _⟩, hfit, rows => by
      have harity : arity.toNat < wordLimit := aritiesFit_fixedList_iff.mp hfit
      have hmin : min arity.toNat maxRowSize = arity.toNat :=
        Nat.min_eq_left (le_maxRowSize_iff.mpr harity)
      rw [layout, columnType, hmin]
      rfl
  | ⟨_, .struct fields, _, _, _⟩, hfit, rows => by
      have hfields : forall arity, arity ∈ fieldArities fields ->
          arity < wordLimit :=
        aritiesFit_struct_iff.mp hfit
      rw [layout, columnType, Column.type,
        fieldTypes_layoutFields fields hfields]

theorem fieldTypes_layoutFields : forall fields : List (Field Datatype),
    (forall arity, arity ∈ fieldArities fields -> arity < wordLimit) ->
      forall rows : List (Option (List Instance)),
        Column.fieldTypes (layoutFields fields rows) = fieldTypes fields
  | [], _, rows => by
      rw [layoutFields, fieldTypes, Column.fieldTypes]
  | ⟨name, datatype⟩ :: rest, hfit, rows => by
      rw [fieldArities, List.forall_mem_append] at hfit
      rw [layoutFields, fieldTypes, Column.fieldTypes,
        type_layout datatype hfit.1, fieldTypes_layoutFields rest hfit.2]
      rfl

end

end Datatype
end Columnar
