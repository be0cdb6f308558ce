import Columnar.Proofs.Codec.RoundTrip
import Columnar.Proofs.Column.Assembly

/-!
# Encoded columns can be put together

Whatever the parts of a column are checked for when it is put together holds of
the columns that encoding makes, at every depth.  Under an absent struct no
child has a null of its own that its label rules out.
-/

namespace Columnar

namespace Instance

variable {kind : ElementKind} {rows : List Instance}

theorem presence_eq_none (h : forall row, row ∈ rows -> row.isNull = false) :
    presence rows = none := by
  rw [presence, if_neg]
  intro hany
  rcases List.any_eq_true.mp hany with ⟨row, hrow, hnull⟩
  rw [h row hrow] at hnull
  cases hnull

theorem covers_presence (rows : List Instance) :
    (presence rows).Covers rows.length := by
  unfold presence
  split
  · exact List.length_map _
  · trivial

theorem map_length_slots
    (h : forall row, row ∈ rows -> row.Fills kind .variable) :
    (rows.map (slots kind .variable)).map List.length =
      rows.map fun row => row.count?.getD 0 := by
  rw [List.map_map]
  exact List.map_congr_left fun row hrow => length_slots_variable (h row hrow)

end Instance

/-! ## Offsets -/

namespace Column

theorem within_of_mem_offsetsFrom {start offset : Nat} {lengths : List Nat}
    (h : offset ∈ offsetsFrom start lengths) :
    start ≤ offset ∧ offset ≤ start + lengths.sum := by
  induction lengths generalizing start with
  | nil =>
      rw [offsetsFrom, List.mem_singleton] at h
      rw [h]
      exact ⟨Nat.le_refl _, Nat.le_add_right _ _⟩
  | cons length rest ih =>
      rw [List.sum_cons]
      rcases List.mem_cons.mp h with rfl | h
      · exact ⟨Nat.le_refl _, Nat.le_add_right _ _⟩
      · have hrest := ih h
        omega

theorem pairwise_offsetsFrom (start : Nat) (lengths : List Nat) :
    (offsetsFrom start lengths).Pairwise (· ≤ ·) := by
  induction lengths generalizing start with
  | nil => exact List.pairwise_singleton _ _
  | cons length rest ih =>
      rw [offsetsFrom, List.pairwise_cons]
      refine ⟨?_, ih (start + length)⟩
      intro offset hoffset
      exact Nat.le_of_add_right_le (within_of_mem_offsetsFrom hoffset).1

theorem offsets_offsetsFrom (lengths : List Nat) :
    Offsets (offsetsFrom 0 lengths) lengths.sum where
  nonempty := by
    cases lengths <;> exact List.cons_ne_nil _ _
  monotone := pairwise_offsetsFrom 0 lengths
  within := by
    intro offset hoffset
    have hwithin := (within_of_mem_offsetsFrom hoffset).2
    rwa [Nat.zero_add] at hwithin

end Column

namespace Datatype

/-! ## Layouts -/

theorem isNull_layout_of_not_nullable {d : Datatype} (hd : d.nullable = false)
    {rows : List Instance} (h : forall row, row ∈ rows -> d.Conforms row)
    (index : Nat) :
    (d.layout rows).isNull index = false := by
  have hpresent : forall row, row ∈ rows -> row.isNull = false := by
    intro row hrow
    apply Bool.eq_false_iff.mpr
    intro hnull
    rw [nullable_of_conforms (h row hrow) hnull] at hd
    cases hd
  rw [Column.isNull, validity_layout, Instance.presence_eq_none hpresent]

mutual

theorem assembles_layout : forall d : Datatype, d.validate = .ok () ->
    forall {rows : List Instance}, d.Encodable rows -> (d.layout rows).Assembles
  | ⟨_, .primitive _, _, _, _⟩, _, rows, h => by
      have hfills := (encodable_primitive_iff.mp h).2
      rw [layout, Column.assembles_ofElements,
        Instance.length_flatMap_slots_fixed hfills, Nat.mul_one]
      exact Instance.covers_presence rows
  | ⟨_, .enumeration _, _, _, _⟩, _, rows, h => by
      have hfills : forall row, row ∈ rows -> row.Fills .u8 (.fixed 1) :=
        fun row hrow => ((encodable_enumeration_iff.mp h).2 row hrow).1
      rw [layout, Column.assembles_ofElements,
        Instance.length_flatMap_slots_fixed hfills, Nat.mul_one]
      exact Instance.covers_presence rows
  | ⟨_, .fixedList _ _, _, _, _⟩, hvalid, rows, h => by
      rcases encodable_fixedList_iff.mp h with ⟨_, hfills, harity⟩
      have hpos := UInt32.pos_iff_ne_zero.mpr (arity_ne_zero_of_validate hvalid)
      rw [layout]
      exact ⟨trivial, le_maxRowSize_iff.mpr harity,
        (rowCount_slots hpos hfills).symm, Instance.covers_presence rows,
        fun _ _ hnull => nomatch hnull⟩
  | ⟨_, .list kind, _, _, _⟩, _, rows, h => by
      rcases encodable_list_iff.mp h with ⟨_, hfills, htotal⟩
      have hitems : (rows.flatMap (Instance.slots kind .variable)).length =
          (rows.map fun row => row.count?.getD 0).sum := by
        rw [List.flatMap_def, List.length_flatten,
          Instance.map_length_slots hfills]
      rw [layout]
      have hoffsets :=
        Column.offsets_offsetsFrom (rows.map fun row => row.count?.getD 0)
      rw [← hitems] at hoffsets
      refine ⟨trivial, hoffsets, ?_, ?_, fun _ => rfl⟩
      · intro offset hoffset
        have hwithin := (Column.within_of_mem_offsetsFrom hoffset).2
        rw [offsetLimit_eq_wordLimit]
        omega
      · rw [length_offsetsFrom, List.length_map, Nat.add_sub_cancel]
        exact Instance.covers_presence rows
  | ⟨_, .struct [], _, _, _⟩, hvalid, _, _ =>
      absurd rfl (fields_ne_nil_of_validate hvalid)
  | ⟨_, .struct (field :: rest), _, _, _⟩, hvalid, rows, h => by
      rcases encodable_struct_iff.mp h with ⟨_, hshape, heach⟩
      have hfields := validate_field_of_validate hvalid
      have hchildren := assemblesFields_layoutFields (field :: rest) hfields
        (length_eq_of_fields? hshape) heach (Instance.presence rows)
      rw [List.length_map] at hchildren
      rw [layout]
      refine ⟨?_, Instance.covers_presence rows, hchildren⟩
      rw [rowsOfFirst_layoutFields (hfields _ List.mem_cons_self) heach,
        List.length_map]

theorem assemblesFields_layoutFields : forall fields : List (Field Datatype),
    (forall field, field ∈ fields -> field.datatype.validate = .ok ()) ->
      forall {rows : List (Option (List Instance))},
        (forall values, some values ∈ rows -> values.length = fields.length) ->
        EncodableEach fields rows -> forall parent : Validity,
          Column.AssemblesFields parent rows.length (layoutFields fields rows)
  | [], _, _, _, _, _ => by
      rw [layoutFields]
      trivial
  | ⟨name, datatype⟩ :: rest, hvalid, rows, hcount, heach, parent => by
      rw [List.forall_mem_cons] at hvalid
      rcases (encodableEach_cons_iff hvalid.1 hcount).mp heach with
        ⟨hone, hothers⟩
      have hrest := assemblesFields_layoutFields rest hvalid.2
        (forall_length_tail hcount) hothers parent
      rw [List.length_map] at hrest
      rw [layoutFields]
      refine ⟨assembles_layout datatype hvalid.1 hone, ?_, ?_, hrest⟩
      · rw [length_layout hone.conforms, List.length_map]
      -- A child that is never null has no bits at all, so the bits of the
      -- parent do not matter.
      · intro hlabel row hnull
        rw [isNull_layout_of_not_nullable hlabel hone.conforms] at hnull
        cases hnull

end

theorem assembles_of_encode {d : Datatype} (hvalid : d.validate = .ok ())
    {rows : List Instance} {column : Column} (h : d.encode rows = .ok column) :
    column.Assembles := by
  rcases (encode_eq_ok_iff d hvalid).mp h with ⟨hrows, rfl⟩
  exact assembles_layout d hvalid hrows

/--
What encoding makes can be relied on wherever a well-formed column is asked for.
-/
theorem wellFormed_of_encode {d : Datatype} (hvalid : d.validate = .ok ())
    {rows : List Instance} {column : Column} (h : d.encode rows = .ok column) :
    column.WellFormed :=
  column.wellFormed_of_assembles (assembles_of_encode hvalid h)

end Datatype
end Columnar
