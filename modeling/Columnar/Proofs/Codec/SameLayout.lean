import Columnar.Codec.Decode
import Columnar.Proofs.Codec.Limits
import Columnar.Proofs.Conformance

/-!
# What a column type tells

The type of a column is compared wherever a column made elsewhere is met, and
nothing else of its layout is.  Equal types do mean equal layouts, down to the
names and the nullability of fields, with one gap: a row has at most as many
items as a signed 32-bit word can count, so all arities from that size on have
one type.
-/

namespace Columnar
namespace Datatype

/-! ## Equal layouts -/

def stored? (d : Datatype) : Option ElementKind :=
  match d.shape with
  | .primitive kind => some kind
  | .enumeration _ => some .u8
  | .fixedList _ _ | .list _ | .struct _ => none

section

variable (SameArity : UInt32 -> UInt32 -> Prop)

mutual

/--
The same shape, elements and fields at every depth; `SameArity` compares fixed
arities.
-/
inductive SameLayout : Datatype -> Datatype -> Prop
  | single {a b : Datatype} {kind : ElementKind} (ha : a.stored? = some kind)
      (hb : b.stored? = some kind) : SameLayout a b
  | fixedList {a b : Datatype} {kind : ElementKind} {m n : UInt32}
      (ha : a.shape = .fixedList kind m) (hb : b.shape = .fixedList kind n)
      (harity : SameArity m n) : SameLayout a b
  | list {a b : Datatype} {kind : ElementKind} (ha : a.shape = .list kind)
      (hb : b.shape = .list kind) : SameLayout a b
  | struct {a b : Datatype} {fields others : List (Field Datatype)}
      (ha : a.shape = .struct fields) (hb : b.shape = .struct others)
      (hfields : SameLayouts fields others) : SameLayout a b

inductive SameLayouts : List (Field Datatype) -> List (Field Datatype) -> Prop
  | nil : SameLayouts [] []
  | cons {name : String} {a b : Datatype} {rest others : List (Field Datatype)}
      (hnullable : a.nullable = b.nullable) (hfirst : SameLayout a b)
      (hrest : SameLayouts rest others) :
      SameLayouts (⟨name, a⟩ :: rest) (⟨name, b⟩ :: others)

end

end

/--
Rows of these arities have one size: both arities, or neither, are beyond the
largest size.
-/
def SameRowSize (m n : UInt32) : Prop :=
  min m.toNat maxRowSize = min n.toNat maxRowSize

/-! ## Datatypes by column type -/

section

variable {d : Datatype} {kind : ElementKind}

theorem columnType_eq_element_iff :
    d.columnType = .element kind ↔ d.stored? = some kind := by
  rcases d with ⟨name, shape, nullable, broadcast, nonEmpty⟩
  cases shape <;> simp [columnType, stored?, ColumnType.element]

theorem columnType_eq_fixedList_iff {size : Nat} :
    d.columnType = .fixedList .item (.element kind) size ↔
      exists arity, d.shape = .fixedList kind arity ∧
        min arity.toNat maxRowSize = size := by
  rcases d with ⟨name, shape, nullable, broadcast, nonEmpty⟩
  cases shape <;> simp [columnType, ColumnType.element, and_assoc]

theorem columnType_eq_list_iff :
    d.columnType = .list .item (.element kind) ↔ d.shape = .list kind := by
  rcases d with ⟨name, shape, nullable, broadcast, nonEmpty⟩
  cases shape <;> simp [columnType, ColumnType.element]

theorem columnType_eq_struct_iff {types : List (Label × ColumnType)} :
    d.columnType = .struct types ↔
      exists fields, d.shape = .struct fields ∧ fieldTypes fields = types := by
  rcases d with ⟨name, shape, nullable, broadcast, nonEmpty⟩
  cases shape <;> simp [columnType, ColumnType.element]

end

/-! ## Types against layouts -/

mutual

theorem columnType_eq_of_sameLayout :
    forall {a b : Datatype}, SameLayout SameRowSize a b ->
    a.columnType = b.columnType
  | _, _, .single ha hb => by
      rw [columnType_eq_element_iff.mpr ha, columnType_eq_element_iff.mpr hb]
  | _, _, .fixedList ha hb harity => by
      rw [columnType_eq_fixedList_iff.mpr ⟨_, ha, harity⟩,
        columnType_eq_fixedList_iff.mpr ⟨_, hb, rfl⟩]
  | _, _, .list ha hb => by
      rw [columnType_eq_list_iff.mpr ha, columnType_eq_list_iff.mpr hb]
  | _, _, .struct ha hb hfields => by
      rw [columnType_eq_struct_iff.mpr
          ⟨_, ha, fieldTypes_eq_of_sameLayouts hfields⟩,
        columnType_eq_struct_iff.mpr ⟨_, hb, rfl⟩]

theorem fieldTypes_eq_of_sameLayouts :
    forall {fields others : List (Field Datatype)},
    SameLayouts SameRowSize fields others ->
    fieldTypes fields = fieldTypes others
  | _, _, .nil => rfl
  | _, _, .cons hnullable hfirst hrest => by
      rw [fieldTypes, fieldTypes, hnullable, columnType_eq_of_sameLayout hfirst,
        fieldTypes_eq_of_sameLayouts hrest]

end

mutual

theorem sameLayout_of_columnType_eq : forall (a : Datatype) {b : Datatype},
    a.columnType = b.columnType -> SameLayout SameRowSize a b
  | ⟨_, .primitive kind, _, _, _⟩, b, h => by
      rw [columnType] at h
      exact .single rfl (columnType_eq_element_iff.mp h.symm)
  | ⟨_, .enumeration variants, _, _, _⟩, b, h => by
      rw [columnType] at h
      exact .single rfl (columnType_eq_element_iff.mp h.symm)
  | ⟨_, .fixedList kind arity, _, _, _⟩, b, h => by
      rw [columnType] at h
      rcases columnType_eq_fixedList_iff.mp h.symm with ⟨other, hshape, hsize⟩
      exact .fixedList rfl hshape hsize.symm
  | ⟨_, .list kind, _, _, _⟩, b, h => by
      rw [columnType] at h
      exact .list rfl (columnType_eq_list_iff.mp h.symm)
  | ⟨_, .struct fields, _, _, _⟩, b, h => by
      rw [columnType] at h
      rcases columnType_eq_struct_iff.mp h.symm with ⟨others, hshape, htypes⟩
      exact .struct rfl hshape (sameLayouts_of_fieldTypes_eq fields htypes.symm)

theorem sameLayouts_of_fieldTypes_eq : forall (fields : List (Field Datatype))
    {others : List (Field Datatype)}, fieldTypes fields = fieldTypes others ->
      SameLayouts SameRowSize fields others
  | [], [], _ => .nil
  | [], ⟨_, _⟩ :: _, h => by cases h
  | ⟨_, _⟩ :: _, [], h => by cases h
  | ⟨name, a⟩ :: rest, ⟨other, b⟩ :: others, h => by
      rw [fieldTypes, fieldTypes] at h
      rcases List.cons.inj h with ⟨hfirst, hrest⟩
      rcases Prod.mk.inj hfirst with ⟨hlabel, htype⟩
      rcases Label.mk.inj hlabel with ⟨rfl, hnullable, _⟩
      exact .cons hnullable (sameLayout_of_columnType_eq a htype)
        (sameLayouts_of_fieldTypes_eq rest hrest)

end

theorem columnType_eq_iff {a b : Datatype} :
    a.columnType = b.columnType ↔ SameLayout SameRowSize a b :=
  ⟨sameLayout_of_columnType_eq a, columnType_eq_of_sameLayout⟩

/-! ## Arities that are told apart -/

theorem eq_of_sameRowSize {m n : UInt32} (hm : m.toNat < wordLimit)
    (hn : n.toNat < wordLimit) (h : SameRowSize m n) : m = n := by
  rw [SameRowSize, Nat.min_eq_left (le_maxRowSize_iff.mpr hm),
    Nat.min_eq_left (le_maxRowSize_iff.mpr hn)] at h
  exact UInt32.toNat_inj.mp h

mutual

theorem SameLayout.mono {Same Same' : UInt32 -> UInt32 -> Prop} :
    forall {a b : Datatype},
    SameLayout Same a b ->
      (forall m n, m.toNat ∈ a.fixedArities -> n.toNat ∈ b.fixedArities ->
        Same m n -> Same' m n) ->
        SameLayout Same' a b
  | _, _, .single ha hb, _ => .single ha hb
  | ⟨_, _, _, _, _⟩, ⟨_, _, _, _, _⟩, .fixedList ha hb harity, himp => by
      cases ha
      cases hb
      exact .fixedList rfl rfl
        (himp _ _ (by simp [fixedArities]) (by simp [fixedArities]) harity)
  | _, _, .list ha hb, _ => .list ha hb
  | ⟨_, _, _, _, _⟩, ⟨_, _, _, _, _⟩, .struct ha hb hfields, himp => by
      cases ha
      cases hb
      exact .struct rfl rfl (hfields.mono fun m n hm hn =>
        himp m n (by rw [fixedArities]; exact hm)
          (by rw [fixedArities]; exact hn))

theorem SameLayouts.mono {Same Same' : UInt32 -> UInt32 -> Prop} :
    forall {fields others : List (Field Datatype)},
      SameLayouts Same fields others ->
      (forall m n, m.toNat ∈ fieldArities fields ->
        n.toNat ∈ fieldArities others ->
        Same m n -> Same' m n) -> SameLayouts Same' fields others
  | _, _, .nil, _ => .nil
  | _, _, .cons hnullable hfirst hrest, himp =>
      .cons hnullable
        (hfirst.mono fun m n hm hn => himp m n (List.mem_append_left _ hm)
          (List.mem_append_left _ hn))
        (hrest.mono fun m n hm hn => himp m n (List.mem_append_right _ hm)
          (List.mem_append_right _ hn))

end

theorem sameLayout_eq_of_sameRowSize {a b : Datatype} (ha : a.AritiesFit)
    (hb : b.AritiesFit) (h : SameLayout SameRowSize a b) : SameLayout Eq a b :=
  h.mono fun _ _ hm hn => eq_of_sameRowSize (ha _ hm) (hb _ hn)

theorem sameRowSize_of_sameLayout_eq {a b : Datatype} (h : SameLayout Eq a b) :
    SameLayout SameRowSize a b :=
  h.mono fun m _ _ _ hmn => hmn ▸ (rfl : SameRowSize m m)

/--
Two datatypes have one column type exactly when they have the same layout with
rows of the same size.  As long as all arities are signed 32-bit words, the size
of a row is its arity, so the type tells the whole layout.
-/
theorem columnType_tells_layout (a b : Datatype) :
    (a.columnType = b.columnType ↔ SameLayout SameRowSize a b) ∧
    (a.AritiesFit -> b.AritiesFit ->
      (a.columnType = b.columnType ↔ SameLayout Eq a b)) := by
  refine ⟨columnType_eq_iff, ?_⟩
  intro ha hb
  rw [columnType_eq_iff]
  constructor
  · exact sameLayout_eq_of_sameRowSize ha hb
  · exact sameRowSize_of_sameLayout_eq

namespace Sample

def bytePose : Datatype where
  name := "sample.BytePose"
  nonEmpty := true
  shape := .struct [
    ⟨"axis", { fixedList "sample.Axis" .f32 2 with broadcastScalar := true }⟩,
    ⟨"tags", { list "sample.Labels" .u32 with nullable := true }⟩,
    ⟨"mode", primitive "sample.Byte" .u8⟩,
    ⟨"panel", { struct "sample.Board" [
      ⟨"lit", primitive "sample.Flag" .bool⟩,
      ⟨"switches", list "sample.Flags" .bool⟩] with nullable := true }⟩]

def widest : Datatype := fixedList "sample.Widest" .f32 2147483647

def wider : Datatype := fixedList "sample.Wider" .f32 2147483648

end Sample

open Sample in
theorem columnType_tells_layout_pose :
    pose.AritiesFit ∧ bytePose.AritiesFit ∧
      pose.columnType = bytePose.columnType ∧
      SameLayout Eq pose bytePose := by
  have hpose : pose.AritiesFit := by decide
  have hbytes : bytePose.AritiesFit := by decide
  have htype : pose.columnType = bytePose.columnType := rfl
  exact ⟨hpose, hbytes, htype,
    ((columnType_tells_layout _ _).2 hpose hbytes).mp htype⟩

open Sample in
/--
Rows of one item more than fit have the type of the largest rows, and are read
as such.
-/
theorem columnType_merges_wide_rows :
    ¬ (forall a b : Datatype, a.validate = .ok () -> b.validate = .ok () ->
      (a.columnType = b.columnType ↔ SameLayout Eq a b)) ∧
    wider.decode (.empty widest.columnType) = .ok [] := by
  constructor
  · intro h
    have hwidest : widest.validate = .ok () :=
      validate_fixedList (by decide) (by decide)
    have hwider : wider.validate = .ok () :=
      validate_fixedList (by decide) (by decide)
    have htype : widest.columnType = wider.columnType := rfl
    cases (h widest wider hwidest hwider).mp htype with
    | single ha hb => cases ha
    | fixedList ha hb harity =>
        cases ha
        cases hb
        revert harity
        decide
    | list ha hb => cases ha
    | struct ha hb hfields => cases ha
  · rfl

end Datatype
end Columnar
