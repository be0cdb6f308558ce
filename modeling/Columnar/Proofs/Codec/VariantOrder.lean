import Columnar.Proofs.Codec.RoundTrip
import Columnar.Proofs.Normalize.Named
import Columnar.Proofs.Normalize.Variants

/-!
# The order of variants

A datatype may declare the variants of its enumerations, at any depth, in
another order.  Only the fillers of absent structs tell the two apart, as they
hold the first variant that is declared, and no reader looks there.
-/

namespace Columnar
namespace Datatype

mutual

/--
The same but for the order in which enumerations, at any depth, declare their
variants.
-/
inductive VariantsPermuted : Datatype -> Datatype -> Prop
  | same {d : Datatype} : VariantsPermuted d d
  | enumeration {name : String} {variants others : List Variant}
      {nullable broadcast nonEmpty : Bool} (hperm : variants.Perm others) :
      VariantsPermuted
        ⟨name, .enumeration variants, nullable, broadcast, nonEmpty⟩
        ⟨name, .enumeration others, nullable, broadcast, nonEmpty⟩
  | struct {name : String} {fields others : List (Field Datatype)}
      {nullable broadcast nonEmpty : Bool}
      (hfields : VariantsPermutedEach fields others) :
      VariantsPermuted ⟨name, .struct fields, nullable, broadcast, nonEmpty⟩
        ⟨name, .struct others, nullable, broadcast, nonEmpty⟩

inductive VariantsPermutedEach :
    List (Field Datatype) -> List (Field Datatype) -> Prop
  | nil : VariantsPermutedEach [] []
  | cons {name : String} {a b : Datatype} {rest others : List (Field Datatype)}
      (hfirst : VariantsPermuted a b)
      (hrest : VariantsPermutedEach rest others) :
      VariantsPermutedEach (⟨name, a⟩ :: rest) (⟨name, b⟩ :: others)

end

variable {a b : Datatype} {fields others : List (Field Datatype)}

theorem VariantsPermuted.name_eq (h : VariantsPermuted a b) :
    a.name = b.name := by
  cases h <;> rfl

theorem VariantsPermuted.nullable_eq (h : VariantsPermuted a b) :
    a.nullable = b.nullable := by
  cases h <;> rfl

theorem VariantsPermutedEach.names_eq :
    forall {fields others : List (Field Datatype)},
    VariantsPermutedEach fields others ->
    fields.map Field.name = others.map Field.name
  | _, _, .nil => rfl
  | _, _, .cons _ hrest => by rw [List.map_cons, List.map_cons, hrest.names_eq]

theorem VariantsPermutedEach.length_eq
    (h : VariantsPermutedEach fields others) :
    fields.length = others.length := by
  rw [← List.length_map Field.name, h.names_eq, List.length_map]

/-! ## Columns and limits -/

mutual

theorem VariantsPermuted.columnType_eq :
    forall {a b : Datatype}, VariantsPermuted a b ->
    a.columnType = b.columnType
  | _, _, .same => rfl
  | _, _, .enumeration _ => rfl
  | _, _, .struct hfields => by
      rw [columnType, columnType, hfields.fieldTypes_eq]

theorem VariantsPermutedEach.fieldTypes_eq :
    forall {fields others : List (Field Datatype)},
    VariantsPermutedEach fields others -> fieldTypes fields = fieldTypes others
  | _, _, .nil => rfl
  | _, _, .cons hfirst hrest => by
      rw [fieldTypes, fieldTypes, hfirst.nullable_eq, hfirst.columnType_eq,
        hrest.fieldTypes_eq]

end

mutual

theorem VariantsPermuted.fixedArities_eq :
    forall {a b : Datatype}, VariantsPermuted a b ->
    a.fixedArities = b.fixedArities
  | _, _, .same => rfl
  | _, _, .enumeration _ => rfl
  | _, _, .struct hfields => by
      rw [fixedArities, fixedArities, hfields.fieldArities_eq]

theorem VariantsPermutedEach.fieldArities_eq :
    forall {fields others : List (Field Datatype)},
    VariantsPermutedEach fields others ->
    fieldArities fields = fieldArities others
  | _, _, .nil => rfl
  | _, _, .cons hfirst hrest => by
      rw [fieldArities, fieldArities, hfirst.fixedArities_eq,
        hrest.fieldArities_eq]

end

mutual

theorem VariantsPermuted.listTotals_eq :
    forall {a b : Datatype}, VariantsPermuted a b ->
    forall rows : List Instance, a.listTotals rows = b.listTotals rows
  | _, _, .same, _ => rfl
  | _, _, .enumeration _, _ => rfl
  | _, _, .struct hfields, rows => by
      rw [listTotals, listTotals, hfields.fieldTotals_eq]

theorem VariantsPermutedEach.fieldTotals_eq :
    forall {fields others : List (Field Datatype)},
    VariantsPermutedEach fields others ->
      forall structs : List (List Instance), fieldTotals fields structs =
        fieldTotals others structs
  | _, _, .nil, _ => rfl
  | _, _, .cons hfirst hrest, structs => by
      rw [fieldTotals, fieldTotals, hfirst.listTotals_eq, hrest.fieldTotals_eq]

end

/-! ## Validity and conformance -/

mutual

theorem VariantsPermuted.validate_eq_ok :
    forall {a b : Datatype}, VariantsPermuted a b ->
    a.validate = .ok () -> b.validate = .ok ()
  | _, _, .same, h => h
  | _, _, .enumeration hperm, h => by
      rw [validate_enumeration_iff] at h ⊢
      refine ⟨h.1, ?_, ?_⟩
      · intro hnil
        rw [hnil, List.perm_nil] at hperm
        exact h.2.1 hperm
      · exact (hperm.pairwise_iff Variant.Apart.symm).mp h.2.2
  | _, _, .struct hfields, h => by
      rw [validate_struct_iff] at h ⊢
      refine ⟨h.1, ?_, hfields.validate_eq_ok h.2.2.1,
        hfields.names_eq ▸ h.2.2.2⟩
      intro hnil
      rw [hnil] at hfields
      cases hfields
      exact h.2.1 rfl

theorem VariantsPermutedEach.validate_eq_ok :
    forall {fields others : List (Field Datatype)},
    VariantsPermutedEach fields others ->
      (forall field, field ∈ fields ->
        field.name.isEmpty = false ∧ field.datatype.validate = .ok ()) ->
      forall field, field ∈ others ->
        field.name.isEmpty = false ∧ field.datatype.validate = .ok ()
  | _, _, .nil, h => h
  | _, _, .cons hfirst hrest, h => by
      rw [List.forall_mem_cons] at h ⊢
      exact ⟨⟨h.1.1, hfirst.validate_eq_ok h.1.2⟩, hrest.validate_eq_ok h.2⟩

end

mutual

theorem VariantsPermuted.conforms_iff :
    forall {a b : Datatype}, VariantsPermuted a b ->
    forall i : Instance, a.Conforms i ↔ b.Conforms i
  | _, _, .same, _ => Iff.rfl
  | _, _, .enumeration hperm, i => by
      cases i with
      | null => exact Iff.rfl
      | elements data => simp only [Conforms, hperm.mem_iff]
      | struct values => exact Iff.rfl
  | _, _, .struct hfields, i => by
      cases i with
      | null => exact Iff.rfl
      | elements data => exact Iff.rfl
      | struct values =>
          rw [conforms_struct_iff, conforms_struct_iff, hfields.conformEach_iff]

theorem VariantsPermutedEach.conformEach_iff :
    forall {fields others : List (Field Datatype)},
    VariantsPermutedEach fields others ->
      forall values : List Instance, ConformEach fields values ↔
        ConformEach others values
  | _, _, .nil, _ => Iff.rfl
  | _, _, .cons hfirst hrest, values => by
      cases values with
      | nil => exact Iff.rfl
      | cons value values =>
          rw [ConformEach, ConformEach, hfirst.conforms_iff,
            hrest.conformEach_iff]

end

/-! ## Encoding -/

theorem VariantsPermuted.encodable_iff (h : VariantsPermuted a b)
    (rows : List Instance) :
    a.Encodable rows ↔ b.Encodable rows := by
  rw [Datatype.encodable_iff, Datatype.encodable_iff, AritiesFit, AritiesFit,
    TotalsFit, TotalsFit, h.fixedArities_eq, h.listTotals_eq]
  simp only [h.conforms_iff]

/-! ## Decoding -/

theorem readVariant_perm {variants others : List Variant}
    (hperm : variants.Perm others) (name : String) (byte : UInt8) :
    readVariant name variants byte = readVariant name others byte := by
  rw [readVariant, readVariant, hperm.any_eq]

mutual

theorem VariantsPermuted.readRow_eq :
    forall {a b : Datatype}, VariantsPermuted a b ->
    forall (column : Column) (row : Nat), a.readRow column row =
      b.readRow column row
  | _, _, .same, _, _ => rfl
  | _, _, .enumeration hperm, column, row => by
      simp only [readRow, readVariant_perm hperm]
  | _, _, .struct hfields, column, row => by
      simp only [readRow, columnType, hfields.fieldTypes_eq,
        hfields.readFields_eq]

theorem VariantsPermutedEach.readFields_eq :
    forall {fields others : List (Field Datatype)},
    VariantsPermutedEach fields others ->
    forall (children : List (Label × Column)) (row : Nat),
      readFields fields children row = readFields others children row
  | _, _, .nil, _, _ => rfl
  | _, _, .cons hfirst hrest, children, row => by
      cases children with
      | nil => rfl
      | cons child children =>
          rw [readFields, readFields, hfirst.readRow_eq, hrest.readFields_eq]

end

theorem VariantsPermuted.decode_eq (h : VariantsPermuted a b)
    (column : Column) :
    a.decode column = b.decode column := by
  have hrows : forall row count, a.readRows column row count =
      b.readRows column row count := by
    intro row count
    induction count generalizing row with
    | zero => rfl
    | succ count ih => rw [readRows, readRows, h.readRow_eq, ih]
  rw [decode, decode, h.columnType_eq, h.name_eq, hrows]

/-! ## Normalization -/

theorem readNamed_congr {config : Config} {owner : String} {name : String}
    (hnullable : a.nullable = b.nullable)
    (h : forall value, a.normalize config value = b.normalize config value)
    (supplied : Option NativeValue) :
    readNamed config owner ⟨name, a⟩ supplied = readNamed config owner
      ⟨name, b⟩ supplied := by
  cases supplied with
  | some value => rw [readNamed, readNamed, h]
  | none => rw [readNamed, readNamed, hnullable]

mutual

theorem VariantsPermuted.normalize_eq (config : Config) :
    forall {a b : Datatype},
    VariantsPermuted a b -> a.validate = .ok () -> forall value : NativeValue,
      a.normalize config value = b.normalize config value
  | _, _, .same, _, _ => rfl
  | _, _, .enumeration hperm, hvalid, value => by
      have hapart := (validate_enumeration_iff.mp hvalid).2.2
      cases hvalue : value.isNull with
      | true => rw [eq_null_of_isNull hvalue, normalize_null, normalize_null]
      | false =>
          -- The first match is taken; it is the only one because the variants
          -- are apart.
          rw [normalize_enumeration hvalue, normalize_enumeration hvalue,
            NativeValue.toVariant_perm hapart hperm]
  | _, _, .struct hfields, hvalid, value => by
      have hnormalize :=
        hfields.normalize_eq config (validate_field_of_validate hvalid)
      cases value with
      | record pairs =>
          rw [normalize_record, normalize_record,
            undeclared?_congr hfields.names_eq, hnormalize.1]
      | sequence items =>
          rw [normalize, normalize, hfields.length_eq, hnormalize.2]
      | _ => rfl

theorem VariantsPermutedEach.normalize_eq (config : Config) :
    forall {fields others : List (Field Datatype)},
      VariantsPermutedEach fields others ->
      (forall field, field ∈ fields -> field.datatype.validate = .ok ()) ->
        (forall owner pairs, normalizeNamed config owner pairs fields =
          normalizeNamed config owner pairs others) ∧
        forall items, normalizePositional config fields items =
          normalizePositional config others items
  | _, _, .nil, _ => ⟨fun _ _ => rfl, fun _ => rfl⟩
  | _, _, .cons hfirst hrest, hvalid => by
      rw [List.forall_mem_cons] at hvalid
      have hvalue := hfirst.normalize_eq config hvalid.1
      have hvalues := hrest.normalize_eq config hvalid.2
      constructor
      · intro owner pairs
        rw [normalizeNamed_cons, normalizeNamed_cons,
          readNamed_congr hfirst.nullable_eq hvalue, hvalues.1]
      · intro items
        cases items with
        | nil => rfl
        | cons item items =>
            rw [normalizePositional, normalizePositional, hvalue, hvalues.2]

end

/-! ## Either order, name or number -/

/--
An enumeration takes exactly the scalars that select one of its variants, by
name or by number, and stores the byte of that one; how the scalar is wrapped
has no say.  And no datatype is told from one that declares its variants in
another order, whether values are normalized, columns decoded or instances
encoded; what one encodes the other reads back.
-/
theorem variants_in_any_order {d : Datatype} (hd : d.validate = .ok ()) :
    (forall variants, d.shape = .enumeration variants -> forall config : Config,
      (forall s i, d.normalize config (.scalar s) = .ok i ↔
        exists v, Variant.Sole (fun v => v.Selects s) variants v ∧
          i = .one .u8 v.value) ∧
      (forall v s, v ∈ variants -> v.Selects s ->
        d.normalize config (.scalar s) = .ok (.one .u8 v.value)) ∧
      forall s value, NativeValue.Wraps s value ->
        d.normalize config value = d.normalize config (.scalar s)) ∧
    forall other, VariantsPermuted d other ->
      other.validate = .ok () ∧
      (forall config value, d.normalize config value =
        other.normalize config value) ∧
      (forall column, d.decode column = other.decode column) ∧
      (forall rows, (exists column, d.encode rows = .ok column) ↔
        exists column, other.encode rows = .ok column) ∧
      forall rows column, other.encode rows = .ok column ->
        d.decode column = .ok rows := by
  constructor
  · intro variants hshape config
    rcases d with ⟨name, shape, nullable, broadcast, nonEmpty⟩
    cases hshape
    have hapart := (validate_enumeration_iff.mp hd).2.2
    refine ⟨fun s i => normalize_enumeration_scalar_iff hapart, ?_, ?_⟩
    · intro v s hv hs
      refine (normalize_enumeration_scalar_iff hapart).mpr ⟨v, ?_, rfl⟩
      exact Variant.sole_of_mem (fun _ _ => Variant.Selects.not_apart)
        hapart hv hs
    · intro s value hvalue
      rw [normalize_enumeration_wraps hvalue, normalize_enumeration_wraps .bare]
  · intro other hother
    have hvalid := hother.validate_eq_ok hd
    refine ⟨hvalid, fun config => hother.normalize_eq config hd,
      hother.decode_eq, ?_, ?_⟩
    · -- Whether instances can be encoded is a matter of conformance and sizes alone.
      intro rows
      constructor
      · rintro ⟨column, hcolumn⟩
        have hrows :=
          (hother.encodable_iff rows).mp (encodable_of_encode hd hcolumn)
        exact ⟨_, encode_of_encodable hvalid hrows⟩
      · rintro ⟨column, hcolumn⟩
        have hrows :=
          (hother.encodable_iff rows).mpr (encodable_of_encode hvalid hcolumn)
        exact ⟨_, encode_of_encodable hd hrows⟩
    · intro rows column hcolumn
      rw [hother.decode_eq]
      exact decode_of_encode hvalid hcolumn

namespace Sample

def mode : Datatype := enumeration "sample.Mode" [⟨"Fast", 1⟩, ⟨"Slow", 2⟩]

def slowPose : Datatype where
  name := "sample.Pose"
  nullable := true
  shape := .struct [
    ⟨"axis", fixedList "sample.Vec2D" .f32 2⟩,
    ⟨"tags", { list "sample.Tags" .u32 with nullable := true }⟩,
    ⟨"mode", enumeration "sample.Mode" [⟨"Slow", 2⟩, ⟨"Fast", 1⟩]⟩,
    ⟨"panel", { struct "sample.Panel" [
      ⟨"lit", primitive "sample.Lit" .bool⟩,
      ⟨"switches", list "sample.Switches" .bool⟩] with nullable := true }⟩]

def slowCube : NdArray := ⟨⟨.u8, ([2] : List UInt8)⟩, [1, 1, 1], rfl⟩

end Sample

open Sample in
theorem variants_in_any_order_pose :
    mode.normalize {} (.scalar (.text "SLOW")) = .ok (.one .u8 (2 : UInt8)) ∧
      mode.normalize {} (.sequence [.array slowCube]) =
        mode.normalize {} (.scalar (.f64 ⟨0x4000000000000000⟩)) ∧
      slowPose.filler ≠ pose.filler ∧
      exists column, slowPose.encode poses = .ok column ∧
      pose.decode column = .ok poses := by
  -- Where a pose is absent its filler has the other mode, and is not read.
  have hmode : mode.validate = .ok () := rfl
  have hpose : pose.validate = .ok () := rfl
  rcases variants_in_any_order hmode with ⟨hmodes, _⟩
  rcases hmodes _ rfl {} with ⟨_, hbyte, hwrapped⟩
  have hslow : (⟨"Slow", 2⟩ : Variant) ∈ [⟨"Fast", 1⟩, ⟨"Slow", 2⟩] := by decide
  have hfloat : (Scalar.f64 ⟨0x4000000000000000⟩).Denotes 2 :=
    Scalar.denotes_f64_iff.mpr (by decide)
  have hname : Text.sameUpToCase "Slow" "SLOW" = true := by decide
  refine ⟨hbyte _ (.text "SLOW") hslow hname, ?_, ?_, ?_⟩
  · rw [hwrapped (.u64 2) _ (.sequence (.array rfl)),
      hbyte _ (.u64 2) hslow rfl,
      hbyte _ (.f64 ⟨0x4000000000000000⟩) hslow hfloat]
  · intro hfillers
    have hbytes := congrArg
      (fun i => (i.fields?.bind (·[2]?)).bind (Instance.single? .u8)) hfillers
    exact absurd hbytes (by decide)
  · rcases variants_in_any_order hpose with ⟨_, hany⟩
    have hpermuted : VariantsPermuted pose slowPose :=
      .struct (.cons .same
        (.cons .same (.cons (.enumeration (.swap _ _ _)) (.cons .same .nil))))
    rcases hany slowPose hpermuted with ⟨_, _, _, hencode, hread⟩
    rcases (hencode poses).mp ⟨_, rfl⟩ with ⟨column, hcolumn⟩
    exact ⟨column, hcolumn, hread poses column hcolumn⟩

end Datatype
end Columnar
