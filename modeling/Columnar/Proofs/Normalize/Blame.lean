import Columnar.Proofs.Normalize.Instances

/-!
# What normalization blames

Whatever goes wrong in normalization lies in the native value: in its shape, its
scalars or its fields.  Columns, lengths of batches and the readers of typed
values have no part in it.
-/

namespace Columnar

namespace ConversionError

/--
The fault lies in a native value, as opposed to a column, a batch or a typed
reader.
-/
def inValue : ConversionError -> Bool
  | .datatypeMismatch _ _ | .batchTooLarge _ _ | .shapeOverflow _
    | .offsetOverflow
  | .decode _ _ => false
  | .atIndex _ source => source.inValue
  | .inField _ source => source.inValue
  | _ => true

theorem inValue_root (e : ConversionError) : e.root.inValue = e.inValue := by
  induction e with
  | atIndex index source ih => exact ih
  | inField field source ih => exact ih
  | _ => rfl

end ConversionError

def BlamesValue (outcome : Except ConversionError α) : Prop :=
  match outcome with
  | .ok _ => True
  | .error e => e.inValue = true

namespace BlamesValue

theorem bind {x : Except ConversionError α} {f : α -> Except ConversionError β}
    (hx : BlamesValue x) (hf : forall a, BlamesValue (f a)) :
    BlamesValue (x >>= f) := by
  cases x with
  | ok a => exact hf a
  | error e => exact hx

theorem map {x : Except ConversionError α} (f : α -> β) (hx : BlamesValue x) :
    BlamesValue (x.map f) := by
  cases x with
  | ok a => trivial
  | error e => exact hx

theorem inField {x : Except ConversionError α} (field : String)
    (hx : BlamesValue x) :
    BlamesValue (Columnar.inField field x) := by
  cases x with
  | ok a => trivial
  | error e => exact hx

end BlamesValue

/-! ## Scalars -/

namespace Scalar

theorem blamesValue_floatToNat (kind : ElementKind) (x : Binary64) :
    BlamesValue (floatToNat kind x) := by
  unfold floatToNat
  split
  · split <;> trivial
  · trivial

theorem blamesValue_toNat (kind : ElementKind) (s : Scalar) :
    BlamesValue (s.toNat kind) := by
  cases s with
  | f32 value => exact blamesValue_floatToNat kind _
  | f64 value => exact blamesValue_floatToNat kind _
  | i64 value =>
      simp only [toNat]
      split <;> trivial
  | u64 value => trivial
  | bool value => trivial
  | text value => trivial

theorem blamesValue_toNatBelow (kind : ElementKind) (size : Nat) (s : Scalar) :
    BlamesValue (s.toNatBelow kind size) := by
  unfold toNatBelow
  apply (blamesValue_toNat kind s).bind
  intro n
  split <;> trivial

theorem blamesValue_intToBool (z : Int) : BlamesValue (intToBool z) := by
  unfold intToBool
  split
  · trivial
  · split <;> trivial

theorem blamesValue_toBool (s : Scalar) : BlamesValue s.toBool := by
  cases s with
  | i64 value => exact blamesValue_intToBool _
  | u64 value => exact blamesValue_intToBool _
  | _ => trivial

theorem blamesValue_toF32 (config : Config) (s : Scalar) :
    BlamesValue (s.toF32 config) := by
  unfold toF32
  split
  · trivial
  · split <;> trivial

theorem blamesValue_coerce (config : Config) (kind : ElementKind) (s : Scalar) :
    BlamesValue (s.coerce config kind) := by
  cases kind with
  | f32 => exact blamesValue_toF32 config s
  | u8 => exact (blamesValue_toNatBelow .u8 _ s).map _
  | u32 => exact (blamesValue_toNatBelow .u32 _ s).map _
  | bool => exact blamesValue_toBool s

theorem blamesValue_coerceAll (config : Config) (kind : ElementKind)
    (scalars : List Scalar) :
    BlamesValue (coerceAll config kind scalars) := by
  induction scalars with
  | nil => trivial
  | cons s rest ih =>
      apply (blamesValue_coerce config kind s).bind
      intro value
      exact ih.bind fun _ => trivial

end Scalar

/-! ## Nested values -/

namespace NativeValue

theorem inValue_disagreement (first other : List Nat) :
    (disagreement first other).inValue = true := by
  unfold disagreement
  split
  · rfl
  · split <;> rfl

mutual

theorem blamesValue_dimensions (kind : ElementKind) :
    forall value : NativeValue, BlamesValue (dimensions kind value)
  | .scalar _ => by
      rw [dimensions]
      trivial
  | .array _ => by
      rw [dimensions]
      trivial
  | .null => by
      rw [dimensions]
      rfl
  | .record _ => by
      rw [dimensions]
      rfl
  | .sequence items => by
      rw [dimensions]
      exact (blamesValue_commonDimensions kind none items).map _

theorem blamesValue_commonDimensions (kind : ElementKind)
    (first : Option (List Nat)) :
    forall items : List NativeValue,
      BlamesValue (commonDimensions kind first items)
  | [] => by
      rw [commonDimensions]
      trivial
  | item :: rest => by
      have hitem := blamesValue_dimensions kind item
      rw [commonDimensions.eq_def]
      dsimp only
      split
      · next e hdimensions =>
          rw [hdimensions] at hitem
          exact hitem
      · exact blamesValue_commonDimensions kind _ rest
      · split
        · exact blamesValue_commonDimensions kind _ rest
        · exact inValue_disagreement _ _

end

theorem blamesValue_toElements (config : Config) (kind : ElementKind)
    (arity : Arity) (broadcast : Bool) (value : NativeValue) :
    BlamesValue (value.toElements config kind arity broadcast) := by
  unfold toElements
  apply (blamesValue_dimensions kind value).bind
  intro _
  dsimp only
  split
  · exact (Scalar.blamesValue_coerceAll config kind _).bind fun _ => trivial
  · rfl

theorem blamesValue_loneScalar (value : NativeValue) :
    BlamesValue value.loneScalar := by
  unfold loneScalar
  apply (blamesValue_dimensions .u8 value).bind
  intro _
  split
  · trivial
  · rfl

theorem blamesValue_variantOf (datatype : String) (variants : List Variant)
    (s : Scalar) :
    BlamesValue (variantOf datatype variants s) := by
  rw [variantOf.eq_def]
  split
  · split <;> trivial
  · apply (Scalar.blamesValue_toNat .u8 _).bind
    intro n
    split <;> trivial

theorem blamesValue_toVariant (datatype : String) (variants : List Variant)
    (value : NativeValue) :
    BlamesValue (value.toVariant datatype variants) := by
  unfold toVariant
  apply (blamesValue_loneScalar value).bind
  intro s
  exact (blamesValue_variantOf datatype variants s).bind fun _ => trivial

end NativeValue

/-! ## Datatypes -/

namespace Datatype

mutual

theorem blamesValue_normalize (config : Config) :
    forall (d : Datatype) (value : NativeValue),
      BlamesValue (d.normalize config value)
  | ⟨name, shape, nullable, broadcast, nonEmpty⟩, value => by
      cases hvalue : value.isNull with
      | true =>
          rw [eq_null_of_isNull hvalue, normalize_null]
          split <;> trivial
      | false =>
          match shape with
          | .primitive kind =>
              rw [normalize_primitive hvalue]
              exact value.blamesValue_toElements config kind _ false
          | .fixedList kind arity =>
              rw [normalize_fixedList hvalue]
              exact value.blamesValue_toElements config kind _ broadcast
          | .list kind =>
              rw [normalize_list hvalue]
              exact value.blamesValue_toElements config kind _ false
          | .enumeration variants =>
              rw [normalize_enumeration hvalue]
              exact value.blamesValue_toVariant name variants
          | .struct fields =>
              match value with
              | .record pairs =>
                  rw [normalize]
                  split
                  · trivial
                  · exact (blamesValue_normalizeNamed config name
                      pairs fields).map _
              | .sequence items =>
                  rw [normalize]
                  split
                  · exact (blamesValue_normalizePositional config
                      fields items).map _
                  · rfl
              | .null | .scalar _ | .array _ => trivial

theorem blamesValue_normalizeNamed (config : Config) (owner : String)
    (pairs : List (String × NativeValue)) :
    forall fields : List (Field Datatype),
      BlamesValue (normalizeNamed config owner pairs fields)
  | [] => by
      rw [normalizeNamed]
      trivial
  | ⟨name, datatype⟩ :: rest => by
      rw [normalizeNamed_cons]
      refine BlamesValue.bind ?_ fun value =>
        (blamesValue_normalizeNamed config owner pairs rest).bind fun _ =>
          trivial
      cases NativeValue.named? pairs name with
      | some value =>
          exact (blamesValue_normalize config datatype value).inField name
      | none =>
          rw [readNamed]
          split
          · trivial
          · rfl

theorem blamesValue_normalizePositional (config : Config) :
    forall (fields : List (Field Datatype)) (items : List NativeValue),
      BlamesValue (normalizePositional config fields items)
  | [], _ => trivial
  | _ :: _, [] => trivial
  | ⟨name, datatype⟩ :: fields, item :: items => by
      rw [normalizePositional]
      apply ((blamesValue_normalize config datatype item).inField name).bind
      intro value
      exact (blamesValue_normalizePositional config fields items).bind fun _ =>
        trivial

end

theorem root_ne_decode_of_normalize {config : Config} {d : Datatype}
    {value : NativeValue} {e : ConversionError}
    (h : d.normalize config value = .error e) (datatype : String)
    (source : DecodeError) : e.root ≠ .decode datatype source := by
  have hblames := blamesValue_normalize config d value
  rw [h] at hblames
  intro hroot
  have hvalue : e.root.inValue = true := e.inValue_root.trans hblames
  rw [hroot] at hvalue
  cases hvalue

end Datatype
end Columnar
