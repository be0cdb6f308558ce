import Columnar.Proofs.Array.Nested
import Columnar.Proofs.Normalize.Elements

/-!
# Arrays are normalized like nested sequences

Normalization looks at the dimensions of a value and at its scalars.  An array
and its nested form agree in both, so they become the same elements and the same
variants, or are refused for the same reason.
-/

namespace Columnar

namespace NativeValue

theorem spread_sequence (arity : Arity) (broadcast : Bool)
    (items : List NativeValue) :
    (sequence items).spread arity broadcast = (sequence items).scalars := by
  cases arity <;> rfl

theorem spread_array (arity : Arity) (broadcast : Bool) (a : NdArray) :
    (array a).spread arity broadcast = a.scalars := by
  cases arity <;> rfl

theorem loneScalar_congr {value other : NativeValue}
    (hdimensions : value.dimensions .u8 = other.dimensions .u8)
    (hscalars : value.scalars = other.scalars) :
    value.loneScalar = other.loneScalar := by
  unfold loneScalar
  rw [hdimensions, hscalars]

end NativeValue

namespace NdArray

variable {a : NdArray}

theorem dimensions_array (a : NdArray) (kind : ElementKind) :
    (NativeValue.array a).dimensions kind = .ok a.shape := by
  rw [NativeValue.dimensions]

theorem spread_nested {arity : Arity} {broadcast : Bool}
    (h : a.shape ≠ [] ∨ broadcast = false) :
    a.nested.spread arity broadcast = a.scalars := by
  cases hshape : a.shape with
  | nil =>
      rcases h with hne | rfl
      · exact absurd hshape hne
      · rw [NativeValue.spread_false, scalars_nested]
  | cons outer inner =>
      rw [← scalars_nested, nested_of_shape_cons hshape,
        NativeValue.spread_sequence]

theorem toElements_nested (ha : a.Solid) {config : Config} {kind : ElementKind}
    {arity : Arity} {broadcast : Bool} (h : a.shape ≠ [] ∨ broadcast = false) :
    a.nested.toElements config kind arity broadcast =
      (NativeValue.array a).toElements config kind arity broadcast := by
  unfold NativeValue.toElements
  rw [dimensions_nested ha, dimensions_array, spread_nested h,
    NativeValue.spread_array]

theorem toVariant_nested (ha : a.Solid) (datatype : String)
    (variants : List Variant) :
    a.nested.toVariant datatype variants =
      (NativeValue.array a).toVariant datatype variants := by
  have hscalar : a.nested.loneScalar = (NativeValue.array a).loneScalar := by
    apply NativeValue.loneScalar_congr
    · rw [dimensions_nested ha, dimensions_array]
    · rw [scalars_nested, NativeValue.scalars]
  unfold NativeValue.toVariant
  rw [hscalar]

end NdArray

namespace Datatype

/-- Instances are made of elements, and not of the instances of fields. -/
def IsElementwise (d : Datatype) : Prop :=
  forall fields, d.shape ≠ .struct fields

/--
An array of at least one dimension is normalized like its nested form; for an
instance of a single element so is an array without dimensions.
-/
theorem normalize_nested {d : Datatype} (hd : d.IsElementwise) {a : NdArray}
    (ha : a.Solid) (h : a.shape ≠ [] ∨ d.depth = 0) (config : Config) :
    d.normalize config a.nested = d.normalize config (.array a) := by
  have hnull := a.isNull_nested
  rcases d with ⟨name, shape, nullable, broadcast, nonEmpty⟩
  cases shape with
  | primitive kind =>
      rw [normalize_primitive hnull, normalize_primitive rfl]
      exact NdArray.toElements_nested ha (Or.inr rfl)
  | fixedList kind arity =>
      have hshape : a.shape ≠ [] := h.resolve_right Nat.one_ne_zero
      rw [normalize_fixedList hnull, normalize_fixedList rfl]
      exact NdArray.toElements_nested ha (Or.inl hshape)
  | list kind =>
      rw [normalize_list hnull, normalize_list rfl]
      exact NdArray.toElements_nested ha (Or.inr rfl)
  | enumeration variants =>
      rw [normalize_enumeration hnull, normalize_enumeration rfl]
      exact NdArray.toVariant_nested ha name variants
  | struct fields => exact absurd rfl (hd fields)

end Datatype
end Columnar
