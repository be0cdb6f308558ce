import Columnar.Proofs.Datatype.Variants
import Columnar.Proofs.Normalize.Integers

/-!
# Variants by name and by number

A scalar selects a variant by its name, up to case, or by denoting its byte.
Variants of a valid enumeration stand apart, so a scalar selects one of them or
none, and what is stored is the byte of that one.  How deep the scalar lies in
sequences of one item, or in dimensions of extent one, has no say.
-/

namespace Columnar

namespace Variant

/--
The scalar is the name of the variant, up to the case of ASCII letters, or
denotes its byte.
-/
def Selects (v : Variant) : Scalar -> Prop
  | .text name => Text.sameUpToCase v.name name = true
  | s => s.Denotes v.value.toNat

theorem selects_iff_denotes {v : Variant} {s : Scalar} (hs : s.kind ≠ .text) :
    v.Selects s ↔ s.Denotes v.value.toNat := by
  cases s with
  | text name => exact absurd rfl hs
  | _ => rfl

theorem sameUpToCase_of_names {a b : Variant} {name : String}
    (ha : Text.sameUpToCase a.name name = true)
    (hb : Text.sameUpToCase b.name name = true) :
    Text.sameUpToCase a.name b.name = true := by
  rw [Text.sameUpToCase, beq_iff_eq] at ha hb ⊢
  rw [ha, hb]

theorem Selects.not_apart {s : Scalar} {a b : Variant} (ha : a.Selects s)
    (hb : b.Selects s) :
    ¬ a.Apart b := by
  intro hapart
  by_cases hs : s.kind = .text
  · cases s with
    | text name =>
        have hname := sameUpToCase_of_names ha hb
        rw [hapart.2] at hname
        cases hname
    | _ => cases hs
  · rw [selects_iff_denotes hs] at ha hb
    apply hapart.1
    exact UInt8.toNat_inj.mp (by exact_mod_cast ha.unique hb)

end Variant

namespace NativeValue

section

variable {datatype : String} {variants others : List Variant} {s : Scalar}

theorem variantOf_of_number (hs : s.kind ≠ .text) :
    variantOf datatype variants s = s.toNat .u8 >>= fun n =>
      match variants.find? fun v => v.value.toNat == n with
      | some v => .ok v.value
      | none => .error (.invalidEnumValue datatype (.number n)) := by
  cases s with
  | text name => exact absurd rfl hs
  | _ => rfl

theorem find?_name_eq_some_iff (h : variants.Pairwise Variant.Apart)
    {name : String} {v : Variant} :
    variants.find? (fun v => Text.sameUpToCase v.name name) = some v ↔
      Variant.Sole (fun v => v.Selects (.text name)) variants v :=
  Variant.find?_eq_some_iff_sole (fun _ => Iff.rfl)
    (fun _ _ => Variant.Selects.not_apart) h

theorem find?_byte_eq_some_iff (h : variants.Pairwise Variant.Apart)
    (hs : s.kind ≠ .text) {n : Nat} (hn : s.Denotes n) {v : Variant} :
    variants.find? (fun v => v.value.toNat == n) = some v ↔
      Variant.Sole (fun v => v.Selects s) variants v := by
  apply Variant.find?_eq_some_iff_sole
    _ (fun _ _ => Variant.Selects.not_apart) h
  intro v
  rw [Variant.selects_iff_denotes hs, beq_iff_eq]
  constructor
  · rintro rfl
    exact hn
  · intro hv
    exact_mod_cast hv.unique hn

theorem variantOf_eq_ok_iff (h : variants.Pairwise Variant.Apart)
    {byte : UInt8} :
    variantOf datatype variants s = .ok byte ↔
      exists v, Variant.Sole (fun v => v.Selects s) variants v ∧
        v.value = byte := by
  by_cases hs : s.kind = .text
  · cases s with
    | text name =>
        simp only [← find?_name_eq_some_iff h, variantOf]
        cases variants.find? fun v => Text.sameUpToCase v.name name <;> simp
    | _ => cases hs
  · rw [variantOf_of_number hs, bind_eq_ok_iff]
    constructor
    · rintro ⟨n, hn, hbyte⟩
      have hdenotes := (Scalar.toNat_eq_ok_iff.mp hn).1
      split at hbyte
      · next v hv =>
          cases hbyte
          exact ⟨v, (find?_byte_eq_some_iff h hs hdenotes).mp hv, rfl⟩
      · cases hbyte
    · rintro ⟨v, hv, rfl⟩
      have hdenotes : s.Denotes v.value.toNat := by
        rcases hv with ⟨_, _, _, hselected, _⟩
        exact (Variant.selects_iff_denotes hs).mp hselected
      -- Floats beyond 32 bits are refused before the variants are asked, but no
      -- byte is one.
      refine ⟨v.value.toNat, Scalar.toNat_eq_ok_iff.mpr
        ⟨hdenotes, fun _ => ?_⟩, ?_⟩
      · exact v.value.toNat_lt.trans (by decide)
      · rw [(find?_byte_eq_some_iff h hs hdenotes).mpr hv]

theorem variantOf_perm (h : variants.Pairwise Variant.Apart)
    (hperm : variants.Perm others) :
    variantOf datatype variants s = variantOf datatype others s := by
  by_cases hs : s.kind = .text
  · cases s with
    | text name =>
        simp only [variantOf]
        rw [Variant.find?_perm _ h hperm]
        intro a b
        exact @Variant.Selects.not_apart (.text name) a b
    | _ => cases hs
  · rw [variantOf_of_number hs, variantOf_of_number hs]
    congr 1
    funext n
    rw [Variant.find?_perm _ h hperm]
    intro a b ha hb hapart
    apply hapart.1
    rw [beq_iff_eq] at ha hb
    exact UInt8.toNat_inj.mp (ha.trans hb.symm)

theorem toVariant_perm (h : variants.Pairwise Variant.Apart)
    (hperm : variants.Perm others) (value : NativeValue) :
    value.toVariant datatype variants = value.toVariant datatype others := by
  simp only [toVariant, variantOf_perm h hperm]

end

/-! ## Wrapped scalars -/

/--
The value is the scalar, at whatever depth: in sequences of one item, or in an
array.
-/
inductive Wraps (s : Scalar) : NativeValue -> Prop
  | bare : Wraps s (.scalar s)
  | array {a : NdArray} : a.scalars = [s] -> Wraps s (.array a)
  | sequence {item : NativeValue} : Wraps s item -> Wraps s (.sequence [item])

theorem Wraps.isNull {s : Scalar} {value : NativeValue} (h : Wraps s value) :
    value.isNull = false := by
  cases h <;> rfl

theorem Wraps.regular {s : Scalar} {value : NativeValue} (h : Wraps s value) :
    (exists shape, value.dimensions .u8 = .ok shape) ∧ value.scalars = [s] := by
  induction h with
  | bare => exact ⟨⟨[], rfl⟩, rfl⟩
  | array ha => exact ⟨⟨_, rfl⟩, ha⟩
  | sequence _ ih =>
      rcases ih with ⟨⟨shape, hshape⟩, hscalars⟩
      refine ⟨⟨1 :: shape, ?_⟩, ?_⟩
      · simp only [dimensions, commonDimensions, hshape]
        rfl
      · rw [scalars_sequence, List.flatMap_singleton, hscalars]

theorem Wraps.loneScalar {s : Scalar} {value : NativeValue}
    (h : Wraps s value) :
    value.loneScalar = .ok s := by
  rcases h.regular with ⟨⟨shape, hshape⟩, hscalars⟩
  rw [NativeValue.loneScalar, hshape, hscalars]
  rfl

end NativeValue

namespace Datatype

section

variable {config : Config} {name : String} {variants : List Variant}
  {nullable broadcast nonEmpty : Bool} {s : Scalar}

theorem normalize_enumeration_wraps {value : NativeValue}
    (h : NativeValue.Wraps s value) :
    normalize config
        ⟨name, .enumeration variants, nullable, broadcast, nonEmpty⟩ value =
      (NativeValue.variantOf name variants s).map (.one .u8) := by
  rw [normalize_enumeration h.isNull, NativeValue.toVariant, h.loneScalar]
  show (do
    let byte <- NativeValue.variantOf name variants s
    return .one .u8 byte : Except ConversionError Instance) = _
  cases NativeValue.variantOf name variants s <;> rfl

theorem normalize_enumeration_scalar_iff
    (hapart : variants.Pairwise Variant.Apart) {i : Instance} :
    normalize config
      ⟨name, .enumeration variants, nullable, broadcast, nonEmpty⟩ (.scalar s) =
        .ok i ↔
      exists v, Variant.Sole (fun v => v.Selects s) variants v ∧
        i = .one .u8 v.value := by
  rw [normalize_enumeration_wraps .bare, map_eq_ok_iff]
  simp only [NativeValue.variantOf_eq_ok_iff hapart]
  constructor
  · rintro ⟨_, ⟨v, hv, rfl⟩, rfl⟩
    exact ⟨v, hv, rfl⟩
  · rintro ⟨v, hv, rfl⟩
    exact ⟨_, ⟨v, hv, rfl⟩, rfl⟩

end

end Datatype
end Columnar
