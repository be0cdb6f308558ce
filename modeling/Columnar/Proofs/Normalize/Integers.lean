import Columnar.Proofs.Float.Exact
import Columnar.Proofs.Normalize.Instances

/-!
# Integers are coerced exactly

A scalar may denote an integer, whichever way it is written.  A kind of unsigned
integers takes exactly the scalars that denote an integer in its range and
stores that integer; a truth value is taken from the integers zero and one, but
not from a float.
-/

namespace Columnar
namespace Scalar

/--
The scalar stands for the integer: as itself, a truth value, or the number of a
float.
-/
def Denotes : Scalar -> Int -> Prop
  | .f32 x, z => FloatFormat.single.number? x.bits.toNat = some (z : ℚ)
  | .f64 x, z => FloatFormat.double.number? x.bits.toNat = some (z : ℚ)
  | .i64 value, z => value.toInt = z
  | .u64 value, z => value.toNat = z
  | .bool value, z => value.toNat = z
  | .text _, _ => False

theorem Denotes.unique {s : Scalar} {z other : Int} (h : s.Denotes z)
    (hother : s.Denotes other) :
    z = other := by
  cases s with
  | f32 x => exact Int.cast_injective (Option.some.inj (h.symm.trans hother))
  | f64 x => exact Int.cast_injective (Option.some.inj (h.symm.trans hother))
  | text text => exact h.elim
  | _ => exact h.symm.trans hother

section

variable {kind : ElementKind} {s : Scalar} {n : Nat}

theorem denotes_f32_iff {x : Binary32} {z : Int} :
    (Scalar.f32 x).Denotes z ↔ x.widen.value.integer? = some z := by
  rw [FloatValue.integer?_eq_some_iff, x.number?_widen, x.number?_value]
  rfl

theorem denotes_f64_iff {x : Binary64} {z : Int} :
    (Scalar.f64 x).Denotes z ↔ x.value.integer? = some z := by
  rw [FloatValue.integer?_eq_some_iff, x.number?_value]
  rfl

/-! ## Natural numbers -/

theorem floatToNat_eq_ok_iff {x : Binary64} :
    floatToNat kind x = .ok n ↔ x.value.integer? = some (n : Int) ∧
      n < 2 ^ 32 := by
  rw [floatToNat]
  cases x.value.integer? with
  | none => simp
  | some z =>
      simp only [Option.some.injEq]
      split
      · simp only [Except.ok.injEq]
        omega
      · simp only [reduceCtorEq, false_iff]
        omega

theorem exists_misfit_of_floatToNat {x : Binary64} {e : ConversionError}
    (h : floatToNat kind x = .error e) :
    exists value, e = .outOfRange kind value := by
  rw [floatToNat] at h
  split at h
  · split at h
    · cases h
    · cases h
      exact ⟨_, rfl⟩
  · cases h
    exact ⟨_, rfl⟩

theorem toNat_eq_ok_iff :
    s.toNat kind = .ok n ↔ s.Denotes n ∧
      (s.kind = .f32 ∨ s.kind = .f64 -> n < 2 ^ 32) := by
  -- No kind has more than 32 bits, so floats beyond them are refused before the
  -- kind is asked.
  cases s with
  | f32 x =>
      rw [toNat, floatToNat_eq_ok_iff, denotes_f32_iff]
      simp [Scalar.kind]
  | f64 x =>
      rw [toNat, floatToNat_eq_ok_iff, denotes_f64_iff]
      simp [Scalar.kind]
  | i64 value =>
      simp only [toNat, Denotes, Scalar.kind, reduceCtorEq, or_self,
        false_implies, and_true]
      split
      · simp only [Except.ok.injEq]
        omega
      · simp only [reduceCtorEq, false_iff]
        omega
  | u64 value => simp [toNat, Denotes, Scalar.kind]
  | bool value =>
      cases value <;>
        simp only [toNat, Denotes, Scalar.kind, Except.ok.injEq] <;>
        simp <;> omega
  | text text => simp [toNat, Denotes]

theorem exists_misfit_of_toNat {e : ConversionError} (hs : s.kind ≠ .text)
    (h : s.toNat kind = .error e) :
    exists value, e = .outOfRange kind value := by
  cases s with
  | f32 x => exact exists_misfit_of_floatToNat h
  | f64 x => exact exists_misfit_of_floatToNat h
  | i64 value =>
      simp only [toNat] at h
      split at h
      · cases h
      · cases h
        exact ⟨_, rfl⟩
  | u64 value => cases h
  | bool value => cases h
  | text text => exact absurd rfl hs

/-! ## Integers in a range -/

theorem toNatBelow_eq_ok_iff {size : Nat} (hsize : size ≤ 2 ^ 32) :
    s.toNatBelow kind size = .ok n ↔ s.Denotes n ∧ n < size := by
  simp only [toNatBelow, bind_eq_ok_iff, toNat_eq_ok_iff]
  constructor
  · intro h
    rcases h with ⟨m, ⟨hm, _⟩, h⟩
    split at h
    · next hlt =>
        cases h
        exact ⟨hm, hlt⟩
    · cases h
  · rintro ⟨hn, hlt⟩
    exact ⟨n, ⟨hn, fun _ => hlt.trans_le hsize⟩, if_pos hlt⟩

theorem toNatBelow_text (size : Nat) (text : String) :
    (Scalar.text text).toNatBelow kind size = .error (.nonNumeric kind .text) :=
  rfl

theorem exists_misfit_of_toNatBelow {size : Nat} {e : ConversionError}
    (hs : s.kind ≠ .text) (h : s.toNatBelow kind size = .error e) :
    exists value, e = .outOfRange kind value := by
  rw [toNatBelow, bind_eq_error_iff] at h
  rcases h with h | ⟨m, _, h⟩
  · exact exists_misfit_of_toNat hs h
  · split at h
    · cases h
    · cases h
      exact ⟨_, rfl⟩

end

/-! ## Kinds of integers -/

/--
A kind of unsigned integers, how many of them there are, and which of them an
element is.
-/
inductive Unsigned :
    (kind : ElementKind) -> Nat -> (kind.Carrier -> Nat) -> Prop
  | u8 : Unsigned .u8 (2 ^ 8) UInt8.toNat
  | u32 : Unsigned .u32 (2 ^ 32) UInt32.toNat

namespace Unsigned

variable {kind : ElementKind} {size : Nat} {toNat : kind.Carrier -> Nat}

theorem size_le (h : Unsigned kind size toNat) : size ≤ 2 ^ 32 := by
  cases h <;> decide

theorem exists_element (h : Unsigned kind size toNat) (config : Config) :
    exists ofNat : Nat -> kind.Carrier,
      (forall s : Scalar, s.coerce config kind =
        (s.toNatBelow kind size).map ofNat) ∧
        (forall n, n < size -> toNat (ofNat n) = n) := by
  cases h with
  | u8 =>
      exact ⟨UInt8.ofNat, fun _ => rfl, fun n hn => UInt8.toNat_ofNat_of_lt' hn⟩
  | u32 =>
      exact ⟨UInt32.ofNat, fun _ => rfl,
        fun n hn => UInt32.toNat_ofNat_of_lt' hn⟩

theorem eq_of_toNat_eq (h : Unsigned kind size toNat) {a b : kind.Carrier}
    (hab : toNat a = toNat b) : a = b := by
  cases h with
  | u8 => exact UInt8.toNat_inj.mp hab
  | u32 => exact UInt32.toNat_inj.mp hab

/--
What is stored is the integer that is denoted, and nothing else is stored.
-/
theorem coerce_eq_ok_iff (h : Unsigned kind size toNat) {config : Config}
    {s : Scalar} {element : kind.Carrier} :
    s.coerce config kind = .ok element ↔
      exists z : Int, s.Denotes z ∧ 0 ≤ z ∧ z < size ∧ toNat element = z := by
  rcases h.exists_element config with ⟨ofNat, hcoerce, htoNat⟩
  rw [hcoerce, map_eq_ok_iff]
  constructor
  · rintro ⟨n, hn, rfl⟩
    rw [toNatBelow_eq_ok_iff h.size_le] at hn
    refine ⟨n, hn.1, Int.natCast_nonneg n, ?_, ?_⟩
    · exact_mod_cast hn.2
    · rw [htoNat n hn.2]
  · rintro ⟨z, hz, hnonneg, hlt, helement⟩
    rcases Int.eq_ofNat_of_zero_le hnonneg with ⟨n, rfl⟩
    have hn : n < size := by exact_mod_cast hlt
    refine ⟨n, (toNatBelow_eq_ok_iff h.size_le).mpr ⟨hz, hn⟩,
      h.eq_of_toNat_eq ?_⟩
    rw [htoNat n hn]
    exact_mod_cast helement.symm

theorem coerce_text (h : Unsigned kind size toNat) (config : Config)
    (text : String) :
    (Scalar.text text).coerce config kind =
      .error (.nonNumeric kind .text) := by
  rcases h.exists_element config with ⟨ofNat, hcoerce, _⟩
  rw [hcoerce, toNatBelow_text]
  rfl

theorem exists_misfit_of_coerce (h : Unsigned kind size toNat) {config : Config}
    {s : Scalar} {e : ConversionError} (hs : s.kind ≠ .text)
    (he : s.coerce config kind = .error e) :
    exists value, e = .outOfRange kind value := by
  rcases h.exists_element config with ⟨ofNat, hcoerce, _⟩
  rw [hcoerce, map_eq_error_iff] at he
  exact exists_misfit_of_toNatBelow hs he

end Unsigned

/-! ## Truth values -/

theorem intToBool_eq_ok_iff {z : Int} {value : Bool} :
    intToBool z = .ok value ↔ z = if value then 1 else 0 := by
  unfold intToBool
  split
  · cases value <;> simp [*]
  · split <;> cases value <;> simp [*]

theorem coerce_bool_eq_ok_iff {config : Config} {s : Scalar} {value : Bool} :
    s.coerce config .bool = .ok value ↔
      (s.kind ≠ .f32 ∧ s.kind ≠ .f64) ∧ s.Denotes (if value then 1 else 0) := by
  cases s with
  | i64 stored =>
      simp [coerce, toBool, intToBool_eq_ok_iff, Denotes, Scalar.kind]
  | u64 stored =>
      simp [coerce, toBool, intToBool_eq_ok_iff, Denotes, Scalar.kind]
  | bool stored =>
      cases stored <;> cases value <;>
        simp [coerce, toBool, Denotes, Scalar.kind]
  | _ => simp [coerce, toBool, Denotes, Scalar.kind]

end Scalar

/-! ## One element -/

namespace Datatype

open Scalar

theorem normalize_primitive_scalar (config : Config) (name : String)
    (kind : ElementKind) (nullable broadcast nonEmpty : Bool) (s : Scalar) :
    normalize config ⟨name, .primitive kind, nullable, broadcast, nonEmpty⟩
        (.scalar s) =
      (s.coerce config kind).map (.one kind) := by
  rw [normalize_primitive rfl, NativeValue.toElements, NativeValue.dimensions]
  show ((do
    let values <- coerceAll config kind [s]
    return .elements ⟨kind, values⟩) : Except ConversionError Instance) = _
  rw [coerceAll, coerceAll]
  cases s.coerce config kind <;> rfl

/--
A scalar becomes an unsigned integer exactly if it denotes an integer in the
range of the kind, and then that integer is stored; text is refused for being
none, and every other scalar for being out of range.  It becomes a truth value
exactly if it is zero or one and no float.
-/
theorem normalize_stores_denoted (config : Config) (name : String)
    (nullable broadcast nonEmpty : Bool) (s : Scalar) :
    (forall kind size toNat, Unsigned kind size toNat ->
      (forall i,
        normalize config ⟨name, .primitive kind, nullable, broadcast, nonEmpty⟩
            (.scalar s) = .ok i ↔
          exists (z : Int) (element : kind.Carrier), s.Denotes z ∧
            0 ≤ z ∧ z < size ∧
            toNat element = z ∧ i = .one kind element) ∧
      (s.kind = .text ->
        normalize config ⟨name, .primitive kind, nullable, broadcast, nonEmpty⟩
            (.scalar s) =
          .error (.nonNumeric kind .text)) ∧
      (s.kind ≠ .text -> ¬ (exists z : Int, s.Denotes z ∧ 0 ≤ z ∧ z < size) ->
        exists value,
          normalize config
              ⟨name, .primitive kind, nullable, broadcast, nonEmpty⟩
              (.scalar s) =
            .error (.outOfRange kind value))) ∧
    forall i,
      normalize config ⟨name, .primitive .bool, nullable, broadcast, nonEmpty⟩
        (.scalar s) =
          .ok i ↔
        exists value : Bool, (s.kind ≠ .f32 ∧ s.kind ≠ .f64) ∧
          s.Denotes (if value then 1 else 0) ∧ i = .one .bool value := by
  simp only [normalize_primitive_scalar]
  refine ⟨?_, ?_⟩
  · intro kind size toNat hkind
    refine ⟨?_, ?_, ?_⟩
    · intro i
      rw [map_eq_ok_iff]
      constructor
      · rintro ⟨element, helement, rfl⟩
        rcases hkind.coerce_eq_ok_iff.mp helement with
          ⟨z, hz, hnonneg, hlt, hstored⟩
        exact ⟨z, element, hz, hnonneg, hlt, hstored, rfl⟩
      · rintro ⟨z, element, hz, hnonneg, hlt, hstored, rfl⟩
        exact ⟨element, hkind.coerce_eq_ok_iff.mpr
          ⟨z, hz, hnonneg, hlt, hstored⟩, rfl⟩
    · intro htext
      cases s with
      | text text => rw [hkind.coerce_text, Except.map]
      | _ => cases htext
    · intro htext hnone
      cases hcoerce : s.coerce config kind with
      | ok element =>
          rcases hkind.coerce_eq_ok_iff.mp hcoerce with ⟨z, hz, hnonneg, hlt, _⟩
          exact absurd ⟨z, hz, hnonneg, hlt⟩ hnone
      | error e =>
          rcases hkind.exists_misfit_of_coerce htext hcoerce with ⟨value, rfl⟩
          exact ⟨value, rfl⟩
  · intro i
    rw [map_eq_ok_iff]
    constructor
    · rintro ⟨value, hvalue, rfl⟩
      rcases coerce_bool_eq_ok_iff.mp hvalue with ⟨hfloat, hdenotes⟩
      exact ⟨value, hfloat, hdenotes, rfl⟩
    · rintro ⟨value, hfloat, hdenotes, rfl⟩
      exact ⟨value, coerce_bool_eq_ok_iff.mpr ⟨hfloat, hdenotes⟩, rfl⟩

theorem normalize_stores_denoted_bounds :
    (primitive "sample.Count" .u32).normalize {}
    (.scalar (.f64 ⟨0x41efffffffe00000⟩)) =
        .ok (.one .u32 (4294967295 : UInt32)) ∧
      (exists value, (primitive "sample.Count" .u32).normalize {}
        (.scalar (.f64 ⟨0x41f0000000000000⟩)) =
          .error (.outOfRange .u32 value)) ∧
      (primitive "sample.Level" .u8).normalize {}
          (.scalar (.f32 ⟨0x80000000⟩)) =
        .ok (.one .u8 (0 : UInt8)) ∧
      forall i, (primitive "sample.On" .bool).normalize {}
        (.scalar (.f32 ⟨0x3f800000⟩)) ≠ .ok i := by
  refine ⟨?_, ?_, ?_, ?_⟩
  · rcases normalize_stores_denoted {} "sample.Count" false false false
      (.f64 ⟨0x41efffffffe00000⟩) with ⟨hunsigned, _⟩
    refine ((hunsigned _ _ _ .u32).1 _).mpr ⟨4294967295, 4294967295, ?_, ?_⟩
    · exact denotes_f64_iff.mpr (by decide)
    · exact ⟨by decide, by decide, rfl, rfl⟩
  · rcases normalize_stores_denoted {} "sample.Count" false false false
      (.f64 ⟨0x41f0000000000000⟩) with ⟨hunsigned, _⟩
    refine (hunsigned _ _ _ .u32).2.2 nofun ?_
    rintro ⟨z, hz, _, hlt⟩
    have hvalue : z = 4294967296 :=
      Option.some.inj ((denotes_f64_iff.mp hz).symm.trans (by decide))
    rw [hvalue] at hlt
    exact absurd hlt (by decide)
  · rcases normalize_stores_denoted {} "sample.Level" false false false
      (.f32 ⟨0x80000000⟩) with ⟨hunsigned, _⟩
    refine ((hunsigned _ _ _ .u8).1 _).mpr
      ⟨0, 0, ?_, by decide, by decide, rfl, rfl⟩
    exact denotes_f32_iff.mpr (by decide +kernel)
  · intro i hi
    rcases normalize_stores_denoted {} "sample.On" false false false
      (.f32 ⟨0x3f800000⟩) with ⟨_, hbool⟩
    rcases (hbool i).mp hi with ⟨_, hfloat, _⟩
    exact hfloat.1 rfl

end Datatype
end Columnar
