import Columnar.Proofs.Batch.Nested
import Columnar.Proofs.Normalize.Verdict

/-!
# Flat data of a fixed arity

Scalars one after the other, for a datatype that takes a fixed number of them,
are as many instances as they make up.  If some are left over there is no batch.
A flat array is taken like the sequence of its scalars, unless it is empty.
-/

namespace Columnar

/--
Flat data: a sequence of scalars, or an array of one dimension that is not
empty.
-/
inductive Flat (scalars : List Scalar) : NativeValue -> Prop
  | sequence : Flat scalars (.sequence (scalars.map .scalar))
  | array {a : NdArray} {length : Nat} :
      a.shape = [length] -> length ≠ 0 -> a.scalars = scalars ->
      Flat scalars (.array a)

namespace Datatype

open NativeValue

section

variable {d : Datatype} {kind : ElementKind} {arity : UInt32} {config : Config}
  {scalars : List Scalar} {values : List kind.Carrier}

theorem elementwise_of_fixedList (hd : d.shape = .fixedList kind arity) :
    d.IsElementwise := by
  intro fields hfields
  rw [hd] at hfields
  cases hfields

theorem normalize_of_shape_fixedList (hd : d.shape = .fixedList kind arity)
    {value : NativeValue} (hvalue : value.isNull = false) :
    d.normalize config value =
      value.toElements config kind (.fixed arity.toNat) d.broadcastScalar := by
  rcases d with ⟨name, shape, nullable, broadcast, nonEmpty⟩
  cases hd
  exact normalize_fixedList hvalue

theorem aritiesFit_of_shape_fixedList_iff
    (hd : d.shape = .fixedList kind arity) :
    d.AritiesFit ↔ arity.toNat < wordLimit := by
  rcases d with ⟨name, shape, nullable, broadcast, nonEmpty⟩
  cases hd
  exact aritiesFit_fixedList_iff

theorem totalsFit_of_shape_fixedList (hd : d.shape = .fixedList kind arity)
    {rows : List Instance} : d.TotalsFit rows := by
  rcases d with ⟨name, shape, nullable, broadcast, nonEmpty⟩
  cases hd
  exact totalsFit_of_nil rfl

theorem groupSize?_of_fixedList (hd : d.shape = .fixedList kind arity)
    (depth length : Nat) :
    d.groupSize? depth length =
      if depth = 1 ∧ 1 < arity.toNat ∧ 0 < length ∧
          length % arity.toNat = 0 then
        some arity.toNat
      else none := by
  rw [groupSize?, hd]

theorem normalize_run (hd : d.shape = .fixedList kind arity)
    (hvalues : List.Forall₂ (fun s value => s.coerce config kind = .ok value)
      scalars values) :
    d.normalize config (.sequence (scalars.map .scalar)) =
      if scalars.length = arity.toNat then .ok (.elements ⟨kind, values⟩)
      else .error (.arityMismatch (.fixed arity.toNat) scalars.length) := by
  rw [normalize_of_shape_fixedList hd rfl,
    toElements_of_regular (regular_map_scalar scalars), spread_sequence,
    scalars_map_scalar, Scalar.coerceAll_eq_ok_iff.mpr hvalues]
  by_cases hlength : scalars.length = arity.toNat
  · rw [if_pos (Arity.accepts_fixed_iff.mpr hlength), if_pos hlength]
    rfl
  · rw [if_neg (fun h => hlength (Arity.accepts_fixed_iff.mp h)),
      if_neg hlength]

theorem split_flat (hd : d.shape = .fixedList kind arity)
    (harity : 1 < arity.toNat) (scalars : List Scalar) :
    d.split (.sequence (scalars.map .scalar)) =
      if arity.toNat ∣ scalars.length then
        (groups arity.toNat (scalars.map .scalar)).map .sequence
      else [.sequence (scalars.map .scalar)] := by
  have helementwise := elementwise_of_fixedList hd
  cases scalars with
  | nil =>
      have hgroups : groups arity.toNat ([] : List NativeValue) = [] := by
        rw [groups_eq_of_dvd (Nat.zero_lt_of_lt harity) (Nat.dvd_zero _),
          List.length_nil, Nat.zero_div]
        rfl
      have hdvd : arity.toNat ∣ ([] : List Scalar).length := Nat.dvd_zero _
      have hlist : forall other, d.shape ≠ .list other := by
        intro other hother
        rw [hd] at hother
        cases hother
      rw [split_sequence_of_elementwise helementwise, List.map_nil, if_pos hdvd,
        hgroups, splitElementSequence_nil hlist, List.map_nil]
  | cons s rest =>
      have hdepth : d.depth = 1 := by
        rw [depth, hd]
      have hbare : forall item, item ∈ (s :: rest).map NativeValue.scalar ->
          item.depth = 0 := by
        rw [List.forall_mem_map]
        intro other _
        rfl
      have hpresent : exists item, item ∈ (s :: rest).map NativeValue.scalar ∧
          item.isNull = false := ⟨.scalar s, List.mem_cons_self, rfl⟩
      rw [split_sequence_of_bare helementwise hdepth hpresent hbare,
        groupSize?_of_fixedList hd, List.length_map]
      by_cases hdvd : arity.toNat ∣ (s :: rest).length
      · rw [if_pos hdvd,
          if_pos ⟨rfl, harity, Nat.succ_pos _, Nat.dvd_iff_mod_eq_zero.mp hdvd⟩]
      · rw [if_neg hdvd,
          if_neg (fun h => hdvd (Nat.dvd_iff_mod_eq_zero.mpr h.2.2.2))]

def runsOf (kind : ElementKind) (size : Nat) (values : List kind.Carrier) :
    List Instance :=
  (List.range (values.length / size)).map fun index =>
    .elements ⟨kind, group size values index⟩

theorem normalized_groups (hd : d.shape = .fixedList kind arity)
    (harity : 0 < arity.toNat) (hdvd : arity.toNat ∣ scalars.length)
    (hvalues : List.Forall₂ (fun s value => s.coerce config kind = .ok value)
      scalars values) :
    d.Normalized config
      ((groups arity.toNat (scalars.map .scalar)).map .sequence)
      (runsOf kind arity.toNat values) := by
  rw [groups_map, groups_eq_of_dvd harity hdvd, runsOf, ← hvalues.length_eq,
    List.map_map, List.map_map]
  unfold Normalized
  rw [List.forall₂_map_left_iff, List.forall₂_map_right_iff, List.forall₂_same]
  intro index hindex
  have hlength := length_group_of_lt (List.mem_range.mp hindex)
  exact (normalize_run hd (forall₂_group hvalues arity.toNat index)).trans
    (if_pos hlength)

end

end Datatype

namespace BatchBuilder

open Datatype

variable {b : BatchBuilder} {descriptor : Descriptor} {handle : Handle}
  {kind : ElementKind} {arity : UInt32} {scalars : List Scalar}
  {values : List kind.Carrier} {value : NativeValue}

theorem build_flat_eq
    (hhandle : b.registry.handle descriptor.component.text = .ok handle)
    (hextension : b.extension? descriptor.component.text = none)
    (hd : handle.datatype.IsElementwise) (hflat : Flat scalars value) :
    b.build descriptor (.loose value) =
      b.build descriptor
        (.many (handle.datatype.split (.sequence (scalars.map .scalar)))) := by
  cases hflat with
  | sequence => exact build_eq_build_many hhandle rfl
  | @array a length hshape hlength hscalars =>
      have hsolid : a.Solid := by
        intro dim hdim
        rw [hshape, List.mem_singleton] at hdim
        exact hdim ▸ hlength
      have hnested : a.nested = .sequence (scalars.map .scalar) := by
        rw [NdArray.nested_of_shape_cons hshape,
          NdArray.map_nested_rows_of_flat hshape, hscalars]
      have hne : a.shape ≠ [] := hshape ▸ List.cons_ne_nil _ _
      rw [← build_loose_congr hhandle hextension
        (map_normalize_split_nested hd hsolid hne b.config), hnested]
      exact build_eq_build_many hhandle rfl

theorem admits_of_unlimited {config : Config} {d : Datatype} {length : Nat}
    (hempty : d.nonEmpty = false) (hlimit : config.maxBatchLength = none) :
    config.Admits d length where
  present := by
    intro h
    rw [hempty] at h
    cases h.2
  within := by
    intro limit h
    rw [hlimit] at h
    cases h

theorem not_exists_build_run (hreachable : b.registry.Reachable)
    (hhandle : b.registry.handle descriptor.component.text = .ok handle)
    (hextension : b.extension? descriptor.component.text = none)
    (hshape : handle.datatype.shape = .fixedList kind arity)
    (hdvd : ¬ arity.toNat ∣ scalars.length)
    (hvalues : List.Forall₂ (fun s value => s.coerce b.config kind = .ok value)
      scalars values) :
    ¬ exists batch,
      b.build descriptor (.many [.sequence (scalars.map .scalar)]) =
        .ok batch := by
  rw [build_many_succeeds_iff hreachable hhandle hextension]
  intro h
  rcases h with ⟨_, _, hrows, _⟩
  cases hrows with
  | cons hrow _ =>
      have hlength : scalars.length ≠ arity.toNat := by
        intro hlength
        exact hdvd (hlength ▸ Nat.dvd_refl _)
      rw [normalize_run hshape hvalues, if_neg hlength] at hrow
      cases hrow

/--
Flat data that can be coerced makes a batch exactly when the arity divides its
length and is a signed 32-bit word; the instances are then the consecutive runs
of so many elements.
-/
theorem flat_data_divides (hreachable : b.registry.Reachable)
    (hhandle : b.registry.handle descriptor.component.text = .ok handle)
    (hextension : b.extension? descriptor.component.text = none)
    (hlimit : b.config.maxBatchLength = none)
    (hshape : handle.datatype.shape = .fixedList kind arity)
    (harity : 1 < arity.toNat) (hempty : handle.datatype.nonEmpty = false)
    (hvalues : List.Forall₂ (fun s value => s.coerce b.config kind = .ok value)
      scalars values)
    (hflat : Flat scalars value) :
    ((exists batch, b.build descriptor (.loose value) = .ok batch) ↔
      arity.toNat ∣ scalars.length ∧ arity.toNat < wordLimit) ∧
    (forall batch, b.build descriptor (.loose value) = .ok batch ->
      batch.length = scalars.length / arity.toNat ∧
      batch.decode handle.datatype = .ok (runsOf kind arity.toNat values)) := by
  rw [build_flat_eq hhandle hextension (elementwise_of_fixedList hshape) hflat,
    split_flat hshape harity]
  by_cases hdvd : arity.toNat ∣ scalars.length
  · have hrows :=
      normalized_groups hshape (Nat.zero_lt_of_lt harity) hdvd hvalues
    rw [if_pos hdvd]
    constructor
    · rw [build_many_succeeds_iff hreachable hhandle hextension,
        and_iff_right hdvd, ← aritiesFit_of_shape_fixedList_iff hshape]
      constructor
      · intro h
        rcases h with ⟨_, _, _, hfits, _⟩
        exact hfits
      · intro hfits
        exact ⟨admits_of_unlimited hempty hlimit, _, hrows, hfits,
          totalsFit_of_shape_fixedList hshape⟩
    · intro batch hbatch
      rcases decode_of_build_many hreachable hhandle hextension hbatch with
        ⟨hlength, _, rows, hnormalized, hdecode⟩
      refine ⟨?_, ?_⟩
      · rw [hlength, hrows.length_eq, runsOf, List.length_map,
          List.length_range, hvalues.length_eq]
      · rw [hdecode, hnormalized.unique hrows]
  · have hrefused :=
      not_exists_build_run hreachable hhandle hextension hshape hdvd hvalues
    rw [if_neg hdvd]
    refine ⟨iff_of_false hrefused fun h => hdvd h.1, ?_⟩
    intro batch hbatch
    exact absurd ⟨batch, hbatch⟩ hrefused

namespace Sample

def oddScalars : List Scalar := [.u64 1, .u64 2, .u64 3]

def wide : Datatype := Datatype.fixedList "sample.Wide" .u8 2147483648

def wideName : ComponentName := ⟨"sample.components.Wide"⟩

def wideBuilder : BatchBuilder where
  registry := (Registry.empty.register wideName.text wide).2

theorem handle_wideBuilder :
    wideBuilder.registry.handle wideName.text = .ok (.of wideName wide) :=
  Registry.handle_register_empty (Registry.candidate_eq_ok_iff.mpr
    ⟨by decide, validate_fixedList (by decide) (by decide), rfl⟩)

def noBytes : NdArray := ⟨⟨.u8, []⟩, [0], rfl⟩

end Sample

open Sample in
theorem flat_data_divides_pairs :
    (exists batch, pairBuilder.build (.bare pairName)
      (.loose (.array flatPairs)) = .ok batch ∧
      batch.length = 2 ∧ batch.decode pair = .ok pairRows.tail) ∧
    ¬ exists batch, pairBuilder.build (.bare pairName)
      (.loose (.sequence (oddScalars.map .scalar))) = .ok batch := by
  constructor
  · have hfour : List.Forall₂
        (fun s value => s.coerce pairBuilder.config ElementKind.u8 = .ok value)
        flatPairs.scalars ([1, 2, 3, 4] : List UInt8) :=
      .cons rfl (.cons rfl (.cons rfl (.cons rfl .nil)))
    have hflat := @flat_data_divides pairBuilder (.bare pairName)
      (.of pairName pair) .u8 2 flatPairs.scalars ([1, 2, 3, 4] : List UInt8)
      (.array flatPairs) reachable_pairBuilder handle_pairBuilder rfl rfl rfl
      (by decide) rfl hfour (.array rfl (by decide) rfl)
    rcases hflat.1.mpr ⟨by decide, by decide⟩ with ⟨batch, hbatch⟩
    exact ⟨batch, hbatch, hflat.2 batch hbatch⟩
  · have hthree : List.Forall₂
        (fun s value => s.coerce pairBuilder.config ElementKind.u8 = .ok value)
        oddScalars ([1, 2, 3] : List UInt8) :=
      .cons rfl (.cons rfl (.cons rfl .nil))
    have hflat := @flat_data_divides pairBuilder (.bare pairName)
      (.of pairName pair) .u8 2 oddScalars ([1, 2, 3] : List UInt8) _
      reachable_pairBuilder handle_pairBuilder rfl rfl rfl (by decide) rfl
      hthree .sequence
    intro hbatch
    exact absurd (hflat.1.mp hbatch).1 (by decide)

open Sample in
/--
No scalars are as many as any arity divides, but rows may be too wide and arrays
empty.
-/
theorem empty_flat_data_refused :
    (wide.shape = .fixedList .u8 2147483648 ∧ wide.nonEmpty = false ∧
      wideBuilder.build (.bare wideName) (.loose (.sequence [])) =
        .error (.conversion .offsetOverflow)) ∧
    (pair.shape = .fixedList .u8 2 ∧ pair.nonEmpty = false ∧
      pairBuilder.build (.bare pairName) (.loose (.sequence [])) =
        .ok ⟨.bare pairName, pair.layout [], true⟩ ∧
      pairBuilder.build (.bare pairName) (.loose (.array noBytes)) =
        .error (.conversion (.atIndex 0 (.arityMismatch (.fixed 2) 0)))) := by
  refine ⟨⟨rfl, rfl, ?_⟩, rfl, rfl, ?_, ?_⟩
  · rw [build_eq_map_convert handle_wideBuilder rfl]
    rfl
  · rw [build_eq_map_convert handle_pairBuilder rfl]
    rfl
  · rw [build_eq_map_convert handle_pairBuilder rfl]
    rfl

end BatchBuilder
end Columnar
