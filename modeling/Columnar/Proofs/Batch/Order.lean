import Mathlib.Data.List.Perm.Basic
import Columnar.Proofs.Batch.Flat

/-!
# The order of items

Whether a sequence makes a batch does not depend on the order of its items, as
long as no bare item stands beside a nested one.  Where they are mixed, the
first item that is present decides how the others are read, and one order may be
refused while another is not.
-/

namespace Columnar

theorem Scalar.exists_coerceAll_iff {config : Config} {kind : ElementKind}
    {scalars : List Scalar} :
    (exists values, coerceAll config kind scalars = .ok values) ↔
      forall s, s ∈ scalars -> exists element, s.coerce config kind =
        .ok element := by
  simp only [coerceAll_eq_ok_iff]
  exact exists_forall₂_iff

/-! ## Bare items -/

namespace NativeValue

variable {config : Config} {kind : ElementKind} {arity : Arity}
  {broadcast : Bool} {items others : List NativeValue} {value : NativeValue}

/-- A regular value all of whose scalars can be coerced. -/
structure Coercible (config : Config) (kind : ElementKind)
    (value : NativeValue) : Prop where
  regular : value.Regular
  coerced : forall s, s ∈ value.scalars ->
    exists element, s.coerce config kind = .ok element

theorem extent_of_depth (h : value.depth = 0) : value.extent = [] := by
  cases value with
  | array a => exact List.eq_nil_of_length_eq_zero h
  | sequence items => cases items <;> simp [depth] at h
  | _ => rfl

theorem length_scalars_of_depth (h : value.depth = 0)
    (hregular : value.Regular) :
    value.scalars.length = 1 := by
  cases value with
  | scalar s => rfl
  | array a =>
      have hshape : a.shape = [] := List.eq_nil_of_length_eq_zero h
      rw [scalars_array, NdArray.length_scalars, hshape]
      rfl
  | sequence items => cases items <;> simp [depth] at h
  | null => exact absurd hregular not_regular_null
  | record pairs => exact absurd hregular (not_regular_record pairs)

theorem length_scalars_of_bare
    (hbare : forall item, item ∈ items -> item.depth = 0)
    (hregular : forall item, item ∈ items -> item.Regular) :
    (sequence items).scalars.length = items.length := by
  rw [scalars_sequence]
  induction items with
  | nil => rfl
  | cons item rest ih =>
      rw [List.forall_mem_cons] at hbare hregular
      rw [List.flatMap_cons, List.length_append, ih hbare.2 hregular.2,
        length_scalars_of_depth hbare.1 hregular.1, List.length_cons,
        Nat.add_comm]

theorem coercible_sequence_iff
    (hbare : forall item, item ∈ items -> item.depth = 0) :
    (sequence items).Coercible config kind ↔
      forall item, item ∈ items -> item.Coercible config kind := by
  -- Bare items have the same extent, none, so there is nothing for them to
  -- disagree in.
  constructor
  · intro h item hitem
    refine ⟨(regular_sequence_iff.mp h.regular).1 item hitem, ?_⟩
    intro s hs
    apply h.coerced s
    rw [scalars_sequence]
    exact List.mem_flatMap_of_mem hitem hs
  · intro h
    refine ⟨regular_sequence_iff.mpr
      ⟨fun item hitem => (h item hitem).regular, ?_⟩, ?_⟩
    · intro first hfirst other hother
      rw [extent_of_depth (hbare first hfirst),
        extent_of_depth (hbare other hother)]
    · intro s hs
      rw [scalars_sequence, List.mem_flatMap] at hs
      rcases hs with ⟨item, hitem, hs⟩
      exact (h item hitem).coerced s hs

theorem exists_toElements_sequence_iff :
    (exists i, (sequence items).toElements config kind arity broadcast =
      .ok i) ↔
      (sequence items).Coercible config kind ∧
        arity.accepts (sequence items).scalars.length = true := by
  constructor
  · intro h
    rcases h with ⟨i, hi⟩
    have hregular := regular_of_toElements hi
    rw [toElements_of_regular hregular, spread_sequence] at hi
    split at hi
    · next haccepts =>
        rcases map_eq_ok_iff.mp hi with ⟨values, hvalues, _⟩
        exact ⟨⟨hregular, Scalar.exists_coerceAll_iff.mp ⟨values, hvalues⟩⟩,
          haccepts⟩
    · cases hi
  · intro h
    rcases h with ⟨hcoercible, haccepts⟩
    rcases Scalar.exists_coerceAll_iff.mpr hcoercible.coerced with
      ⟨values, hvalues⟩
    rw [toElements_of_regular hcoercible.regular, spread_sequence,
      if_pos haccepts, hvalues]
    exact ⟨_, rfl⟩

theorem exists_toElements_bare_iff
    (hbare : forall item, item ∈ items -> item.depth = 0) :
    (exists i, (sequence items).toElements config kind arity broadcast =
      .ok i) ↔
      (forall item, item ∈ items -> item.Coercible config kind) ∧
        arity.accepts items.length = true := by
  rw [exists_toElements_sequence_iff, coercible_sequence_iff hbare]
  apply and_congr_right
  intro h
  rw [length_scalars_of_bare hbare fun item hitem => (h item hitem).regular]

theorem count_of_toElements_bare {i : Instance}
    (hbare : forall item, item ∈ items -> item.depth = 0)
    (h : (sequence items).toElements config kind arity broadcast = .ok i) :
    i.count? = some items.length := by
  have hregular := regular_of_toElements h
  have hitems := (regular_sequence_iff.mp hregular).1
  rw [toElements_of_regular hregular, spread_sequence] at h
  split at h
  · rcases map_eq_ok_iff.mp h with ⟨values, hvalues, rfl⟩
    have hlength := Scalar.length_of_coerceAll hvalues
    rw [length_scalars_of_bare hbare hitems] at hlength
    exact congrArg some hlength
  · cases h

/--
Bare items stand among bare items only, nested ones among nested ones and absent
ones.
-/
def Unmixed (items : List NativeValue) : Prop :=
  (forall item, item ∈ items -> item.depth = 0) ∨
    forall item, item ∈ items -> item.isNull = false -> item.depth ≠ 0

theorem Unmixed.cases (h : Unmixed items) :
    (forall item, item ∈ items -> item.isNull = false -> item.depth ≠ 0) ∨
      (exists item, item ∈ items ∧ item.isNull = false) ∧
        forall item, item ∈ items -> item.depth = 0 := by
  by_cases hpresent : exists item, item ∈ items ∧ item.isNull = false
  · rcases h with hbare | hnested
    · exact Or.inr ⟨hpresent, hbare⟩
    · exact Or.inl hnested
  · left
    intro item hitem hitemPresent
    exact absurd ⟨item, hitem, hitemPresent⟩ hpresent

theorem Unmixed.perm (hperm : items.Perm others) (h : Unmixed items) :
    Unmixed others := by
  rcases h with hbare | hnested
  · exact Or.inl fun item hitem => hbare item (hperm.mem_iff.mpr hitem)
  · exact Or.inr fun item hitem => hnested item (hperm.mem_iff.mpr hitem)

end NativeValue

namespace Datatype

open NativeValue

variable {d : Datatype} {config : Config} {items others : List NativeValue}

theorem exists_readsRun (hd : d.IsElementwise) (hdepth : d.depth = 1) :
    exists kind arity broadcast, ReadsRun kind arity broadcast d := by
  rcases d with ⟨name, shape, nullable, broadcast, nonEmpty⟩
  cases shape with
  | fixedList kind arity => exact ⟨kind, _, _, .fixedList⟩
  | list kind => exact ⟨kind, _, _, .list⟩
  | struct fields => exact absurd rfl (hd fields)
  | _ => cases hdepth

theorem fixedList_of_groupSize? {depth length size : Nat}
    (h : d.groupSize? depth length = some size) :
    exists kind arity, d.shape = .fixedList kind arity ∧
      arity.toNat = size := by
  unfold groupSize? at h
  split at h
  · next kind arity hshape =>
      refine ⟨kind, arity, hshape, ?_⟩
      split at h
      · exact Option.some.inj h
      · cases h
  · cases h

theorem totalsFit_of_perm {rows targets : List Instance} (hd : d.IsElementwise)
    (h : (rows.map Instance.count?).Perm (targets.map Instance.count?))
    (hfit : d.TotalsFit rows) :
    d.TotalsFit targets := by
  rcases d with ⟨name, shape, nullable, broadcast, nonEmpty⟩
  cases shape with
  | list kind =>
      rw [totalsFit_list_iff] at hfit ⊢
      have hcounts := (h.map fun count : Option Nat => count.getD 0).sum_nat
      rw [List.map_map, List.map_map] at hcounts
      exact hcounts ▸ hfit
  | struct fields => exact absurd rfl (hd fields)
  | _ => exact totalsFit_of_nil rfl

/-- The values become instances that fit a column. -/
def Fitting (config : Config) (d : Datatype) (values : List NativeValue) :
    Prop :=
  exists rows, d.Normalized config values rows ∧ d.TotalsFit rows

theorem Fitting.perm (hd : d.IsElementwise) (hperm : items.Perm others)
    (h : d.Fitting config items) : d.Fitting config others := by
  rcases h with ⟨rows, hrows, hfit⟩
  rcases List.perm_comp_forall₂ hperm.symm hrows with ⟨targets, htargets, hsame⟩
  exact ⟨targets, htargets, totalsFit_of_perm hd (hsame.symm.map _) hfit⟩

theorem Fitting.perm_run (hd : d.IsElementwise) (hdepth : d.depth = 1)
    (hperm : items.Perm others)
    (hbare : forall item, item ∈ items -> item.depth = 0)
    (h : d.Fitting config [.sequence items]) :
    d.Fitting config [.sequence others] := by
  rcases exists_readsRun hd hdepth with ⟨kind, arity, broadcast, hruns⟩
  have hothers : forall item, item ∈ others -> item.depth = 0 :=
    fun item hitem => hbare item (hperm.mem_iff.mpr hitem)
  rcases h with ⟨_, _ | ⟨hrow, _ | _⟩, hfit⟩
  rw [hruns.normalize_eq rfl] at hrow
  rcases (exists_toElements_bare_iff hbare).mp ⟨_, hrow⟩ with
    ⟨hcoercible, haccepts⟩
  have hthere : exists i,
      (sequence others).toElements config kind arity broadcast = .ok i :=
    (exists_toElements_bare_iff hothers).mpr
      ⟨fun item hitem => hcoercible item (hperm.mem_iff.mpr hitem),
        hperm.length_eq ▸ haccepts⟩
  rcases hthere with ⟨target, htarget⟩
  refine ⟨[target], .cons ((hruns.normalize_eq rfl).trans htarget) .nil, ?_⟩
  apply totalsFit_of_perm hd _ hfit
  rw [List.map_singleton, List.map_singleton,
    count_of_toElements_bare hbare hrow,
    count_of_toElements_bare hothers htarget, hperm.length_eq]

theorem fitting_groups_iff {kind : ElementKind} {arity : UInt32}
    (hd : d.shape = .fixedList kind arity) (harity : 0 < arity.toNat)
    (hdvd : arity.toNat ∣ items.length)
    (hbare : forall item, item ∈ items -> item.depth = 0) :
    d.Fitting config ((groups arity.toNat items).map .sequence) ↔
      forall item, item ∈ items -> item.Coercible config kind := by
  -- The groups have the items between them, so it does not matter which group
  -- an item is in.
  have hparts := flatten_groups harity items
  have hpart : forall part, part ∈ groups arity.toNat items ->
      ((exists i, d.normalize config (.sequence part) = .ok i) ↔
        forall item, item ∈ part -> item.Coercible config kind) := by
    intro part hpart
    have hbarePart : forall item, item ∈ part -> item.depth = 0 := by
      intro item hitem
      exact hbare item (hparts ▸ List.mem_flatten_of_mem hpart hitem)
    have haccepts : (Arity.fixed arity.toNat).accepts part.length = true :=
      Arity.accepts_fixed_iff.mpr (length_of_mem_groups harity hdvd hpart)
    rw [normalize_of_shape_fixedList hd rfl,
      exists_toElements_bare_iff hbarePart, and_iff_left haccepts]
  have hfit : d.Fitting config ((groups arity.toNat items).map .sequence) ↔
      exists rows, d.Normalized config
        ((groups arity.toNat items).map .sequence) rows := by
    simp only [Fitting, totalsFit_of_shape_fixedList hd, and_true]
  rw [hfit, exists_normalized_iff, List.forall_mem_map]
  constructor
  · intro h item hitem
    rw [← hparts, List.mem_flatten] at hitem
    rcases hitem with ⟨part, hmem, hitem⟩
    exact (hpart part hmem).mp (h part hmem) item hitem
  · intro h part hmem
    apply (hpart part hmem).mpr
    intro item hitem
    exact h item (hparts ▸ List.mem_flatten_of_mem hmem hitem)

theorem fitting_split_of_perm_bare (hd : d.IsElementwise) (hdepth : d.depth = 1)
    (hpresent : exists item, item ∈ items ∧ item.isNull = false)
    (hbare : forall item, item ∈ items -> item.depth = 0)
    (hperm : items.Perm others)
    (h : d.Fitting config (d.split (.sequence items))) :
    (d.split (.sequence others)).length = (d.split (.sequence items)).length ∧
      d.Fitting config (d.split (.sequence others)) := by
  have hlength := hperm.length_eq
  have hothers : forall item, item ∈ others -> item.depth = 0 :=
    fun item hitem => hbare item (hperm.mem_iff.mpr hitem)
  have hthere : exists item, item ∈ others ∧ item.isNull = false := by
    rcases hpresent with ⟨item, hitem, hpresent⟩
    exact ⟨item, hperm.mem_iff.mp hitem, hpresent⟩
  rw [split_sequence_of_bare hd hdepth hpresent hbare] at h ⊢
  rw [split_sequence_of_bare hd hdepth hthere hothers, ← hlength]
  cases hsize : d.groupSize? 1 items.length with
  | none =>
      rw [hsize] at h
      exact ⟨rfl, h.perm_run hd hdepth hperm hbare⟩
  | some size =>
      rw [hsize] at h
      rcases fixedList_of_groupSize? hsize with ⟨kind, arity, hshape, rfl⟩
      have harity : 0 < arity.toNat :=
        Nat.zero_lt_of_lt (one_lt_groupSize? hsize)
      have hdvd : arity.toNat ∣ items.length :=
        Nat.dvd_of_mod_eq_zero (mod_groupSize? hsize)
      have hcoercible := (fitting_groups_iff hshape harity hdvd hbare).mp h
      refine ⟨?_, (fitting_groups_iff hshape harity (hlength ▸ hdvd)
        hothers).mpr ?_⟩
      · rw [List.length_map, List.length_map, length_groups, length_groups,
          hlength]
      · intro item hitem
        exact hcoercible item (hperm.mem_iff.mpr hitem)

/--
In either order a sequence is split into as many instances, and they fit alike.
-/
theorem fitting_split_of_perm (hd : d.IsElementwise)
    (hlevel : d.depth = 0 ∨ Unmixed items) (hperm : items.Perm others)
    (h : d.Fitting config (d.split (.sequence items))) :
    (d.split (.sequence others)).length = (d.split (.sequence items)).length ∧
      d.Fitting config (d.split (.sequence others)) := by
  by_cases hdepth : d.depth = 0
  · rw [split_sequence_of_single hd hdepth] at h ⊢
    rw [split_sequence_of_single hd hdepth]
    exact ⟨hperm.length_eq.symm, h.perm hd hperm⟩
  · rcases (hlevel.resolve_left hdepth).cases with hnested | ⟨hpresent, hbare⟩
    · by_cases hne : items = []
      · rw [hne] at h hperm ⊢
        rw [hperm.nil_eq.symm]
        exact ⟨rfl, h⟩
      · have hotherNested : forall item, item ∈ others -> item.isNull = false ->
            item.depth ≠ 0 :=
          fun item hitem => hnested item (hperm.mem_iff.mpr hitem)
        have hotherNe : others ≠ [] := fun hnil => hne (hnil ▸ hperm).eq_nil
        rw [split_sequence_of_nested hd hne hnested] at h ⊢
        rw [split_sequence_of_nested hd hotherNe hotherNested]
        exact ⟨hperm.length_eq.symm, h.perm hd hperm⟩
    · have hle := d.depth_le_one
      exact fitting_split_of_perm_bare hd (by omega) hpresent hbare hperm h

end Datatype

namespace BatchBuilder

open Datatype NativeValue

section

variable {b : BatchBuilder} {descriptor : Descriptor} {handle : Handle}
  {items others : List NativeValue}

theorem build_sequence_succeeds_iff (hreachable : b.registry.Reachable)
    (hhandle : b.registry.handle descriptor.component.text = .ok handle)
    (hextension : b.extension? descriptor.component.text = none) :
    (exists batch, b.build descriptor (.loose (.sequence items)) = .ok batch) ↔
      b.config.Admits handle.datatype
        (handle.datatype.split (.sequence items)).length ∧
        handle.datatype.AritiesFit ∧
        handle.datatype.Fitting b.config
          (handle.datatype.split (.sequence items)) := by
  rw [build_eq_build_many hhandle rfl,
    build_many_succeeds_iff hreachable hhandle hextension]
  apply and_congr_right
  intro _
  constructor
  · intro h
    rcases h with ⟨rows, hrows, harities, htotals⟩
    exact ⟨harities, rows, hrows, htotals⟩
  · intro h
    rcases h with ⟨harities, rows, hrows, htotals⟩
    exact ⟨rows, hrows, harities, htotals⟩

theorem build_sequence_of_perm (hreachable : b.registry.Reachable)
    (hhandle : b.registry.handle descriptor.component.text = .ok handle)
    (hextension : b.extension? descriptor.component.text = none)
    (hd : handle.datatype.IsElementwise)
    (hlevel : handle.datatype.depth = 0 ∨ Unmixed items)
    (hperm : items.Perm others)
    (h : exists batch, b.build descriptor (.loose (.sequence items)) =
      .ok batch) :
    exists batch, b.build descriptor (.loose (.sequence others)) =
      .ok batch := by
  rw [build_sequence_succeeds_iff hreachable hhandle hextension] at h ⊢
  rcases h with ⟨hadmits, harities, hfitting⟩
  rcases fitting_split_of_perm hd hlevel hperm hfitting with ⟨hlength, hothers⟩
  exact ⟨hlength ▸ hadmits, harities, hothers⟩

/--
The order of items does not decide whether they make a batch, if an instance is
a single element or no bare item stands beside a nested one.
-/
theorem acceptance_ignores_order (hreachable : b.registry.Reachable)
    (hhandle : b.registry.handle descriptor.component.text = .ok handle)
    (hextension : b.extension? descriptor.component.text = none)
    (hd : handle.datatype.IsElementwise)
    (hlevel : handle.datatype.depth = 0 ∨ Unmixed items)
    (hperm : items.Perm others) :
    (exists batch, b.build descriptor (.loose (.sequence items)) = .ok batch) ↔
      exists batch, b.build descriptor (.loose (.sequence others)) =
        .ok batch := by
  constructor
  · exact build_sequence_of_perm hreachable hhandle hextension hd hlevel hperm
  · have hback : handle.datatype.depth = 0 ∨ Unmixed others :=
      hlevel.imp_right (.perm hperm)
    exact build_sequence_of_perm hreachable hhandle hextension hd
      hback hperm.symm

end

namespace Sample

def bareBytes : List NativeValue := [.u64 1, .u64 2, .u64 3, .u64 4]

def nestedPairs : List NativeValue :=
  [.sequence [.u64 1, .u64 2], .null,
    .array ⟨⟨.u8, ([3, 4] : List UInt8)⟩, [2], rfl⟩]

theorem unmixed_bareBytes : Unmixed bareBytes := by
  left
  simp only [bareBytes, List.forall_mem_cons]
  exact ⟨rfl, rfl, rfl, rfl, nofun⟩

theorem unmixed_nestedPairs : Unmixed nestedPairs := by
  right
  simp only [nestedPairs, List.forall_mem_cons]
  exact ⟨fun _ => Nat.one_ne_zero, nofun, fun _ => Nat.one_ne_zero, nofun⟩

theorem exists_build_pairs :
    (exists batch, pairBuilder.build (.bare pairName)
      (.loose (.sequence bareBytes)) = .ok batch) ∧
      exists batch,
        pairBuilder.build (.bare pairName) (.loose (.sequence nestedPairs)) =
          .ok batch := by
  constructor
  · rw [build_eq_map_convert handle_pairBuilder rfl]
    exact ⟨_, rfl⟩
  · rw [build_eq_map_convert handle_pairBuilder rfl]
    exact ⟨_, rfl⟩

def tags : Datatype := Datatype.list "sample.Tags" .u8

def tagsName : ComponentName := ⟨"sample.components.Tags"⟩

def tagsBuilder : BatchBuilder where
  registry := (Registry.empty.register tagsName.text tags).2

theorem handle_tagsBuilder :
    tagsBuilder.registry.handle tagsName.text = .ok (.of tagsName tags) :=
  Registry.handle_register_empty
    (Registry.candidate_eq_ok_iff.mpr ⟨by decide, rfl, rfl⟩)

end Sample

open Sample in
theorem acceptance_ignores_order_pairs :
    (exists batch,
      pairBuilder.build (.bare pairName)
        (.loose (.sequence bareBytes.reverse)) = .ok batch) ∧
    exists batch,
      pairBuilder.build (.bare pairName)
        (.loose (.sequence nestedPairs.reverse)) = .ok batch := by
  constructor
  · exact (acceptance_ignores_order reachable_pairBuilder handle_pairBuilder rfl
      elementwise_pair (Or.inr unmixed_bareBytes) (List.reverse_perm _).symm).mp
      exists_build_pairs.1
  · exact (acceptance_ignores_order reachable_pairBuilder handle_pairBuilder rfl
      elementwise_pair (Or.inr unmixed_nestedPairs)
      (List.reverse_perm _).symm).mp exists_build_pairs.2

open Sample in
/--
Where bare and nested items are mixed, one order makes a batch and another does
not.
-/
theorem order_decides_mixed_items :
    List.Perm [.sequence [.u64 1], .u64 5]
      [NativeValue.u64 5, .sequence [.u64 1]] ∧
      tagsBuilder.build (.bare tagsName)
          (.loose (.sequence [.sequence [.u64 1], .u64 5])) =
        .ok ⟨.bare tagsName, tags.layout [.elements ⟨.u8, ([1] : List UInt8)⟩,
          .elements ⟨.u8, ([5] : List UInt8)⟩], false⟩ ∧
      tagsBuilder.build (.bare tagsName)
          (.loose (.sequence [.u64 5, .sequence [.u64 1]])) =
        .error (.conversion (.atIndex 0 .mixedNesting)) := by
  refine ⟨List.Perm.swap _ _ _, ?_, ?_⟩
  · rw [build_eq_map_convert handle_tagsBuilder rfl]
    rfl
  · rw [build_eq_map_convert handle_tagsBuilder rfl]
    rfl

end BatchBuilder
end Columnar
