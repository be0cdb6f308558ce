import Columnar.Proofs.Archetype.ReadBack
import Columnar.Proofs.Batch.Invariant
import Columnar.Proofs.Batch.Partition

/-!
# Archetypes cut into rows

The batches of an archetype are cut by the same lengths, each on its own, and
either all of them are or none is.  A batch has one instance for each value of
its field, so it is the fields that have to agree with the lengths.
-/

namespace Columnar
namespace Archetype

/-! ## All batches or none -/

theorem partitionAll_eq_ok_iff {lengths : List Nat} {batches : List Batch}
    {columns : List PartitionedBatch} :
    partitionAll lengths batches = .ok columns ↔
      List.Forall₂ (fun batch p => batch.partitioned lengths = .ok p)
        batches columns := by
  induction batches generalizing columns with
  | nil => simp [partitionAll, eq_comm]
  | cons batch rest ih =>
      rw [partitionAll, List.forall₂_cons_left_iff]
      cases hbatch : batch.partitioned lengths with
      | error e => simp
      | ok p =>
          simp only [map_eq_ok_iff, ih, Except.ok.injEq]
          constructor
          · intro h
            rcases h with ⟨others, hothers, rfl⟩
            exact ⟨p, others, rfl, hothers, rfl⟩
          · intro h
            rcases h with ⟨_, others, rfl, hothers, rfl⟩
            exact ⟨others, hothers, rfl⟩

theorem exists_partitionAll_iff {lengths : List Nat} {batches : List Batch} :
    (exists columns, partitionAll lengths batches = .ok columns) ↔
      forall batch, batch ∈ batches -> batch.DividedBy lengths := by
  simp only [partitionAll_eq_ok_iff, Batch.partitioned_eq_ok_iff,
    List.forall₂_and_left]
  constructor
  · intro h
    rcases h with ⟨_, hdivided, _⟩
    exact hdivided
  · intro h
    let cut : Batch -> PartitionedBatch := fun batch =>
      ⟨batch.descriptor, .list Batch.instanceLabel
        (Column.offsetsFrom 0 lengths) batch.column none⟩
    refine ⟨batches.map cut, h, ?_⟩
    rw [List.forall₂_map_right_iff, List.forall₂_same]
    intro _ _
    rfl

def FirstUncut (lengths : List Nat) (batches : List Batch)
    (e : PartitionError) : Prop :=
  exists earlier first later, batches = earlier ++ first :: later ∧
    (forall batch, batch ∈ earlier -> batch.DividedBy lengths) ∧
    first.partitioned lengths = .error e

theorem exists_firstUncut {lengths : List Nat} {batches : List Batch}
    (h : ¬ forall batch, batch ∈ batches -> batch.DividedBy lengths) :
    exists e, FirstUncut lengths batches e ∧
      partitionAll lengths batches = .error (.partition e) := by
  induction batches with
  | nil => exact absurd (fun _ => nofun) h
  | cons batch rest ih =>
      cases hbatch : batch.partitioned lengths with
      | error e =>
          refine ⟨e, ⟨[], batch, rest, rfl, fun _ => nofun, hbatch⟩, ?_⟩
          rw [partitionAll, hbatch]
      | ok p =>
          have hdivided := (Batch.partitioned_eq_ok_iff.mp hbatch).1
          have hrest : ¬ forall other, other ∈ rest ->
              other.DividedBy lengths := fun hall =>
            h (List.forall_mem_cons.mpr ⟨hdivided, hall⟩)
          rcases ih hrest with
            ⟨e, ⟨earlier, first, later, rfl, hearlier, hfirst⟩, herror⟩
          refine ⟨e, ⟨batch :: earlier, first, later, rfl, ?_, hfirst⟩, ?_⟩
          · exact List.forall_mem_cons.mpr ⟨hdivided, hearlier⟩
          · rw [partitionAll, hbatch, herror]
            rfl

end Archetype

/-! ## Batches and fields -/

theorem BatchBuilder.descriptor_and_length_of_build {b : BatchBuilder}
    {descriptor : Descriptor} {values : List NativeValue} {batch : Batch}
    (hreachable : b.registry.Reachable)
    (h : b.build descriptor (.many values) = .ok batch) :
    batch.descriptor = descriptor ∧ batch.length = values.length := by
  rcases exists_handle_of_build h with ⟨handle, hhandle⟩
  rcases (build_eq_ok_iff hreachable hhandle rfl).mp h with
    ⟨_, rows, hrows, _, hencode, hbatch⟩
  have hcolumn : batch.column.length = rows.length :=
    Datatype.length_of_encode (hreachable.validate_of_handle hhandle) hencode
  refine ⟨?_, hcolumn.trans (List.Forall₂.length_eq hrows).symm⟩
  rw [← hbatch]

namespace Archetype

section

variable {α : Type} [Archetype α] {value : α} {b : BatchBuilder}

/--
The batch is that of the field: in its slot, with an instance for each of its
values.
-/
def FieldOf.CarriedBy (f : FieldOf α) (value : α) (batch : Batch) : Prop :=
  batch.descriptor = f.descriptor ∧ batch.length = (f.values value).length

theorem FieldOf.carriedBy_of_build {f : FieldOf α}
    (hreachable : b.registry.Reachable) {part : List Batch}
    (h : f.build value b = .ok part) :
    List.Forall₂ (fun f batch => FieldOf.CarriedBy f value batch)
      (if f.isSet value then [f] else []) part := by
  rw [FieldOf.build, fieldBatch, slot_builtin f.builtin] at h
  rw [FieldOf.isSet]
  split at h
  · next hempty =>
      cases h
      rw [hempty]
      exact .nil
  · next hset =>
      rcases bind_eq_ok_iff.mp h with ⟨descriptor, hdescriptor, hrest⟩
      rcases bind_eq_ok_iff.mp hrest with ⟨batch, hbuild, hpart⟩
      cases hdescriptor
      cases hpart
      rcases BatchBuilder.descriptor_and_length_of_build hreachable hbuild with
        ⟨hdescriptor, hlength⟩
      rw [List.length_map] at hlength
      rw [Bool.eq_false_iff.mpr hset]
      exact .cons ⟨hdescriptor, hlength⟩ .nil

theorem FieldOf.carriedBy_of_parts (hreachable : b.registry.Reachable)
    {fs : List (FieldOf α)} {parts : List (List Batch)}
    (h : List.Forall₂ (fun f part => f.build value b = .ok part) fs parts) :
    List.Forall₂ (fun f batch => FieldOf.CarriedBy f value batch)
      (fs.filter fun f => f.isSet value) parts.flatten := by
  induction h with
  | nil => exact .nil
  | @cons f part _ _ hpart _ ih =>
      have hfield := carriedBy_of_build hreachable hpart
      rw [List.flatten_cons, List.filter_cons]
      split
      · next hset =>
          rw [if_pos hset] at hfield
          exact List.rel_append hfield ih
      · next hunset =>
          rw [if_neg hunset] at hfield
          exact List.rel_append hfield ih

theorem carriedBy_of_toBatches [OfFields α] (hreachable : b.registry.Reachable)
    {batches : List Batch} (h : toBatches value b = .ok batches) :
    List.Forall₂ (fun f batch => FieldOf.CarriedBy f value batch)
      ((OfFields.fields : List (FieldOf α)).filter fun f => f.isSet value)
        batches := by
  rcases OfFields.toBatches_eq_ok_iff.mp h with ⟨parts, hparts, rfl⟩
  exact FieldOf.carriedBy_of_parts hreachable hparts

/-! ## Columns -/

variable {lengths : List Nat}

theorem columns_of_toBatches {batches : List Batch}
    (h : toBatches value b = .ok batches) :
    columns value b lengths = partitionAll lengths batches := by
  rw [columns, h]
  rfl

theorem exists_columns_iff :
    (exists cut, columns value b lengths = .ok cut) ↔
      exists batches, toBatches value b = .ok batches ∧
        forall batch, batch ∈ batches -> batch.DividedBy lengths := by
  simp only [← exists_partitionAll_iff, columns, bind_eq_ok_iff]
  exact exists_comm.trans (exists_congr fun _ => exists_and_left)

theorem forall_dividedBy_iff {fs : List (FieldOf α)} {batches : List Batch}
    (h : List.Forall₂ (fun f batch => FieldOf.CarriedBy f value batch)
      fs batches) :
    (forall batch, batch ∈ batches -> batch.DividedBy lengths) ↔
      forall f, f ∈ fs ->
        lengths.sum = (f.values value).length ∧
          lengths.sum < Datatype.wordLimit := by
  induction h with
  | nil => exact iff_of_true nofun nofun
  | cons hcarried _ ih =>
      rw [List.forall_mem_cons, List.forall_mem_cons, ih, Batch.DividedBy,
        hcarried.2]

end

/--
A batch is cut exactly when the lengths make it up, and then into the next
instances for each length with nothing left over.  An archetype is cut exactly
when all its batches are, which is when the lengths make up each of its set
fields; otherwise the first batch that is not made up decides the error.  The
batches stand in the order of those fields.
-/
theorem columns_cut_all_or_none (lengths : List Nat) :
    (forall b : Batch,
      ((exists p, b.partitioned lengths = .ok p) ↔ b.DividedBy lengths) ∧
      forall p, b.partitioned lengths = .ok p -> b.CutInto lengths p) ∧
    (forall (α : Type) [Archetype α] (value : α) (b : BatchBuilder),
      ((exists cut, columns value b lengths = .ok cut) ↔
        exists batches, toBatches value b = .ok batches ∧
          forall batch, batch ∈ batches -> batch.DividedBy lengths) ∧
      forall batches, toBatches value b = .ok batches ->
        (forall cut, columns value b lengths = .ok cut ->
          List.Forall₂ (fun batch p => batch.CutInto lengths p) batches cut) ∧
        ((¬ forall batch, batch ∈ batches -> batch.DividedBy lengths) ->
          exists e, FirstUncut lengths batches e ∧
            columns value b lengths = .error (.partition e))) ∧
    (forall (α : Type) [Archetype α] [OfFields α] (value : α)
      (b : BatchBuilder),
      b.registry.Reachable ->
        ((exists cut, columns value b lengths = .ok cut) ↔
          (exists batches, toBatches value b = .ok batches) ∧
            forall f, f ∈ (OfFields.fields : List (FieldOf α)).filter
              (fun f => f.isSet value) ->
              lengths.sum = (f.values value).length ∧
                lengths.sum < Datatype.wordLimit) ∧
        forall batches, toBatches value b = .ok batches ->
          List.Forall₂ (fun f batch => f.CarriedBy value batch)
            ((OfFields.fields : List (FieldOf α)).filter fun f => f.isSet value)
              batches) := by
  refine ⟨?_, ?_, ?_⟩
  · intro b
    exact ⟨Batch.exists_partitioned_iff, fun _ => Batch.cutInto_of_partitioned⟩
  · intro α _ value b
    refine ⟨exists_columns_iff, ?_⟩
    intro batches hbatches
    rw [columns_of_toBatches hbatches]
    refine ⟨?_, exists_firstUncut⟩
    intro cut hcut
    exact (partitionAll_eq_ok_iff.mp hcut).imp fun _ _ =>
      Batch.cutInto_of_partitioned
  · intro α _ _ value b hreachable
    refine ⟨?_, fun _ => carriedBy_of_toBatches hreachable⟩
    rw [exists_columns_iff]
    constructor
    · intro h
      rcases h with ⟨batches, hbatches, hdivided⟩
      have hcarried := carriedBy_of_toBatches hreachable hbatches
      exact ⟨⟨batches, hbatches⟩, (forall_dividedBy_iff hcarried).mp hdivided⟩
    · intro h
      rcases h with ⟨⟨batches, hbatches⟩, hfields⟩
      have hcarried := carriedBy_of_toBatches hreachable hbatches
      exact ⟨batches, hbatches, (forall_dividedBy_iff hcarried).mpr hfields⟩

namespace Sample

open Archetypes

def repulsions : ForceManyBody where
  enabled := [⟨true⟩, ⟨false⟩, ⟨true⟩]
  strength := [⟨⟨0xc1f00000⟩⟩, ⟨⟨0x80000000⟩⟩, ⟨⟨0x40a00000⟩⟩]

end Sample

open Sample in
theorem columns_repulsions :
    exists batches cut, toBatches repulsions forceBuilder = .ok batches ∧
      columns repulsions forceBuilder [2, 0, 1] = .ok cut ∧
      List.Forall₂ (fun batch p => batch.CutInto [2, 0, 1] p) batches cut ∧
      ¬ exists short, columns repulsions forceBuilder [2, 0] = .ok short := by
  have hb : forceBuilder.registry.WithBuiltin :=
    Registry.Sample.withBuiltin_builtinRegistry
  rcases columns_cut_all_or_none [2, 0, 1] with ⟨_, hcuts, hfields⟩
  rcases columns_cut_all_or_none [2, 0] with ⟨_, _, hshort⟩
  rcases exists_toBatches hb rfl (fun _ _ => rfl) repulsions with
    ⟨batches, hbatches⟩
  have hcut : exists cut, columns repulsions forceBuilder [2, 0, 1] =
      .ok cut := by
    refine (hfields _ repulsions forceBuilder hb.reachable).1.mpr
      ⟨⟨batches, hbatches⟩, ?_⟩
    decide
  rcases hcut with ⟨cut, hcut⟩
  refine ⟨batches, cut, hbatches, hcut,
    ((hcuts _ _ _).2 batches hbatches).1 cut hcut, ?_⟩
  intro h
  rcases (hshort _ repulsions forceBuilder hb.reachable).1.mp h with
    ⟨_, hdivided⟩
  have hsum :=
    (hdivided enabledField
      (by simp [OfFields.fields, FieldOf.isSet, repulsions, enabledField])).1
  exact absurd hsum (by decide)

end Archetype
end Columnar
