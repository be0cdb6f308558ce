import Columnar.Builtin.Archetypes
import Columnar.Proofs.Batch.Building
import Columnar.Proofs.Codec.Described

/-!
# What holds of every batch

A batch is converted, adopted or made empty, on its own or for a component or
the fields of an archetype.  Each way checks other things, and all of them end
with a column of the type and the nulls of the registered datatype and with a
field from which the descriptor can be read back.
-/

namespace Columnar

namespace BatchBuilder

section

variable {b : BatchBuilder} {component : String} {d : Datatype}
  {descriptor : Descriptor} {handle : Handle} {column : Column} {batch : Batch}
  {input : BatchInput}

theorem adopt_eq_ok_iff {adopted : Column} :
    b.adopt component d column = .ok adopted ↔
      b.config.Admits d column.length ∧ d.Describes column ∧
        column = adopted := by
  rw [adopt, bind_eq_ok_iff]
  constructor
  · intro h
    rcases h with ⟨_, hsize, h⟩
    split at h
    · cases h
    · next htype =>
        split at h
        · cases h
        · next hnulls =>
            cases h
            refine ⟨checkSize_eq_ok_iff.mp hsize, ⟨not_not.mp htype, ?_⟩, rfl⟩
            intro hnullable
            apply Column.nullCount_eq_zero_iff.mp
            exact Nat.eq_zero_of_not_pos fun hpos => hnulls ⟨hnullable, hpos⟩
  · intro h
    rcases h with ⟨hsize, hdescribes, rfl⟩
    refine ⟨(), checkSize_eq_ok_iff.mpr hsize, ?_⟩
    have hnulls : ¬ (d.nullable = false ∧ 0 < column.nullCount) := by
      intro hnull
      rw [Column.nullCount_eq_zero_iff.mpr (hdescribes.present hnull.1)]
        at hnull
      exact Nat.lt_irrefl 0 hnull.2
    rw [if_neg (not_not.mpr hdescribes.type), if_neg hnulls]

theorem build_column_eq_ok_iff
    (hhandle : b.registry.handle descriptor.component.text = .ok handle) :
    b.build descriptor (.column column) = .ok batch ↔
      b.config.Admits handle.datatype column.length ∧
        handle.datatype.Describes column ∧
        ⟨descriptor, column, handle.datatype.nullable⟩ = batch := by
  have hbuild : b.build descriptor (.column column) =
      (b.adopt descriptor.component.text handle.datatype column).map
        fun column => ⟨descriptor, column, handle.datatype.nullable⟩ := by
    rw [build, handle_eq_ok_iff.mpr hhandle]
    rfl
  rw [hbuild, map_eq_ok_iff]
  simp only [adopt_eq_ok_iff]
  constructor
  · intro h
    rcases h with ⟨_, ⟨hsize, hdescribes, rfl⟩, hbatch⟩
    exact ⟨hsize, hdescribes, hbatch⟩
  · intro h
    rcases h with ⟨hsize, hdescribes, hbatch⟩
    exact ⟨column, ⟨hsize, hdescribes, rfl⟩, hbatch⟩

theorem exists_handle_of_build (h : b.build descriptor input = .ok batch) :
    exists handle, b.registry.handle descriptor.component.text =
      .ok handle := by
  rw [build, bind_eq_ok_iff] at h
  rcases h with ⟨handle, hhandle, _⟩
  exact ⟨handle, handle_eq_ok_iff.mp hhandle⟩

theorem of_build_eq_ok (hreachable : b.registry.Reachable)
    (hhandle : b.registry.handle descriptor.component.text = .ok handle)
    (h : b.build descriptor input = .ok batch) :
    b.config.Admits handle.datatype batch.length ∧
      handle.datatype.Describes batch.column ∧
      ⟨descriptor, batch.column, handle.datatype.nullable⟩ = batch := by
  cases hvalues : input.values? handle.datatype with
  | some values =>
      have hvalid := hreachable.validate_of_handle hhandle
      rcases (build_eq_ok_iff hreachable hhandle hvalues).mp h with
        ⟨hsize, rows, hrows, _, hencode, hbatch⟩
      have hlength : batch.length = values.length :=
        (Datatype.length_of_encode hvalid hencode).trans
          (List.Forall₂.length_eq hrows).symm
      rw [hlength]
      exact ⟨hsize, Datatype.describes_of_encode hvalid hencode, hbatch⟩
  | none =>
      cases input with
      | column column =>
          rcases (build_column_eq_ok_iff hhandle).mp h with
            ⟨hsize, hdescribes, rfl⟩
          exact ⟨hsize, hdescribes, rfl⟩
      | single value => cases hvalues
      | many values => cases hvalues
      | loose value => cases hvalues

theorem exists_of_emptyBatch (h : b.emptyBatch descriptor = .ok batch) :
    exists handle, b.registry.handle descriptor.component.text = .ok handle ∧
      ⟨descriptor, .empty handle.datatype.columnType,
        handle.datatype.nullable⟩ = batch := by
  rw [emptyBatch, bind_eq_ok_iff] at h
  rcases h with ⟨handle, hhandle, hbatch⟩
  exact ⟨handle, handle_eq_ok_iff.mp hhandle, Except.ok.inj hbatch⟩

end

end BatchBuilder

/-! ## Ways to a batch -/

/-- The builder makes the batch, of an input or of nothing. -/
def BatchBuilder.Makes (b : BatchBuilder) (batch : Batch) : Prop :=
  exists descriptor, (exists input, b.build descriptor input = .ok batch) ∨
    b.emptyBatch descriptor = .ok batch

namespace Archetype

class FromBuilder (α : Type) [Archetype α] : Prop where
  makes : forall (value : α) (b : BatchBuilder) (batches : List Batch),
    toBatches value b = .ok batches -> forall batch, batch ∈ batches ->
    b.Makes batch

theorem makes_of_mem_fieldBatch {component : Type} [Component component]
    {archetype field : String} {values : List component} {b : BatchBuilder}
    {batches : List Batch} {batch : Batch}
    (h : fieldBatch archetype field values b = .ok batches)
    (hbatch : batch ∈ batches) :
    b.Makes batch := by
  rw [fieldBatch] at h
  split at h
  · cases h
    cases hbatch
  · rcases bind_eq_ok_iff.mp h with ⟨descriptor, _, hrest⟩
    rcases bind_eq_ok_iff.mp hrest with ⟨built, hbuild, hbuilt⟩
    cases hbuilt
    rw [List.mem_singleton.mp hbatch]
    exact ⟨descriptor, Or.inl ⟨_, hbuild⟩⟩

theorem makes_of_mem_emptyBatches {b : BatchBuilder}
    {descriptors : List Descriptor} {batches : List Batch} {batch : Batch}
    (h : emptyBatches b descriptors = .ok batches) (hbatch : batch ∈ batches) :
    b.Makes batch := by
  induction descriptors generalizing batches with
  | nil =>
      cases h
      cases hbatch
  | cons descriptor rest ih =>
      rcases bind_eq_ok_iff.mp h with ⟨first, hfirst, hrest⟩
      rcases bind_eq_ok_iff.mp hrest with ⟨others, hothers, hall⟩
      cases hall
      rcases List.mem_cons.mp hbatch with rfl | hmem
      · exact ⟨descriptor, Or.inr hfirst⟩
      · exact ih hothers hmem

open Archetypes in
instance : FromBuilder ForceManyBody where
  makes := by
    intro value b batches h batch hbatch
    rcases bind_eq_ok_iff.mp h with ⟨enabled, henabled, hrest⟩
    rcases bind_eq_ok_iff.mp hrest with ⟨strength, hstrength, hall⟩
    cases hall
    rcases List.mem_append.mp hbatch with hmem | hmem
    · exact makes_of_mem_fieldBatch henabled hmem
    · exact makes_of_mem_fieldBatch hstrength hmem

open Archetypes in
instance : FromBuilder NearClipPlane where
  makes := by
    intro value b batches h batch hbatch
    exact makes_of_mem_fieldBatch h hbatch

end Archetype

namespace Batch

/--
The batches that can be had with the registry, by whatever builder uses it.
-/
inductive Obtained (r : Registry) : Batch -> Prop
  | build {b : BatchBuilder} {descriptor : Descriptor} {input : BatchInput}
      {batch : Batch} (hr : b.registry = r)
      (h : b.build descriptor input = .ok batch) : Obtained r batch
  | emptyBatch {b : BatchBuilder} {descriptor : Descriptor} {batch : Batch}
      (hr : b.registry = r) (h : b.emptyBatch descriptor = .ok batch) :
      Obtained r batch
  | component {α : Type} [Component α] {values : List α} {b : BatchBuilder}
      {batch : Batch} (hr : b.registry = r)
      (h : Component.toBatch α values b = .ok batch) : Obtained r batch
  | archetype {α : Type} [Archetype α] [Archetype.FromBuilder α] {value : α}
      {b : BatchBuilder} {batches : List Batch} {batch : Batch}
      (hr : b.registry = r) (h : Archetype.toBatches value b = .ok batches)
      (hbatch : batch ∈ batches) :
      Obtained r batch
  | cleared {α : Type} [Archetype α] {b : BatchBuilder} {batches : List Batch}
      {batch : Batch} (hr : b.registry = r)
      (h : Archetype.cleared α b = .ok batches) (hbatch : batch ∈ batches) :
      Obtained r batch

theorem Obtained.exists_makes {r : Registry} {batch : Batch}
    (h : Obtained r batch) :
    exists b : BatchBuilder, b.registry = r ∧ b.Makes batch := by
  cases h with
  | build hr h => exact ⟨_, hr, _, Or.inl ⟨_, h⟩⟩
  | emptyBatch hr h => exact ⟨_, hr, _, Or.inr h⟩
  | component hr h =>
      rcases bind_eq_ok_iff.mp h with ⟨descriptor, _, hbuild⟩
      exact ⟨_, hr, descriptor, Or.inl ⟨_, hbuild⟩⟩
  | archetype hr h hbatch =>
      exact ⟨_, hr, Archetype.FromBuilder.makes _ _ _ h _ hbatch⟩
  | cleared hr h hbatch =>
      rcases bind_eq_ok_iff.mp h with ⟨descriptors, _, hempty⟩
      exact ⟨_, hr, Archetype.makes_of_mem_emptyBatches hempty hbatch⟩

/-! ## What travels with a batch -/

def describedBy (label : Label) : Descriptor where
  archetype := label.metadata.lookup archetypeKey
  field := label.metadata.lookup archetypeFieldKey
  component := ⟨label.name⟩

/--
The field of the batch tells its type, its nulls and its descriptor, and nothing
twice.
-/
structure FieldTells (d : Datatype) (batch : Batch) : Prop where
  type : batch.field.type = d.columnType
  nullable : batch.field.label.nullable = d.nullable
  descriptor : describedBy batch.field.label = batch.descriptor
  component : batch.field.label.metadata.lookup componentKey =
    some batch.descriptor.component.text
  archetype : batch.field.label.metadata.lookup archetypeKey =
    batch.descriptor.archetype
  archetypeField : batch.field.label.metadata.lookup archetypeFieldKey =
    batch.descriptor.field
  keys : (batch.field.label.metadata.map Prod.fst).Nodup

theorem fieldTells {d : Datatype} {batch : Batch}
    (htype : batch.column.type = d.columnType)
    (hnullable : batch.nullable = d.nullable) : batch.FieldTells d := by
  rcases batch with ⟨⟨archetype, field, component⟩, column, nullable⟩
  refine ⟨htype, hnullable, ?_, rfl, ?_, ?_, ?_⟩
  · cases archetype <;> cases field <;> rfl
  · cases archetype <;> cases field <;> rfl
  · cases archetype <;> cases field <;> rfl
  · have hkeys : [componentKey, archetypeKey, archetypeFieldKey].Nodup := by
      decide
    cases archetype <;> cases field <;>
      exact hkeys.sublist (by simp [Batch.field])

/-! ## The invariant -/

/--
However a batch has been obtained, its component is registered, its column has
the type and the nulls of the registered datatype, and its field tells both and
the descriptor.  A batch that was built is of an admitted length, too.
-/
theorem invariant {r : Registry} (hr : r.Reachable) :
    (forall batch, Obtained r batch ->
      exists handle, r.handle batch.descriptor.component.text = .ok handle ∧
        handle.datatype.Describes batch.column ∧
          batch.FieldTells handle.datatype) ∧
    (forall (b : BatchBuilder) (descriptor : Descriptor) (input : BatchInput)
      (batch : Batch),
      b.registry = r -> b.build descriptor input = .ok batch ->
        batch.descriptor = descriptor ∧
          exists handle, r.handle descriptor.component.text = .ok handle ∧
            b.config.Admits handle.datatype batch.length) := by
  constructor
  · intro batch hbatch
    rcases hbatch.exists_makes with
      ⟨b, rfl, descriptor, ⟨input, hbuild⟩ | hempty⟩
    · rcases BatchBuilder.exists_handle_of_build hbuild with ⟨handle, hhandle⟩
      rcases BatchBuilder.of_build_eq_ok hr hhandle hbuild with
        ⟨_, hdescribes, hbatch⟩
      rw [← hbatch]
      exact ⟨handle, hhandle, hdescribes, fieldTells hdescribes.type rfl⟩
    · rcases BatchBuilder.exists_of_emptyBatch hempty with
        ⟨handle, hhandle, rfl⟩
      have hdescribes := handle.datatype.describes_empty
      exact ⟨handle, hhandle, hdescribes, fieldTells hdescribes.type rfl⟩
  · intro b descriptor input batch hregistry hbuild
    cases hregistry
    rcases BatchBuilder.exists_handle_of_build hbuild with ⟨handle, hhandle⟩
    rcases BatchBuilder.of_build_eq_ok hr hhandle hbuild with ⟨hsize, _, hbatch⟩
    exact ⟨(congrArg Batch.descriptor hbatch).symm, handle, hhandle, hsize⟩

open BatchBuilder.Sample Registry.Sample in
theorem invariant_fastPose :
    exists batch,
      poseBuilder.build poseDescriptor (.single (poseValue "Fast")) =
        .ok batch ∧
      batch.length ≤ 4 ∧ describedBy batch.field.label = poseDescriptor := by
  rcases invariant reachable_poseRegistry with ⟨hobtained, hbuilt⟩
  rcases hobtained _ (.build rfl build_fastPose) with ⟨_, _, _, hfield⟩
  rcases hbuilt poseBuilder _ _ _ rfl build_fastPose with ⟨_, _, _, hsize⟩
  exact ⟨_, build_fastPose, hsize.within 4 rfl, hfield.descriptor⟩

end Batch
end Columnar
