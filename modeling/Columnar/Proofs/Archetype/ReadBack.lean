import Columnar.Proofs.Archetype.Fields
import Columnar.Proofs.Storable.Export

/-!
# Archetypes read back

A field that is set makes one batch, tagged with a descriptor no other field
has.  A batch is found by its descriptor alone, so neither the order of the
batches nor batches of other descriptors have any part in what is read.
-/

namespace Columnar
namespace Component

theorem Builtin.nonEmpty_eq {α : Type} [Component α] (h : Builtin α) :
    (Storable.datatype α).nonEmpty = false := by
  cases h <;> rfl

variable {α : Type} [Component α] [Storable.Faithful α]

theorem ofBatch_of_build {b : BatchBuilder} {descriptor : Descriptor}
    {handle : Handle} {values : List α} {batch : Batch}
    (hreachable : b.registry.Reachable)
    (hhandle : b.registry.handle descriptor.component.text = .ok handle)
    (hdatatype : handle.datatype = Storable.datatype α)
    (hextension : b.extension? descriptor.component.text = none)
    (h : b.build descriptor (.many (values.map Storable.toNative)) =
      .ok batch) :
    batch.descriptor = descriptor ∧ ofBatch α batch = .ok values := by
  rcases BatchBuilder.decode_of_build_many hreachable hhandle hextension h with
    ⟨_, hdescriptor, rows, hrows, hdecode⟩
  rw [hdatatype] at hrows hdecode
  rw [Storable.eq_map_instanceOf hrows] at hdecode
  exact ⟨hdescriptor, Storable.ofColumn_of_decode hdecode⟩

omit [Storable.Faithful α] in
theorem ofBatch_empty {batch : Batch}
    (h : batch.column = .empty (Storable.datatype α).columnType) :
    ofBatch α batch = .ok [] := by
  rw [ofBatch, h, Storable.ofColumn, Datatype.decode,
    if_pos (Column.type_empty _), Column.length_empty]
  rfl

end Component

namespace Archetype

namespace FieldOf

variable {α : Type} [Archetype α] {f : FieldOf α} {value : α} {b : BatchBuilder}

/-! ## Reading one field -/

theorem fills_iff {batch : Batch} :
    fills (Archetype.name α) f.name (Component.name f.component) batch = true ↔
      batch.descriptor = f.descriptor := by
  rcases batch with ⟨⟨archetype, field, ⟨component⟩⟩, column, nullable⟩
  simp [fills, FieldOf.descriptor, Descriptor.inSlot, Descriptor.bare,
    and_assoc]

def first? (f : FieldOf α) (batches : List Batch) : Option Batch :=
  batches.find? fun batch => batch.descriptor == f.descriptor

theorem read_eq (f : FieldOf α) (batches : List Batch) :
    f.read batches =
      match f.first? batches with
      | some batch => inContext f.name (Component.ofBatch f.component batch)
      | none => .ok [] := by
  have hfills : fills (Archetype.name α) f.name (Component.name f.component) =
      fun batch => batch.descriptor == f.descriptor := by
    funext batch
    rw [Bool.eq_iff_iff, fills_iff, beq_iff_eq]
  have hread : f.read batches =
      match batches.find?
          (fills (Archetype.name α) f.name (Component.name f.component)) with
      | some batch => inContext f.name (Component.ofBatch f.component batch)
      | none => .ok [] := rfl
  rw [hread, hfills, first?]

theorem of_first? {batches : List Batch} {batch : Batch}
    (h : f.first? batches = some batch) :
    batch ∈ batches ∧ batch.descriptor = f.descriptor :=
  ⟨List.mem_of_find?_eq_some h, by simpa using List.find?_some h⟩

theorem first?_eq_none_iff {batches : List Batch} :
    f.first? batches = none ↔
      forall batch, batch ∈ batches -> batch.descriptor ≠ f.descriptor := by
  simp [first?]

theorem read_eq_ok {batches : List Batch} {values : List f.component}
    (hread : forall batch, batch ∈ batches -> batch.descriptor = f.descriptor ->
      Component.ofBatch f.component batch = .ok values)
    (hset : values ≠ [] -> exists batch, batch ∈ batches ∧
      batch.descriptor = f.descriptor) :
    f.read batches = .ok values := by
  rw [read_eq]
  cases hfirst : f.first? batches with
  | some batch =>
      rcases of_first? hfirst with ⟨hbatch, hdescriptor⟩
      exact inContext_eq_ok_iff.mpr (hread batch hbatch hdescriptor)
  | none =>
      cases values with
      | nil => rfl
      | cons value rest =>
          rcases hset (List.cons_ne_nil _ _) with ⟨batch, hbatch, hdescriptor⟩
          exact absurd hdescriptor (first?_eq_none_iff.mp hfirst batch hbatch)

theorem first?_append_cons (f : FieldOf α) (earlier : List Batch)
    (first : Batch) (later : List Batch) :
    f.first? (earlier ++ first :: later) =
      f.first? (earlier ++ first ::
        later.filter fun batch => batch.descriptor != first.descriptor) := by
  rw [first?, first?, List.find?_append, List.find?_append, List.find?_cons,
    List.find?_cons]
  by_cases hfirst : first.descriptor = f.descriptor
  · simp only [hfirst, beq_self_eq_true]
  · have hlater :
      (later.filter fun batch => batch.descriptor != first.descriptor).find?
          (fun batch => batch.descriptor == f.descriptor) =
        later.find? fun batch => batch.descriptor == f.descriptor := by
      rw [List.find?_filter]
      congr 1
      funext batch
      by_cases hbatch : batch.descriptor = f.descriptor
      · simp [hbatch, Ne.symm hfirst]
      · simp [hbatch]
    rw [hlater]

/-! ## Building one field -/

/--
What the field makes of a value: nothing where it is unset, else a batch of its
own.
-/
inductive Makes (f : FieldOf α) (value : α) : List Batch -> Prop
  | unset : f.values value = [] -> Makes f value []
  | set {batch : Batch} :
      f.values value ≠ [] -> batch.descriptor = f.descriptor ->
      Component.ofBatch f.component batch = .ok (f.values value) ->
      Makes f value [batch]

def isSet (f : FieldOf α) (value : α) : Bool := !(f.values value).isEmpty

theorem map_descriptor_of_makes {fs : List (FieldOf α)}
    {parts : List (List Batch)}
    (h : List.Forall₂ (fun f part => f.Makes value part) fs parts) :
    parts.flatten.map Batch.descriptor =
      (fs.filter fun f => f.isSet value).map FieldOf.descriptor := by
  induction h with
  | nil => rfl
  | cons hpart _ ih =>
      rw [List.flatten_cons, List.map_append, ih]
      cases hpart with
      | unset hunset => simp [isSet, hunset]
      | set hset hdescriptor _ => simp [isSet, hset, hdescriptor]

theorem exists_field_of_makes {fs : List (FieldOf α)}
    {parts : List (List Batch)}
    (h : List.Forall₂ (fun f part => f.Makes value part) fs parts)
    {batch : Batch} (hbatch : batch ∈ parts.flatten) :
    exists f, f ∈ fs ∧ batch.descriptor = f.descriptor ∧
      Component.ofBatch f.component batch = .ok (f.values value) := by
  induction h with
  | nil => cases hbatch
  | @cons f part fs _ hpart _ ih =>
      rw [List.flatten_cons, List.mem_append] at hbatch
      rcases hbatch with hbatch | hbatch
      · cases hpart with
        | unset _ => cases hbatch
        | set _ hdescriptor hread =>
            rw [List.mem_singleton.mp hbatch]
            exact ⟨f, List.mem_cons_self, hdescriptor, hread⟩
      · rcases ih hbatch with ⟨g, hg, hgbatch⟩
        exact ⟨g, List.mem_cons_of_mem _ hg, hgbatch⟩

theorem handle_eq (f : FieldOf α) (hb : b.registry.WithBuiltin) :
    b.registry.handle f.descriptor.component.text =
      .ok (Registry.handleOf (Component.definition f.component)) :=
  hb.handle_eq f.builtin

theorem makes_of_build (hb : b.registry.WithBuiltin)
    (hextension : b.extension? (Component.name f.component) = none)
    {part : List Batch} (h : f.build value b = .ok part) :
    f.Makes value part := by
  rw [build, fieldBatch] at h
  split at h
  · next hempty =>
      cases h
      exact .unset (List.isEmpty_iff.mp hempty)
  · next hset =>
      rw [slot_builtin f.builtin] at h
      rcases bind_eq_ok_iff.mp h with ⟨descriptor, hdescriptor, hrest⟩
      cases hdescriptor
      rcases bind_eq_ok_iff.mp hrest with ⟨batch, hbuild, hpart⟩
      cases hpart
      rcases (Storable.Builtin.component f.builtin).faithful with ⟨hfaithful⟩
      rcases Component.ofBatch_of_build hb.reachable (f.handle_eq hb) rfl
        hextension hbuild with ⟨hdescriptor, hread⟩
      exact .set (fun hnil => hset (List.isEmpty_iff.mpr hnil))
        hdescriptor hread

theorem exists_build (f : FieldOf α) (hb : b.registry.WithBuiltin)
    (hconfig : b.config = {})
    (hextension : b.extension? (Component.name f.component) = none)
    (value : α) :
    exists part, f.build value b = .ok part := by
  rw [build, fieldBatch]
  split
  · exact ⟨[], rfl⟩
  · rcases (Storable.Builtin.component f.builtin).faithful with ⟨hfaithful⟩
    have hconvert : b.convert f.descriptor.component.text
          (Registry.handleOf (Component.definition f.component)).datatype
          ((f.values value).map Storable.toNative) =
        BatchBuilder.converted
          (Storable.toColumn f.component (f.values value)) :=
      Component.convert_natives f.builtin.nonEmpty_eq hconfig
        (BatchBuilder.unextended_of_none hextension) (f.values value)
    have hbuild : b.build f.descriptor
        (.many ((f.values value).map Storable.toNative)) = _ :=
      BatchBuilder.build_eq_map_convert (f.handle_eq hb) rfl
    rw [hconvert, Storable.toColumn_eq] at hbuild
    rw [slot_builtin f.builtin]
    exact ⟨_, bind_eq_ok_iff.mpr ⟨_, rfl, bind_eq_ok_iff.mpr ⟨_, hbuild, rfl⟩⟩⟩

theorem exists_parts (hb : b.registry.WithBuiltin) (hconfig : b.config = {})
    {fs : List (FieldOf α)}
    (hextension : forall f, f ∈ fs ->
      b.extension? (Component.name f.component) = none)
    (value : α) :
    exists parts,
      List.Forall₂ (fun f part => f.build value b = .ok part) fs parts := by
  rw [exists_forall₂_iff]
  intro f hf
  exact f.exists_build hb hconfig (hextension f hf) value

def cleared (f : FieldOf α) : Batch where
  descriptor := f.descriptor
  column := .empty (Storable.datatype f.component).columnType
  nullable := (Storable.datatype f.component).nullable

theorem emptyBatch_descriptor (f : FieldOf α) (hb : b.registry.WithBuiltin) :
    b.emptyBatch f.descriptor = .ok f.cleared := by
  rw [BatchBuilder.emptyBatch,
    BatchBuilder.handle_eq_ok_iff.mpr (f.handle_eq hb)]
  rfl

theorem emptyBatches_descriptors (hb : b.registry.WithBuiltin)
    (fs : List (FieldOf α)) :
    emptyBatches b (fs.map FieldOf.descriptor) =
      .ok (fs.map FieldOf.cleared) := by
  induction fs with
  | nil => rfl
  | cons f rest ih =>
      rw [List.map_cons, emptyBatches, f.emptyBatch_descriptor hb, ih]
      rfl

end FieldOf

/-! ## All fields -/

section

variable {α : Type} [Archetype α] [OfFields α] {value : α} {b : BatchBuilder}

open OfFields (fields unset)

def descriptors (α : Type) [Archetype α] [OfFields α] : List Descriptor :=
  (fields (α := α)).map FieldOf.descriptor

theorem eq_of_descriptor_eq {f g : FieldOf α} (hf : f ∈ fields)
    (hg : g ∈ fields) (h : f.descriptor = g.descriptor) : f = g := by
  have hname : some f.name = some g.name := congrArg Descriptor.field h
  exact List.inj_on_of_nodup_map OfFields.nodup_names hf hg
    (Option.some.inj hname)

theorem ofBatches_eq_ok {batches : List Batch}
    (hread : forall f, f ∈ fields -> forall batch, batch ∈ batches ->
      batch.descriptor = f.descriptor ->
        Component.ofBatch f.component batch = .ok (f.values value))
    (hset : forall f, f ∈ fields -> f.values value ≠ [] ->
      exists batch, batch ∈ batches ∧ batch.descriptor = f.descriptor) :
    ofBatches batches = .ok value := by
  rw [OfFields.ofBatches_eq_ok_iff]
  intro f hf
  exact f.read_eq_ok (hread f hf) (hset f hf)

theorem exists_toBatches (hb : b.registry.WithBuiltin) (hconfig : b.config = {})
    (hextension : forall f : FieldOf α, f ∈ fields ->
      b.extension? (Component.name f.component) = none) (value : α) :
    exists batches, toBatches value b = .ok batches := by
  rcases FieldOf.exists_parts hb hconfig hextension value with ⟨parts, hparts⟩
  exact ⟨_, OfFields.toBatches_eq_ok_iff.mpr ⟨parts, hparts, rfl⟩⟩

theorem exists_parts_of_toBatches (hb : b.registry.WithBuiltin)
    (hextension : forall f : FieldOf α, f ∈ fields ->
      b.extension? (Component.name f.component) = none)
    {batches : List Batch} (h : toBatches value b = .ok batches) :
    exists parts, List.Forall₂ (fun f part => f.Makes value part) fields parts ∧
      batches = parts.flatten := by
  rcases OfFields.toBatches_eq_ok_iff.mp h with ⟨parts, hparts, rfl⟩
  refine ⟨parts, ?_, rfl⟩
  exact ((List.forall₂_and_left _ _).mpr ⟨hextension, hparts⟩).imp
    fun _ _ hpart => FieldOf.makes_of_build hb hpart.1 hpart.2

/-- Whatever the order and whatever stands between, the fields are found. -/
theorem ofBatches_of_makes {parts : List (List Batch)}
    {foreign all : List Batch}
    (hparts : List.Forall₂ (fun f part => f.Makes value part) fields parts)
    (hforeign : forall batch, batch ∈ foreign ->
      batch.descriptor ∉ descriptors α)
    (hall : all.Perm (parts.flatten ++ foreign)) :
    ofBatches all = .ok value := by
  apply ofBatches_eq_ok
  · intro f hf batch hbatch hdescriptor
    rcases List.mem_append.mp (hall.mem_iff.mp hbatch) with hbatch | hbatch
    · rcases FieldOf.exists_field_of_makes hparts hbatch with
        ⟨g, hg, hgdescriptor, hread⟩
      rw [eq_of_descriptor_eq hf hg (hdescriptor.symm.trans hgdescriptor)]
      exact hread
    · have hmem : batch.descriptor ∈ descriptors α := by
        rw [hdescriptor]
        exact List.mem_map_of_mem hf
      exact absurd hmem (hforeign batch hbatch)
  · intro f hf hset
    have hmem : f.descriptor ∈ parts.flatten.map Batch.descriptor := by
      rw [FieldOf.map_descriptor_of_makes hparts]
      apply List.mem_map_of_mem
      rw [List.mem_filter]
      exact ⟨hf, by simp [FieldOf.isSet, hset]⟩
    rcases List.mem_map.mp hmem with ⟨batch, hbatch, hdescriptor⟩
    exact ⟨batch, hall.mem_iff.mpr (List.mem_append_left _ hbatch), hdescriptor⟩

/-! ## Clearing -/

theorem cleared_eq (hb : b.registry.WithBuiltin) :
    cleared α b = .ok ((fields (α := α)).map FieldOf.cleared) := by
  rw [cleared, OfFields.slots_eq]
  exact FieldOf.emptyBatches_descriptors hb fields

theorem ofBatches_cleared :
    ofBatches ((fields (α := α)).map FieldOf.cleared) = .ok (unset : α) := by
  apply ofBatches_eq_ok
  · intro f hf batch hbatch hdescriptor
    rcases List.mem_map.mp hbatch with ⟨g, hg, rfl⟩
    rw [eq_of_descriptor_eq hf hg hdescriptor.symm, OfFields.values_unset g hg]
    exact Component.ofBatch_empty rfl
  · intro f hf hset
    exact absurd (OfFields.values_unset f hf) hset

/-! ## The first batch of a field -/

theorem ofBatch_of_ofBatches {batches : List Batch}
    (h : ofBatches batches = .ok value) {f : FieldOf α} (hf : f ∈ fields)
    {first : Batch} (hfirst : f.first? batches = some first) :
    Component.ofBatch f.component first = .ok (f.values value) := by
  have hread := OfFields.ofBatches_eq_ok_iff.mp h f hf
  rw [f.read_eq, hfirst] at hread
  exact inContext_eq_ok_iff.mp hread

/--
What an archetype makes of a value carries the descriptors of the fields that
are set, and is read as that value in any order and among batches of any other
descriptors.  The batches that clear the fields are read as the value without
anything set.  Of several batches of one field the first counts alone.
-/
theorem reads_back_among_foreign (hb : b.registry.WithBuiltin)
    (hextension : forall f : FieldOf α, f ∈ fields ->
      b.extension? (Component.name f.component) = none) :
    slots α = .ok (descriptors α) ∧
    (forall (value : α) (batches : List Batch), toBatches value b =
      .ok batches ->
      batches.map Batch.descriptor =
          (fields.filter fun f => f.isSet value).map FieldOf.descriptor ∧
        forall foreign all : List Batch,
          (forall batch, batch ∈ foreign -> batch.descriptor ∉ descriptors α) ->
            all.Perm (batches ++ foreign) -> ofBatches all = .ok value) ∧
    (exists batches, cleared α b = .ok batches ∧
      batches.map Batch.descriptor = descriptors α ∧
      (forall batch, batch ∈ batches -> batch.length = 0) ∧
      ofBatches batches = .ok (unset : α)) ∧
    (forall (earlier later : List Batch) (first : Batch),
      (ofBatches (earlier ++ first :: later) : Except DecodeError α) =
        ofBatches (earlier ++ first ::
          later.filter fun batch => batch.descriptor != first.descriptor)) ∧
    (forall (batches : List Batch) (value : α), ofBatches batches = .ok value ->
      forall f : FieldOf α, f ∈ fields ->
        forall first, f.first? batches = some first ->
        Component.ofBatch f.component first = .ok (f.values value)) := by
  refine ⟨OfFields.slots_eq, ?_, ?_, ?_, ?_⟩
  · intro value batches h
    rcases exists_parts_of_toBatches hb hextension h with ⟨parts, hparts, rfl⟩
    refine ⟨FieldOf.map_descriptor_of_makes hparts, ?_⟩
    intro foreign all hforeign hall
    exact ofBatches_of_makes hparts hforeign hall
  · refine ⟨_, cleared_eq hb, ?_, ?_, ofBatches_cleared⟩
    · rw [List.map_map]
      rfl
    · intro batch hbatch
      rcases List.mem_map.mp hbatch with ⟨f, _, rfl⟩
      exact Column.length_empty _
  · intro earlier later first
    apply OfFields.ofBatches_congr
    intro f _
    rw [f.read_eq, f.read_eq, f.first?_append_cons]
  · intro batches value h f hf first hfirst
    exact ofBatch_of_ofBatches h hf hfirst

end

namespace Sample

open Archetypes

def forceBuilder : BatchBuilder where
  registry := Registry.Sample.builtinRegistry

def repulsion : ForceManyBody where
  strength := [⟨⟨0xc1f00000⟩⟩, ⟨⟨0x80000000⟩⟩]

end Sample

open Sample in
theorem reads_back_repulsion :
    exists batches, toBatches repulsion forceBuilder = .ok batches ∧
      batches.map Batch.descriptor = [strengthField.descriptor] ∧
      ofBatches (distanceField.cleared :: batches) = .ok repulsion := by
  -- A batch that clears another archetype stands in front.
  have hb : forceBuilder.registry.WithBuiltin :=
    Registry.Sample.withBuiltin_builtinRegistry
  rcases exists_toBatches hb rfl (fun _ _ => rfl) repulsion with
    ⟨batches, hbatches⟩
  rcases reads_back_among_foreign hb
    (fun (_ : FieldOf Archetypes.ForceManyBody) _ => rfl) with ⟨_, hbuilt, _⟩
  rcases hbuilt repulsion batches hbatches with ⟨hdescriptors, hread⟩
  refine ⟨batches, hbatches, hdescriptors,
    hread [distanceField.cleared] _ ?_ ?_⟩
  · rw [List.forall_mem_singleton]
    decide
  · exact (List.perm_append_singleton _ batches).symm

end Archetype
end Columnar
