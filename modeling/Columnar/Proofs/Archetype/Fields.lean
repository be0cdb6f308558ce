import Columnar.Builtin.Archetypes
import Columnar.Proofs.Registry.Builtin

/-!
# Archetypes made of fields

What an archetype does with batches it does field by field, and a field is a
name, a component and the values it holds.  The built-in archetypes have no
other part.
-/

namespace Columnar
namespace Archetype

/-- A field of an archetype, which holds values of a built-in component. -/
structure FieldOf (α : Type) where
  component : Type
  [instComponent : Component component]
  builtin : Component.Builtin component
  name : String
  values : α -> List component

attribute [instance] FieldOf.instComponent

namespace FieldOf

variable {α : Type} [Archetype α]

def descriptor (f : FieldOf α) : Descriptor :=
  (Descriptor.bare ⟨Component.name f.component⟩).inSlot
    (Archetype.name α) f.name

def read (f : FieldOf α) (batches : List Batch) :
    Except DecodeError (List f.component) :=
  fieldValues f.component (Archetype.name α) f.name batches

def build (f : FieldOf α) (value : α) (b : BatchBuilder) :
    Except BatchError (List Batch) :=
  fieldBatch (Archetype.name α) f.name (f.values value) b

end FieldOf

/-- The archetype has these fields, and its batches are theirs. -/
class OfFields (α : Type) [Archetype α] where
  fields : List (FieldOf α)
  /-- The value without anything set. -/
  unset : α
  nodup_names : (fields.map FieldOf.name).Nodup
  slots_eq : slots α = .ok (fields.map FieldOf.descriptor)
  values_unset : forall f, f ∈ fields -> f.values unset = []
  toBatches_eq_ok_iff : forall {value : α} {b : BatchBuilder}
    {batches : List Batch},
    toBatches value b = .ok batches ↔ exists parts,
      List.Forall₂ (fun f part => f.build value b = .ok part) fields parts ∧
        batches = parts.flatten
  ofBatches_eq_ok_iff : forall {batches : List Batch} {value : α},
    ofBatches batches = .ok value ↔ forall f, f ∈ fields ->
    f.read batches = .ok (f.values value)
  ofBatches_congr : forall {batches others : List Batch},
    (forall f, f ∈ fields -> f.read batches = f.read others) ->
      (ofBatches batches : Except DecodeError α) = ofBatches others

/-! ## The built-in archetypes -/

theorem slot_builtin {component : Type} [Component component]
    (h : Component.Builtin component) (archetype field : String) :
    slot component archetype field =
      .ok ((Descriptor.bare ⟨Component.name component⟩).inSlot
        archetype field) := by
  rw [slot, Registry.descriptor_builtin h]
  rfl

open Archetypes

def enabledField : FieldOf ForceManyBody where
  component := Components.Enabled
  builtin := .enabled
  name := "enabled"
  values value := value.enabled

def strengthField : FieldOf ForceManyBody where
  component := Components.ForceStrength
  builtin := .forceStrength
  name := "strength"
  values value := value.strength

instance : OfFields ForceManyBody where
  fields := [enabledField, strengthField]
  unset := {}
  nodup_names := by decide
  slots_eq := by
    show (do
      let enabled <- slot Components.Enabled _ _
      let strength <- slot Components.ForceStrength _ _
      return [enabled, strength]) = _
    rw [slot_builtin .enabled, slot_builtin .forceStrength]
    rfl
  values_unset := by
    rw [List.forall_mem_cons, List.forall_mem_singleton]
    exact ⟨rfl, rfl⟩
  toBatches_eq_ok_iff := by
    intro value b batches
    constructor
    · intro h
      rcases bind_eq_ok_iff.mp h with ⟨enabled, henabled, hrest⟩
      rcases bind_eq_ok_iff.mp hrest with ⟨strength, hstrength, hall⟩
      cases hall
      exact ⟨[enabled, strength],
        .cons henabled (.cons hstrength .nil), by simp⟩
    · intro h
      rcases h with ⟨parts, hparts, rfl⟩
      rcases List.forall₂_cons_left_iff.mp hparts with
        ⟨enabled, rest, henabled, hrest, rfl⟩
      rcases List.forall₂_cons_left_iff.mp hrest with
        ⟨strength, _, hstrength, hnil, rfl⟩
      cases hnil
      rw [List.flatten_cons, List.flatten_cons, List.flatten_nil,
        List.append_nil]
      exact bind_eq_ok_iff.mpr
        ⟨enabled, henabled, bind_eq_ok_iff.mpr ⟨strength, hstrength, rfl⟩⟩
  ofBatches_eq_ok_iff := by
    intro batches value
    rw [List.forall_mem_cons, List.forall_mem_singleton]
    constructor
    · intro h
      rcases bind_eq_ok_iff.mp h with ⟨enabled, henabled, hrest⟩
      rcases bind_eq_ok_iff.mp hrest with ⟨strength, hstrength, hvalue⟩
      cases hvalue
      exact ⟨henabled, hstrength⟩
    · intro h
      exact bind_eq_ok_iff.mpr ⟨_, h.1, bind_eq_ok_iff.mpr ⟨_, h.2, rfl⟩⟩
  ofBatches_congr := by
    intro batches others h
    rw [List.forall_mem_cons, List.forall_mem_singleton] at h
    show (do
      let enabled <- enabledField.read batches
      let strength <- strengthField.read batches
      return ({ enabled, strength } : ForceManyBody)) = _
    rw [h.1, h.2]
    rfl

def distanceField : FieldOf NearClipPlane where
  component := Components.NearClipPlane
  builtin := .nearClipPlane
  name := "near_clip_plane"
  values value := value.nearClipPlane

instance : OfFields NearClipPlane where
  fields := [distanceField]
  unset := {}
  nodup_names := by decide
  slots_eq := by
    show (do
      let slot <- slot Components.NearClipPlane _ _
      return [slot]) = _
    rw [slot_builtin .nearClipPlane]
    rfl
  values_unset := by
    rw [List.forall_mem_singleton]
    rfl
  toBatches_eq_ok_iff := by
    intro value b batches
    constructor
    · intro h
      exact ⟨[batches], .cons h .nil, by simp⟩
    · intro h
      rcases h with ⟨parts, hparts, rfl⟩
      rcases List.forall₂_cons_left_iff.mp hparts with
        ⟨distance, _, hdistance, hnil, rfl⟩
      cases hnil
      rw [List.flatten_singleton]
      exact hdistance
  ofBatches_eq_ok_iff := by
    intro batches value
    rw [List.forall_mem_singleton]
    constructor
    · intro h
      rcases bind_eq_ok_iff.mp h with ⟨distance, hdistance, hvalue⟩
      cases hvalue
      exact hdistance
    · intro h
      exact bind_eq_ok_iff.mpr ⟨_, h, rfl⟩
  ofBatches_congr := by
    intro batches others h
    rw [List.forall_mem_singleton] at h
    show (do
      let distance <- distanceField.read batches
      return (⟨distance⟩ : NearClipPlane)) = _
    rw [h]
    rfl

end Archetype
end Columnar
