import Columnar.Component.Storable

/-!
# Archetypes

An archetype is a bundle of components.  Each of its fields holds any number of
instances of one component; a field without instances is unset and makes no
batch.  Reading back takes for each field the first batch that carries its slot
and leaves all other batches aside.
-/

namespace Columnar

class Archetype (α : Type) where
  name : String
  /-- The descriptors of all fields, tagged with this archetype. -/
  slots : Except RegistryError (List Descriptor)
  /-- One batch for each field that is set. -/
  toBatches : α -> BatchBuilder -> Except BatchError (List Batch)
  ofBatches : List Batch -> Except DecodeError α

namespace Archetype

def slot (component : Type) [Component component] (archetype field : String) :
    Except RegistryError Descriptor :=
  (Component.descriptor component).map fun d => d.inSlot archetype field

def fieldBatch [Component component] (archetype field : String)
    (values : List component) (b : BatchBuilder) :
    Except BatchError (List Batch) :=
  if values.isEmpty then .ok []
  else do
    let descriptor <- Component.registered (slot component archetype field)
    let batch <- b.build descriptor (.many (values.map Storable.toNative))
    return [batch]

def fills (archetype field component : String) (b : Batch) : Bool :=
  b.descriptor.archetype == some archetype && b.descriptor.field == some field
    && b.descriptor.component.text == component

/-- The values of a field, read from the first batch that fills its slot. -/
def fieldValues (component : Type) [Component component]
    (archetype field : String) (batches : List Batch) :
    Except DecodeError (List component) :=
  match batches.find? (fills archetype field (Component.name component)) with
  | some batch => inContext field (Component.ofBatch component batch)
  | none => .ok []

def emptyBatches (b : BatchBuilder) :
    List Descriptor -> Except BatchError (List Batch)
  | [] => .ok []
  | descriptor :: rest => do
      let batch <- b.emptyBatch descriptor
      let batches <- emptyBatches b rest
      return batch :: batches

def partitionAll (lengths : List Nat) :
    List Batch -> Except BatchError (List PartitionedBatch)
  | [] => .ok []
  | batch :: rest =>
      match batch.partitioned lengths with
      | .error e => .error (.partition e)
      | .ok column => (partitionAll lengths rest).map (column :: ·)

variable (α : Type) [Archetype α]

def cleared (b : BatchBuilder) : Except BatchError (List Batch) := do
  let descriptors <- Component.registered (slots α)
  emptyBatches b descriptors

variable {α}

def columns (value : α) (b : BatchBuilder) (lengths : List Nat) :
    Except BatchError (List PartitionedBatch) := do
  let batches <- toBatches value b
  partitionAll lengths batches

end Archetype
end Columnar
