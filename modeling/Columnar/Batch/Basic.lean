import Columnar.Codec.Decode
import Columnar.Codec.Encode
import Columnar.Component.Registry

/-!
# Batches

A batch is one column of a component together with the descriptor it was built
for.  It describes itself in transport: the field it travels in is named after
the component, and the descriptor can be read back from the field's metadata.
-/

namespace Columnar

inductive PartitionError
  | lengthMismatch (expected found : Nat)
  | offsetOverflow
deriving DecidableEq, Repr

def PartitionError.message : PartitionError -> String
  | .lengthMismatch expected found =>
      "partition lengths sum to " ++ toString found ++ ", batch has " ++
        toString expected
        ++ " instances"
  | .offsetOverflow => "partition offsets overflow i32"

inductive BatchError
  | conversion (source : ConversionError)
  | unknownComponent (source : UnknownComponent)
  /-- The datatype asks for at least one instance. -/
  | emptyBatch (component datatype : String)
  | registry (source : RegistryError)
  | partition (source : PartitionError)
deriving DecidableEq, Repr

def BatchError.message : BatchError -> String
  | .conversion source => source.message
  | .unknownComponent source => source.message
  | .emptyBatch component datatype =>
      "component " ++ component ++ " (datatype " ++ datatype ++
        ") does not permit empty batches"
  | .registry source => source.message
  | .partition source => source.message

structure TransportField where
  label : Label
  type : ColumnType
deriving DecidableEq, Repr

def Datatype.field (d : Datatype) (name : String) : TransportField :=
  ⟨d.label name, d.columnType⟩

structure Batch where
  descriptor : Descriptor
  column : Column
  nullable : Bool

structure PartitionedBatch where
  descriptor : Descriptor
  column : Column

namespace Batch

def length (b : Batch) : Nat := b.column.length

def type (b : Batch) : ColumnType := b.column.type

def componentKey : String := "strata.component"

def archetypeKey : String := "strata.archetype"

def archetypeFieldKey : String := "strata.archetype_field"

def field (b : Batch) : TransportField :=
  let name := b.descriptor.component.text
  let metadata :=
    (componentKey, name)
      :: (b.descriptor.archetype.toList.map fun archetype =>
        (archetypeKey, archetype))
      ++ b.descriptor.field.toList.map fun field => (archetypeFieldKey, field)
  ⟨{ name, nullable := b.nullable, metadata }, b.type⟩

def instanceLabel : Label := { name := "item", nullable := true }

def partition (b : Batch) (lengths : List Nat) : Except PartitionError Column :=
  if Column.total lengths ≠ b.length then
    .error (.lengthMismatch b.length (Column.total lengths))
  else
    let offsets := Column.offsetsFrom 0 lengths
    if offsets.all fun offset => decide (offset < Column.offsetLimit) then
      .ok (.list instanceLabel offsets b.column none)
    else .error .offsetOverflow

def partitioned (b : Batch) (lengths : List Nat) :
    Except PartitionError PartitionedBatch :=
  (b.partition lengths).map fun column => ⟨b.descriptor, column⟩

def decode (b : Batch) (d : Datatype) : Except DecodeError (List Instance) :=
  d.decode b.column

end Batch
end Columnar
