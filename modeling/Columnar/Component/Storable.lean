import Columnar.Batch.Builder

/-!
# Typed values

A storable type has one datatype and goes to native values and back from
instances of it; columns and batches of its values follow from that.  A
component is a storable type with a name to register it under.
-/

namespace Columnar

class Storable (α : Type) where
  datatype : Datatype
  toNative : α -> NativeValue
  ofInstance : Instance -> Except DecodeError α

namespace Storable

variable (α : Type) [Storable α]

def ofNative (value : NativeValue) : Except ConversionError α := do
  let d := datatype α
  let i <- d.normalize {} value
  match ofInstance (α := α) i with
  | .ok value => .ok value
  | .error e => .error (.decode d.name e)

def toColumn (values : List α) : Except ConversionError Column := do
  let d := datatype α
  let instances <- convertEach
    (fun value => d.normalize {} (toNative value)) 0 values
  d.encode instances

def ofInstances : List Instance -> Except DecodeError (List α)
  | [] => .ok []
  | i :: rest => do
      let value <- ofInstance i
      let values <- ofInstances rest
      return value :: values

def ofColumn (column : Column) : Except DecodeError (List α) := do
  let instances <- (datatype α).decode column
  ofInstances α instances

end Storable

class Component (α : Type) extends Storable α where
  name : String

namespace Component

variable (α : Type) [Component α]

def descriptor : Except RegistryError Descriptor := Descriptor.parse (name α)

def definition : ComponentDef Datatype := ⟨name α, Storable.datatype α⟩

def register (r : Registry) : Except RegistryError Handle × Registry :=
  r.register (name α) (Storable.datatype α)

def registered : Except RegistryError β -> Except BatchError β
  | .error e => .error (.registry e)
  | .ok value => .ok value

def toBatch (values : List α) (b : BatchBuilder) : Except BatchError Batch := do
  let descriptor <- registered (descriptor α)
  b.build descriptor (.many (values.map Storable.toNative))

def ofBatch (b : Batch) : Except DecodeError (List α) :=
  Storable.ofColumn α b.column

end Component
end Columnar
