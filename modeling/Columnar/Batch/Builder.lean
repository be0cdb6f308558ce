import Columnar.Batch.Basic
import Columnar.Batch.Split
import Columnar.Component.Extension

/-!
# Building batches

Every batch is built in the same order: find the component, check the length,
normalize each instance, check the arity of all of them, let the extension
check the whole, and encode.  The first failure is the outcome and nothing
partial is kept.

A column that already exists is not read again.  Its type pins down the layout,
so comparing types and counting nulls is all that is checked.
-/

namespace Columnar

inductive BatchInput
  /-- One instance. -/
  | single (value : NativeValue)
  /-- One value for each instance. -/
  | many (values : List NativeValue)
  /-- A value whose nesting decides how many instances it is. -/
  | loose (value : NativeValue)
  /-- A column made elsewhere. -/
  | column (column : Column)

/--
Applies a conversion to every member; an error is tagged with the member's
position.
-/
def convertEach (convert : α -> Except ConversionError β) (index : Nat) :
    List α -> Except ConversionError (List β)
  | [] => .ok []
  | x :: rest => do
      let y <- atIndex index (convert x)
      let ys <- convertEach convert (index + 1) rest
      return y :: ys

def checkCountsFrom (arity : Arity) (index : Nat) :
    List Instance -> Except ConversionError Unit
  | [] => .ok ()
  | i :: rest =>
      match i.count? with
      | some found =>
          if arity.accepts found then checkCountsFrom arity (index + 1) rest
          else .error (.atIndex index (.arityMismatch arity found))
      | none => checkCountsFrom arity (index + 1) rest

namespace Datatype

def checkCounts (d : Datatype) (instances : List Instance) :
    Except ConversionError Unit :=
  match d.arity? with
  | some (.fixed n) => checkCountsFrom (.fixed n) 0 instances
  | _ => .ok ()

end Datatype

structure BatchBuilder where
  registry : Registry
  extensions : Option ExtensionTable := none
  config : Config := {}

namespace BatchBuilder

def converted : Except ConversionError α -> Except BatchError α
  | .error e => .error (.conversion e)
  | .ok value => .ok value

def handle (b : BatchBuilder) (name : String) : Except BatchError Handle :=
  match b.registry.handle name with
  | .error e => .error (.unknownComponent e)
  | .ok handle => .ok handle

def checkSize (b : BatchBuilder) (component : String) (d : Datatype)
    (length : Nat) :
    Except BatchError Unit :=
  if length = 0 ∧ d.nonEmpty then .error (.emptyBatch component d.name)
  else
    match b.config.maxBatchLength with
    | some limit =>
        if limit.toNat < length then
          .error (.conversion (.batchTooLarge length limit.toNat))
        else .ok ()
    | none => .ok ()

def extension? (b : BatchBuilder) (component : String) : Option Extension :=
  b.extensions.bind fun table => table.find? component

def instanceOf (b : BatchBuilder) (extension : Option Extension) (d : Datatype)
    (value : NativeValue) : Except ConversionError Instance :=
  match extension.bind fun e => e.normalize b.config d value with
  | some result => result
  | none => d.normalize b.config value

def encodeChecked (extension : Option Extension) (d : Datatype)
    (instances : List Instance) :
    Except ConversionError Column := do
  d.checkCounts instances
  match extension with
  | some e => e.validate instances
  | none => pure ()
  d.encode instances

def convert (b : BatchBuilder) (component : String) (d : Datatype)
    (values : List NativeValue) :
    Except BatchError Column := do
  b.checkSize component d values.length
  let extension := b.extension? component
  let instances <- converted (convertEach (b.instanceOf extension d) 0 values)
  converted (encodeChecked extension d instances)

/--
A column made elsewhere, if its length, its type and its nulls are those of the
datatype.
-/
def adopt (b : BatchBuilder) (component : String) (d : Datatype)
    (column : Column) :
    Except BatchError Column := do
  b.checkSize component d column.length
  if column.type ≠ d.columnType then
    .error (.conversion (.datatypeMismatch d.columnType column.type))
  else if d.nullable = false ∧ 0 < column.nullCount then
    .error (.conversion (.unexpectedNull d.name))
  else .ok column

def build (b : BatchBuilder) (descriptor : Descriptor) (input : BatchInput) :
    Except BatchError Batch := do
  let name := descriptor.component.text
  let handle <- b.handle name
  let d := handle.datatype
  let column <-
    match input with
    | .column column => b.adopt name d column
    | .single value => b.convert name d [value]
    | .many values => b.convert name d values
    | .loose value => b.convert name d (d.split value)
  return ⟨descriptor, column, d.nullable⟩

/-- A batch without instances, whatever the datatype says about empty ones. -/
def emptyBatch (b : BatchBuilder) (descriptor : Descriptor) :
    Except BatchError Batch := do
  let handle <- b.handle descriptor.component.text
  return ⟨descriptor, .empty handle.datatype.columnType,
    handle.datatype.nullable⟩

end BatchBuilder
end Columnar
