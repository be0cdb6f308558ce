import Columnar.Instance
import Columnar.Normalize.Coercion
import Columnar.Normalize.Dimensions
import Columnar.Text.Ascii

/-!
# Normalization

One native value becomes one instance of a datatype.  Nested input is laid out
flat, element counts have to match the arity, and a lone scalar is repeated
only where the datatype says so.  Enumerations take names and numbers; structs
take records and positional sequences.
-/

namespace Columnar

namespace NativeValue

/--
The scalars of a value, a lone one repeated to fill a fixed arity if that is
allowed.
-/
def spread (arity : Arity) (broadcast : Bool) (value : NativeValue) :
    List Scalar :=
  match value, arity with
  | .scalar s, .fixed n =>
      if broadcast && decide (1 < n) then List.replicate n s else [s]
  | value, _ => value.scalars

def toElements (config : Config) (kind : ElementKind) (arity : Arity)
    (broadcast : Bool) (value : NativeValue) :
    Except ConversionError Instance := do
  let _ <- value.dimensions kind
  let scalars := value.spread arity broadcast
  if arity.accepts scalars.length then
    let values <- Scalar.coerceAll config kind scalars
    return .elements ⟨kind, values⟩
  else
    .error (.arityMismatch arity scalars.length)

def loneScalar (value : NativeValue) : Except ConversionError Scalar := do
  let _ <- value.dimensions .u8
  match value.scalars with
  | [s] => return s
  | scalars => .error (.arityMismatch (.fixed 1) scalars.length)

def variantOf (datatype : String) (variants : List Variant) :
    Scalar -> Except ConversionError UInt8
  | .text name =>
      match variants.find? fun v => Text.sameUpToCase v.name name with
      | some v => .ok v.value
      | none => .error (.invalidEnumValue datatype (.name name))
  | s => do
      let n <- s.toNat .u8
      match variants.find? fun v => v.value.toNat == n with
      | some v => .ok v.value
      | none => .error (.invalidEnumValue datatype (.number n))

def toVariant (datatype : String) (variants : List Variant)
    (value : NativeValue) :
    Except ConversionError Instance := do
  let s <- value.loneScalar
  let byte <- variantOf datatype variants s
  return .one .u8 byte

end NativeValue

def inField (field : String) :
    Except ConversionError α -> Except ConversionError α
  | .error e => .error (.inField field e)
  | .ok value => .ok value

namespace Datatype

mutual

def normalize (config : Config) :
    Datatype -> NativeValue -> Except ConversionError Instance
  | ⟨name, _, nullable, _, _⟩, .null =>
      if nullable then .ok .null else .error (.unexpectedNull name)
  | ⟨name, shape, _, broadcast, _⟩, value =>
      match shape with
      | .primitive kind => value.toElements config kind (.fixed 1) false
      | .fixedList kind arity =>
          value.toElements config kind (.fixed arity.toNat) broadcast
      | .list kind => value.toElements config kind .variable false
      | .enumeration variants => value.toVariant name variants
      | .struct fields =>
          match value with
          | .record pairs =>
              match pairs.find? fun pair => !fields.any fun field =>
                field.name == pair.1 with
              | some pair => .error (.unknownField name pair.1)
              | none => (normalizeNamed config name pairs fields).map .struct
          | .sequence items =>
              if items.length = fields.length then
                (normalizePositional config fields items).map .struct
              else
                .error (.arityMismatch (.fixed fields.length) items.length)
          | _ => .error (.shapeMismatch name .recordOrSequence)

/--
The instances of fields whose values are given by name; the first value of a
name counts.
-/
def normalizeNamed (config : Config) (owner : String)
    (pairs : List (String × NativeValue)) :
    List (Field Datatype) -> Except ConversionError (List Instance)
  | [] => .ok []
  | ⟨name, datatype⟩ :: rest => do
      let value <-
        match pairs.find? fun pair => pair.1 == name with
        | some pair => inField name (normalize config datatype pair.2)
        | none =>
            if datatype.nullable then
              .ok .null
            else
              .error (.missingField owner name)
      let values <- normalizeNamed config owner pairs rest
      return value :: values

def normalizePositional (config : Config) :
    List (Field Datatype) -> List NativeValue ->
    Except ConversionError (List Instance)
  | ⟨name, datatype⟩ :: fields, item :: items => do
      let value <- inField name (normalize config datatype item)
      let values <- normalizePositional config fields items
      return value :: values
  | _, _ => .ok []

end

end Datatype
end Columnar
