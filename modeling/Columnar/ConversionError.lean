import Columnar.Datatype.Basic
import Columnar.DecodeError
import Columnar.Decimal.Shortest
import Columnar.Native

/-!
# Conversion errors

Why a native value cannot become an instance, or instances a column.  The two
wrappers tell which instance of a batch and which field of a struct is at
fault.
-/

namespace Columnar

inductive Misfit
  | integer (value : Int)
  | float (value : Binary64)
deriving DecidableEq, Repr

def Misfit.text : Misfit -> String
  | .integer value => toString value
  | .float value => value.text

inductive UnknownVariant
  | name (text : String)
  | number (value : Nat)
deriving DecidableEq, Repr

def UnknownVariant.text : UnknownVariant -> String
  | .name text => Text.quoted text
  | .number value => toString value

inductive Layout
  | elements (kind : ElementKind)
  | fieldValues
  | recordOrSequence
deriving DecidableEq, Repr

def Layout.text : Layout -> String
  | .elements kind => kind.label ++ " elements"
  | .fieldValues => "one value per declared field"
  | .recordOrSequence => "a record or a positional sequence of fields"

inductive ConversionError
  | arityMismatch (expected : Arity) (found : Nat)
  | nonNumeric (expected : ElementKind) (found : NativeKind)
  | irregular (expected found : Nat)
  | mixedNesting
  | outOfRange (kind : ElementKind) (value : Misfit)
  | nonFinite (value : Binary32)
  | unexpectedNull (datatype : String)
  | invalidEnumValue (datatype : String) (value : UnknownVariant)
  | missingField (datatype field : String)
  | unknownField (datatype field : String)
  | datatypeMismatch (expected found : ColumnType)
  | shapeMismatch (datatype : String) (expected : Layout)
  | batchTooLarge (length limit : Nat)
  | shapeOverflow (shape : List Nat)
  | offsetOverflow
  /-- An instance that its own typed reader refuses. -/
  | decode (datatype : String) (source : DecodeError)
  | atIndex (index : Nat) (source : ConversionError)
  | inField (field : String) (source : ConversionError)
deriving DecidableEq, Repr

namespace ConversionError

def message : ConversionError -> String
  | .arityMismatch expected found =>
      "expected " ++ expected.text ++ " elements, found " ++ toString found
  | .nonNumeric expected found =>
      "cannot coerce " ++ found.label ++ " to " ++ expected.label
  | .irregular expected found =>
      "irregular nested sequence: expected sub-sequences of length " ++
        toString expected
        ++ ", found " ++ toString found
  | .mixedNesting =>
      "irregular nested sequence: scalars and sequences mixed at one level"
  | .outOfRange kind value =>
      "value " ++ value.text ++ " is out of range for " ++ kind.label
  | .nonFinite value => "non-finite value " ++ value.widen.text ++ " rejected"
  | .unexpectedNull datatype =>
      "null value for non-nullable datatype " ++ datatype
  | .invalidEnumValue datatype value =>
      value.text ++ " is not a variant of " ++ datatype
  | .missingField datatype field =>
      "missing field " ++ field ++ " of " ++ datatype
  | .unknownField datatype field =>
      "unknown field " ++ field ++ " for " ++ datatype
  | .datatypeMismatch expected found =>
      "array datatype mismatch: expected " ++ expected.text ++
        ", found " ++ found.text
  | .shapeMismatch datatype expected =>
      "value for " ++ datatype ++ " must be " ++ expected.text
  | .batchTooLarge length limit =>
      "batch of " ++ toString length ++ " instances exceeds the limit of " ++
        toString limit
  | .shapeOverflow shape =>
      "array shape [" ++ ", ".intercalate (shape.map toString)
        ++ "] overflows the addressable element count"
  | .offsetOverflow => "list offsets overflow i32"
  | .decode datatype source => datatype ++ ": " ++ source.message
  | .atIndex index source =>
      "instance " ++ toString index ++ ": " ++ source.message
  | .inField field source => "field " ++ field ++ ": " ++ source.message

/-- The fault without the instance and the fields it was found in. -/
def root : ConversionError -> ConversionError
  | .atIndex _ source => source.root
  | .inField _ source => source.root
  | e => e

end ConversionError

def NdArray.ShapeFault.error : NdArray.ShapeFault -> ConversionError
  | .overflow shape => .shapeOverflow shape
  | .count expected found => .arityMismatch (.fixed expected) found

end Columnar
