import Columnar.Column.Type

/-!
# Decode errors

Why a column, or an instance, cannot be read as what it should hold.  A
context names the datatype or the field in which the fault lies.
-/

namespace Columnar

inductive DecodeError
  | datatypeMismatch (expected found : ColumnType)
  | missingData
  | invalidEnumValue (datatype : String) (value : UInt8)
  /-- An instance of another shape than the reader of a typed value expects. -/
  | unexpectedShape (expected : String)
  | context (location : String) (source : DecodeError)
deriving DecidableEq, Repr

namespace DecodeError

def message : DecodeError -> String
  | .datatypeMismatch expected found =>
      "datatype mismatch: expected " ++ expected.text ++
        ", found " ++ found.text
  | .missingData => "missing data"
  | .invalidEnumValue datatype value =>
      "invalid discriminant " ++ toString value.toNat ++ " for " ++ datatype
  | .unexpectedShape expected =>
      "unexpected canonical shape: expected " ++ expected
  | .context location source => location ++ ": " ++ source.message

def root : DecodeError -> DecodeError
  | .context _ source => source.root
  | e => e

end DecodeError
end Columnar
