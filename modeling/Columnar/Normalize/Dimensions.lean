import Columnar.ConversionError

/-!
# Dimensions of nested values

A nested value is regular when, at every sequence, all items have the same
dimensions.  Regularity is settled before any scalar is looked at, so whether a
value is refused for its shape never depends on its elements.
-/

namespace Columnar
namespace NativeValue

def disagreement (first other : List Nat) : ConversionError :=
  if first.length ≠ other.length then .mixedNesting
  else
    match (first.zip other).find? fun (a, b) => a != b with
    | some (expected, found) => .irregular expected found
    | none => .irregular 0 0

mutual

/--
The dimensions of a regular value, the outermost first.  An absent value and a
record have none; `kind` is the kind of element they were to be read as.
-/
def dimensions (kind : ElementKind) :
    NativeValue -> Except ConversionError (List Nat)
  | .scalar _ => .ok []
  | .array value => .ok value.shape
  | .sequence items =>
      (commonDimensions kind none items).map (items.length :: ·)
  | .null => .error (.nonNumeric kind .null)
  | .record _ => .error (.nonNumeric kind .record)

def commonDimensions (kind : ElementKind) (first : Option (List Nat)) :
    List NativeValue -> Except ConversionError (List Nat)
  | [] => .ok (first.getD [])
  | item :: rest =>
      match dimensions kind item, first with
      | .error e, _ => .error e
      | .ok shape, none => commonDimensions kind (some shape) rest
      | .ok shape, some expected =>
          if expected = shape then commonDimensions kind first rest
          else .error (disagreement expected shape)

end

end NativeValue
end Columnar
