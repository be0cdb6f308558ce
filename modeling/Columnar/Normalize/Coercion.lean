import Columnar.Config
import Columnar.ConversionError

/-!
# Coercion of scalars

A scalar becomes an element of the kind a datatype asks for, or is refused.
Floats take any number, rounded once; integer kinds take exactly the integers
in their range, however they are written; booleans take booleans and the
integers 0 and 1.  Nothing is wrapped, truncated or clamped.
-/

namespace Columnar
namespace Scalar

def float? : Scalar -> Option Binary32
  | .f32 value => some value
  | .f64 value => some value.narrow
  | .i64 value => some (.ofInt value.toInt)
  | .u64 value => some (.ofInt value.toNat)
  | .bool value => some (.ofInt (if value then 1 else 0))
  | .text _ => none

def toF32 (config : Config) (s : Scalar) : Except ConversionError Binary32 :=
  match s.float? with
  | none => .error (.nonNumeric .f32 s.kind)
  | some value =>
      if config.nonFinite = .reject ∧ value.isFinite = false then
        .error (.nonFinite value)
      else .ok value

/-- A float that is an integer no greater than the largest 32-bit one. -/
def floatToNat (kind : ElementKind) (x : Binary64) :
    Except ConversionError Nat :=
  match x.value.integer? with
  | some z =>
      if 0 ≤ z ∧ z ≤ 4294967295 then
        .ok z.toNat
      else
        .error (.outOfRange kind (.float x))
  | none => .error (.outOfRange kind (.float x))

def toNat (kind : ElementKind) : Scalar -> Except ConversionError Nat
  | .u64 value => .ok value.toNat
  | .i64 value =>
      if 0 ≤ value.toInt then .ok value.toInt.toNat
      else .error (.outOfRange kind (.integer value.toInt))
  | .f32 value => floatToNat kind value.widen
  | .f64 value => floatToNat kind value
  | .bool value => .ok (if value then 1 else 0)
  | .text _ => .error (.nonNumeric kind .text)

def toNatBelow (kind : ElementKind) (size : Nat) (s : Scalar) :
    Except ConversionError Nat := do
  let n <- s.toNat kind
  if n < size then .ok n else .error (.outOfRange kind (.integer n))

def intToBool (z : Int) : Except ConversionError Bool :=
  if z = 0 then .ok false
  else if z = 1 then .ok true
  else .error (.outOfRange .bool (.integer z))

def toBool : Scalar -> Except ConversionError Bool
  | .bool value => .ok value
  | .i64 value => intToBool value.toInt
  | .u64 value => intToBool value.toNat
  | s => .error (.nonNumeric .bool s.kind)

def coerce (config : Config) :
    (kind : ElementKind) -> Scalar -> Except ConversionError kind.Carrier
  | .f32, s => s.toF32 config
  | .u8, s => (s.toNatBelow .u8 UInt8.size).map UInt8.ofNat
  | .u32, s => (s.toNatBelow .u32 UInt32.size).map UInt32.ofNat
  | .bool, s => s.toBool

/--
Scalars as elements of one kind; the first that is refused decides the error.
-/
def coerceAll (config : Config) (kind : ElementKind) :
    List Scalar -> Except ConversionError (List kind.Carrier)
  | [] => .ok []
  | s :: rest => do
      let value <- s.coerce config kind
      let values <- coerceAll config kind rest
      return value :: values

end Scalar
end Columnar
