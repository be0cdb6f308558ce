import Columnar.Array

/-!
# Native values

What a caller supplies: scalars, sequences of any nesting, dense arrays and
records of named fields.  Nothing here is checked against a datatype.
-/

namespace Columnar

inductive NativeValue
  | null
  | scalar (value : Scalar)
  | sequence (items : List NativeValue)
  | array (value : NdArray)
  | record (fields : List (String × NativeValue))

inductive NativeKind
  | null
  | f32
  | f64
  | i64
  | u64
  | bool
  | text
  | sequence
  | array
  | record
deriving DecidableEq, Repr

def NativeKind.label : NativeKind -> String
  | .null => "null"
  | .f32 => "f32"
  | .f64 => "f64"
  | .i64 => "i64"
  | .u64 => "u64"
  | .bool => "bool"
  | .text => "text"
  | .sequence => "sequence"
  | .array => "array"
  | .record => "record"

def Scalar.kind : Scalar -> NativeKind
  | .f32 _ => .f32
  | .f64 _ => .f64
  | .i64 _ => .i64
  | .u64 _ => .u64
  | .bool _ => .bool
  | .text _ => .text

namespace NativeValue

def kind : NativeValue -> NativeKind
  | .null => .null
  | .scalar value => value.kind
  | .sequence _ => .sequence
  | .array _ => .array
  | .record _ => .record

def isNull : NativeValue -> Bool
  | .null => true
  | _ => false

def isSequence : NativeValue -> Bool
  | .sequence _ => true
  | _ => false

def isRecord : NativeValue -> Bool
  | .record _ => true
  | _ => false

/--
The nesting depth.  A sequence is one deeper than its first item, whatever the
others are; an array is as deep as it has dimensions.
-/
def depth : NativeValue -> Nat
  | .sequence [] => 1
  | .sequence (first :: _) => 1 + first.depth
  | .array value => value.depth
  | _ => 0

mutual

def scalars : NativeValue -> List Scalar
  | .scalar value => [value]
  | .array value => value.scalars
  | .sequence items => scalarsOfItems items
  | .null => []
  | .record _ => []

def scalarsOfItems : List NativeValue -> List Scalar
  | [] => []
  | item :: rest => scalars item ++ scalarsOfItems rest

end

theorem scalarsOfItems_eq_flatMap (items : List NativeValue) :
    scalarsOfItems items = items.flatMap scalars := by
  induction items with
  | nil => rw [scalarsOfItems, List.flatMap_nil]
  | cons item rest ih => rw [scalarsOfItems, List.flatMap_cons, ih]

theorem scalars_sequence (items : List NativeValue) :
    (sequence items).scalars = items.flatMap scalars := by
  rw [scalars, scalarsOfItems_eq_flatMap]

def f32 (value : Binary32) : NativeValue := .scalar (.f32 value)

def u64 (value : UInt64) : NativeValue := .scalar (.u64 value)

def bool (value : Bool) : NativeValue := .scalar (.bool value)

end NativeValue
end Columnar
