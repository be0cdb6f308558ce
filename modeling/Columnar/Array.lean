import Columnar.Float.Binary
import Columnar.Groups

/-!
# Dense arrays

A typed buffer with dimensions, the outermost first and the last varying
fastest.  The number of elements is always the product of the dimensions.
-/

namespace Columnar

inductive Scalar
  | f32 (value : Binary32)
  | f64 (value : Binary64)
  | i64 (value : Int64)
  | u64 (value : UInt64)
  | bool (value : Bool)
  | text (value : String)
deriving DecidableEq

inductive BufferKind
  | f32
  | f64
  | i64
  | u8
  | u32
  | bool
deriving DecidableEq, Repr

namespace BufferKind

abbrev Carrier : BufferKind -> Type
  | .f32 => Binary32
  | .f64 => Binary64
  | .i64 => Int64
  | .u8 => UInt8
  | .u32 => UInt32
  | .bool => Bool

def scalar : (kind : BufferKind) -> kind.Carrier -> Scalar
  | .f32, value => .f32 value
  | .f64, value => .f64 value
  | .i64, value => .i64 value
  | .u8, value => .u64 (UInt8.toUInt64 value)
  | .u32, value => .u64 (UInt32.toUInt64 value)
  | .bool, value => .bool value

end BufferKind

structure Buffer where
  kind : BufferKind
  values : List kind.Carrier

namespace Buffer

def length (b : Buffer) : Nat := b.values.length

def isEmpty (b : Buffer) : Bool := b.values.isEmpty

def scalars (b : Buffer) : List Scalar := b.values.map b.kind.scalar

def get? (b : Buffer) (index : Nat) : Option Scalar := b.scalars[index]?

end Buffer

def volume : List Nat -> Nat
  | [] => 1
  | dim :: rest => dim * volume rest

structure NdArray where
  buffer : Buffer
  shape : List Nat
  size_eq : volume shape = buffer.length

namespace NdArray

def addressLimit : Nat := UInt64.size

/--
The product of dimensions with a count so far, each step of which has to stay
addressable.
-/
def countFrom? (count : Nat) : List Nat -> Option Nat
  | [] => some count
  | dim :: rest =>
      if count * dim < addressLimit then countFrom? (count * dim) rest else none

def elementCount? (shape : List Nat) : Option Nat := countFrom? 1 shape

theorem countFrom?_eq_some {shape : List Nat} {count total : Nat}
    (h : countFrom? count shape = some total) :
    count * volume shape = total := by
  induction shape generalizing count with
  | nil =>
      simpa [countFrom?, volume] using h
  | cons dim rest ih =>
      unfold countFrom? at h
      split at h
      · rw [volume, ← Nat.mul_assoc]
        exact ih h
      · cases h

theorem volume_eq_of_elementCount? {shape : List Nat} {total : Nat}
    (h : elementCount? shape = some total) : volume shape = total := by
  simpa using countFrom?_eq_some h

inductive ShapeFault
  | overflow (shape : List Nat)
  | count (expected found : Nat)
deriving DecidableEq, Repr

def ofShape (buffer : Buffer) (shape : List Nat) : Except ShapeFault NdArray :=
  match h : elementCount? shape with
  | none => .error (.overflow shape)
  | some expected =>
      if hc : expected = buffer.length then
        .ok ⟨buffer, shape, (volume_eq_of_elementCount? h).trans hc⟩
      else
        .error (.count expected buffer.length)

def flat (buffer : Buffer) : NdArray :=
  ⟨buffer, [buffer.length], by simp [volume]⟩

def length (a : NdArray) : Nat := a.buffer.length

def depth (a : NdArray) : Nat := a.shape.length

def scalars (a : NdArray) : List Scalar := a.buffer.scalars

def reshape (a : NdArray) (shape : List Nat) (h : volume shape = a.length) :
    NdArray :=
  ⟨a.buffer, shape, h⟩

def part (buffer : Buffer) {outer : Nat} {inner : List Nat}
    (h : volume (outer :: inner) = buffer.length) (index : Fin outer) :
    NdArray where
  buffer := ⟨buffer.kind, group (volume inner) buffer.values index⟩
  shape := inner
  size_eq := by
    have hlength : outer * volume inner = buffer.values.length := by
      simpa [Buffer.length, volume] using h
    have hfit : (index + 1) * volume inner ≤ buffer.values.length := by
      rw [← hlength]
      exact Nat.mul_le_mul_right _ index.isLt
    exact (length_group hfit).symm

/--
Cuts an array along its outermost dimension.  An array without dimensions is
its own only part.
-/
def rows (a : NdArray) : List NdArray :=
  match h : a.shape with
  | [] => [a]
  | outer :: _ => (List.finRange outer).map (part a.buffer (h ▸ a.size_eq))

end NdArray
end Columnar
