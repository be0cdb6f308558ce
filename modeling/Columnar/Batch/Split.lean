import Columnar.Datatype.Basic
import Columnar.Native

/-!
# Splitting loosely shaped values

A value that may be one instance or many is told apart by its nesting.  Flat
data whose length is a multiple of a fixed arity is cut into consecutive
instances; anything nested deeper than one instance is split along its leading
dimension; everything else is a single instance.
-/

namespace Columnar

namespace Datatype

def depth (d : Datatype) : Nat :=
  match d.shape with
  | .primitive _ | .enumeration _ => 0
  | .fixedList _ _ | .list _ | .struct _ => 1

/--
The size of the groups into which flat data of a fixed arity above one is cut.
-/
def groupSize? (d : Datatype) (depth length : Nat) : Option Nat :=
  match d.shape with
  | .fixedList _ arity =>
      if depth = 1 ∧ 1 < arity.toNat ∧ 0 < length ∧
          length % arity.toNat = 0 then
        some arity.toNat
      else none
  | _ => none

theorem mod_groupSize? {d : Datatype} {depth length size : Nat}
    (h : d.groupSize? depth length = some size) : length % size = 0 := by
  unfold groupSize? at h
  split at h
  · split at h
    · next hsize =>
        cases h
        exact hsize.2.2.2
    · cases h
  · cases h

/--
A sequence for a struct is many when every item is a record, or every item a
sequence.
-/
def splitStructSequence (items : List NativeValue) : List NativeValue :=
  if items.all NativeValue.isRecord || items.all NativeValue.isSequence then
    items
  else [.sequence items]

/--
Absent items carry no nesting; the first present one decides how deep a sequence
is.
-/
def splitElementSequence (d : Datatype) (items : List NativeValue) :
    List NativeValue :=
  match items.find? fun item => !item.isNull with
  | none =>
      match d.shape, items with
      | .list _, [] => [.sequence []]
      | _, items => items
  | some first =>
      let depth := 1 + first.depth
      match d.groupSize? depth items.length with
      | some size => (groups size items).map .sequence
      | none => if d.depth < depth then items else [.sequence items]

def splitArray (d : Datatype) (a : NdArray) : List NativeValue :=
  match h : d.groupSize? a.depth a.length with
  | some size =>
      let table := a.reshape [a.length / size, size] (by
        have hmod := mod_groupSize? h
        simp only [volume, Nat.mul_one]
        exact Nat.div_mul_cancel (Nat.dvd_of_mod_eq_zero hmod))
      table.rows.map .array
  | none => if d.depth < a.depth then a.rows.map .array else [.array a]

def split (d : Datatype) : NativeValue -> List NativeValue
  | .sequence items =>
      match d.shape with
      | .struct _ => splitStructSequence items
      | _ => d.splitElementSequence items
  | .array a => d.splitArray a
  | value => [value]

end Datatype
end Columnar
