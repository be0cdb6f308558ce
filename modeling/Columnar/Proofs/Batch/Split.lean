import Columnar.Batch.Split
import Columnar.Proofs.Array.Rows

/-!
# Splitting keeps every scalar

However a loosely shaped value is split into instances, cut into groups, along
its leading dimension, or not at all, the instances hold its scalars in their
order, each of them once.
-/

namespace Columnar

namespace NativeValue

theorem scalars_array (a : NdArray) : (array a).scalars = a.scalars := by
  rw [scalars]

theorem flatMap_scalars_arrays (arrays : List NdArray) :
    (arrays.map array).flatMap scalars = arrays.flatMap NdArray.scalars := by
  rw [List.flatMap_map]
  simp only [scalars_array]

end NativeValue

namespace Datatype

open NativeValue

variable {d : Datatype}

theorem divides_of_groupSize? {depth length size : Nat}
    (h : d.groupSize? depth length = some size) :
    depth = 1 ∧ 1 < size ∧ 0 < length ∧ length % size = 0 := by
  unfold groupSize? at h
  split at h
  · split at h
    · next hsize =>
        cases h
        exact hsize
    · cases h
  · cases h

theorem one_lt_groupSize? {depth length size : Nat}
    (h : d.groupSize? depth length = some size) :
    1 < size :=
  (divides_of_groupSize? h).2.1

theorem splitElementSequence_of_first {items : List NativeValue}
    {first : NativeValue}
    (hfirst : items.find? (fun item => !item.isNull) = some first) :
    d.splitElementSequence items =
      match d.groupSize? (1 + first.depth) items.length with
      | some size => (groups size items).map .sequence
      | none =>
          if d.depth < 1 + first.depth then items else [.sequence items] := by
  unfold splitElementSequence
  generalize items.find? (fun item => !item.isNull) = found at hfirst ⊢
  subst hfirst
  rfl

theorem flatMap_scalars_splitStructSequence (items : List NativeValue) :
    (splitStructSequence items).flatMap scalars = items.flatMap scalars := by
  unfold splitStructSequence
  split
  · rfl
  · rw [List.flatMap_singleton, scalars_sequence]

theorem flatMap_scalars_splitElementSequence (items : List NativeValue) :
    (d.splitElementSequence items).flatMap scalars = items.flatMap scalars := by
  unfold splitElementSequence
  split
  · split
    · rw [List.flatMap_singleton, scalars_sequence]
    · rfl
  · dsimp only
    split
    · next size hsize =>
        have hpos : 0 < size := Nat.zero_lt_of_lt (one_lt_groupSize? hsize)
        calc ((groups size items).map sequence).flatMap scalars
            = (groups size items).flatMap (List.flatMap scalars) := by
              rw [List.flatMap_map]
              simp only [scalars_sequence]
          _ = (groups size items).flatten.flatMap scalars := by
              rw [← List.flatMap_id, List.flatMap_assoc]
              rfl
          _ = items.flatMap scalars := by rw [flatten_groups hpos]
    · split
      · rfl
      · rw [List.flatMap_singleton, scalars_sequence]

theorem flatMap_scalars_splitArray (a : NdArray) :
    (d.splitArray a).flatMap scalars = a.scalars := by
  unfold splitArray
  split
  · rw [flatMap_scalars_arrays, NdArray.flatMap_scalars_rows]
    rfl
  · split
    · rw [flatMap_scalars_arrays, NdArray.flatMap_scalars_rows]
    · rw [List.flatMap_singleton, scalars_array]

theorem flatMap_scalars_split (d : Datatype) (value : NativeValue) :
    (d.split value).flatMap scalars = value.scalars := by
  cases value with
  | sequence items =>
      rw [split, scalars_sequence]
      split
      · exact flatMap_scalars_splitStructSequence items
      · exact flatMap_scalars_splitElementSequence items
  | array a =>
      rw [split, scalars_array]
      exact flatMap_scalars_splitArray a
  | null => exact List.flatMap_singleton _ _
  | scalar s => exact List.flatMap_singleton _ _
  | record fields => exact List.flatMap_singleton _ _

end Datatype
end Columnar
