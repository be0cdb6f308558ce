import Mathlib.Data.List.FinRange
import Columnar.Array

/-!
# Groups and rows

Cutting a list into consecutive groups, or an array into its rows, keeps every
member in its place: the pieces, one after the other, are what was cut.
-/

namespace Columnar

/-! ## Groups -/

theorem flatMap_group (size count : Nat) (xs : List α) :
    (List.range count).flatMap (group size xs) = xs.take (count * size) := by
  induction count with
  | zero => simp
  | succ count ih =>
      rw [List.range_succ, List.flatMap_append, ih, List.flatMap_singleton,
        group, Nat.succ_mul, List.take_add]

theorem flatten_groups {size : Nat} (h : 0 < size) (xs : List α) :
    (groups size xs).flatten = xs := by
  have hcount : xs.length ≤ (xs.length + size - 1) / size * size := by
    have hlt := Nat.lt_div_mul_add (a := xs.length + size - 1) h
    omega
  rw [groups, ← List.flatMap_def, flatMap_group, List.take_of_length_le hcount]

theorem length_groups (size : Nat) (xs : List α) :
    (groups size xs).length = (xs.length + size - 1) / size := by
  rw [groups, List.length_map, List.length_range]

theorem groups_eq_map_group {size count : Nat} {xs : List α} (h : 0 < size)
    (hlength : xs.length = count * size) :
    groups size xs = (List.range count).map (group size xs) := by
  have hcount : (xs.length + size - 1) / size = count := by
    rw [hlength, Nat.add_sub_assoc h, Nat.mul_comm, Nat.mul_add_div h,
      Nat.div_eq_of_lt (Nat.sub_lt h Nat.one_pos), Nat.add_zero]
  rw [groups, hcount]

theorem groups_eq_of_dvd {size : Nat} {xs : List α} (h : 0 < size)
    (hdvd : size ∣ xs.length) :
    groups size xs = (List.range (xs.length / size)).map (group size xs) :=
  groups_eq_map_group h (Nat.div_mul_cancel hdvd).symm

theorem length_group_of_lt {size index : Nat} {xs : List α}
    (h : index < xs.length / size) :
    (group size xs index).length = size := by
  apply length_group
  exact (Nat.mul_le_mul_right size h).trans (Nat.div_mul_le_self _ _)

theorem length_of_mem_groups {size : Nat} {xs part : List α} (h : 0 < size)
    (hdvd : size ∣ xs.length) (hpart : part ∈ groups size xs) :
    part.length = size := by
  rw [groups_eq_of_dvd h hdvd, List.mem_map] at hpart
  rcases hpart with ⟨index, hindex, rfl⟩
  exact length_group_of_lt (List.mem_range.mp hindex)

theorem forall₂_group {R : α -> β -> Prop} {xs : List α} {ys : List β}
    (h : List.Forall₂ R xs ys) (size index : Nat) :
    List.Forall₂ R (group size xs index) (group size ys index) :=
  List.forall₂_take size (List.forall₂_drop (index * size) h)

theorem group_map (f : α -> β) (size : Nat) (xs : List α) (index : Nat) :
    group size (xs.map f) index = (group size xs index).map f := by
  rw [group, group, ← List.map_drop, ← List.map_take]

theorem groups_map (f : α -> β) (size : Nat) (xs : List α) :
    groups size (xs.map f) = (groups size xs).map (List.map f) := by
  rw [groups, groups, List.length_map, List.map_map]
  exact List.map_congr_left fun index _ => group_map f size xs index

/-! ## Rows -/

namespace NdArray

variable {a : NdArray} {outer : Nat} {inner : List Nat}

theorem rows_of_shape_nil (h : a.shape = []) : a.rows = [a] := by
  rcases a with ⟨buffer, shape, size_eq⟩
  cases h
  rfl

theorem rows_of_shape_cons (h : a.shape = outer :: inner) :
    a.rows = (List.finRange outer).map (part a.buffer (h ▸ a.size_eq)) := by
  rcases a with ⟨buffer, shape, size_eq⟩
  cases h
  rfl

theorem length_of_shape_cons (h : a.shape = outer :: inner) :
    a.length = outer * volume inner := by
  show a.buffer.length = volume (outer :: inner)
  rw [← h, a.size_eq]

theorem scalars_part {buffer : Buffer}
    (h : volume (outer :: inner) = buffer.length) (index : Fin outer) :
    (part buffer h index).scalars = group (volume inner) buffer.scalars index :=
  (group_map _ _ _ _).symm

theorem length_scalars (a : NdArray) : a.scalars.length = volume a.shape := by
  rw [a.size_eq]
  exact List.length_map _

theorem length_rows (h : a.shape = outer :: inner) : a.rows.length = outer := by
  rw [rows_of_shape_cons h, List.length_map, List.length_finRange]

theorem shape_of_mem_rows (h : a.shape = outer :: inner) {row : NdArray}
    (hrow : row ∈ a.rows) :
    row.shape = inner := by
  rw [rows_of_shape_cons h] at hrow
  rcases List.mem_map.mp hrow with ⟨index, _, rfl⟩
  rfl

theorem eq_of_mem_rows (h : a.shape = []) {row : NdArray}
    (hrow : row ∈ a.rows) : row = a := by
  rw [rows_of_shape_nil h] at hrow
  exact List.mem_singleton.mp hrow

theorem shape_eq_tail_of_mem_rows {row : NdArray} (hrow : row ∈ a.rows) :
    row.shape = a.shape.tail := by
  cases h : a.shape with
  | nil => rw [eq_of_mem_rows h hrow, h, List.tail_nil]
  | cons outer inner => exact shape_of_mem_rows h hrow

theorem length_of_mem_rows (h : a.shape = outer :: inner) {row : NdArray}
    (hrow : row ∈ a.rows) :
    row.length = volume inner := by
  rw [← shape_of_mem_rows h hrow, row.size_eq]
  rfl

theorem map_scalars_rows (h : a.shape = outer :: inner) :
    a.rows.map scalars = (List.range outer).map
      (group (volume inner) a.scalars) := by
  rw [rows_of_shape_cons h, List.map_map, ← List.map_coe_finRange_eq_range,
    List.map_map]
  exact List.map_congr_left fun index _ => scalars_part (h ▸ a.size_eq) index

theorem flatMap_scalars_rows (a : NdArray) :
    a.rows.flatMap scalars = a.scalars := by
  cases h : a.shape with
  | nil => rw [rows_of_shape_nil h, List.flatMap_singleton]
  | cons outer inner =>
      have hlength : a.scalars.length = outer * volume inner := by
        rw [length_scalars, h, volume]
      rw [List.flatMap_def, map_scalars_rows h, ← List.flatMap_def,
        flatMap_group, List.take_of_length_le hlength.le]

end NdArray
end Columnar
