import Columnar.Proofs.Array.ElementCount
import Columnar.Proofs.Array.Rows
import Columnar.Proofs.Batch.Nested

/-!
# Addressing the rows of an array

Where a row starts and ends in the buffer is a multiple of the elements that the
inner dimensions span.  Cutting with every such product checked gives the rows
of each array a caller can come by, save where no row is asked for: in front of
the inner dimensions an empty one hides from the check that was made when the
array was put together that they overflow by themselves.
-/

namespace Columnar

variable {shape inner front : List Nat} {outer count total : Nat}
  {a row : NdArray}

def Buffer.slice? (b : Buffer) (start stop : Nat) : Option Buffer :=
  if start ≤ stop ∧ stop ≤ b.length then
    some ⟨b.kind, (b.values.take stop).drop start⟩
  else
    none

theorem Buffer.slice?_eq_group {b : Buffer} {size index : Nat}
    (h : (index + 1) * size ≤ b.length) :
    b.slice? (index * size) ((index + 1) * size) =
      some ⟨b.kind, group size b.values index⟩ := by
  have hstart : index * size ≤ (index + 1) * size :=
    Nat.mul_le_mul_right size (Nat.le_succ index)
  have hsize : (index + 1) * size - index * size = size := by
    rw [Nat.succ_mul, Nat.add_sub_cancel_left]
  rw [slice?, if_pos ⟨hstart, h⟩, List.drop_take, hsize]
  rfl

namespace NdArray

/-! ## Checked cuts -/

def product? (m n : Nat) : Option Nat :=
  if m * n < addressLimit then some (m * n) else none

/--
One row of the given dimensions and stride, each product and both ends of it
checked.
-/
def row? (a : NdArray) (inner : List Nat) (stride index : Nat) :
    Option NdArray := do
  let start <- product? index stride
  let stop <- product? (index + 1) stride
  let buffer <- a.buffer.slice? start stop
  if h : volume inner = buffer.length then some ⟨buffer, inner, h⟩ else none

/--
The rows of an array, the stride multiplied up from the left and every step
checked.
-/
def cut? (a : NdArray) : Option (List NdArray) :=
  match a.shape with
  | [] => some [a]
  | outer :: inner => do
      let stride <- elementCount? inner
      (List.finRange outer).mapM fun index => a.row? inner stride index.val

theorem end_le_length (h : a.shape = outer :: inner) {index : Nat}
    (hindex : index < outer) :
    (index + 1) * volume inner ≤ a.length := by
  rw [length_of_shape_cons h]
  exact Nat.mul_le_mul_right _ hindex

theorem row?_eq_part (h : a.shape = outer :: inner)
    (hlength : a.length < addressLimit) (index : Fin outer) :
    a.row? inner (volume inner) index =
      some (part a.buffer (h ▸ a.size_eq) index) := by
  have hstop := end_le_length h index.isLt
  have hstart : index * volume inner ≤ (index + 1) * volume inner :=
    Nat.mul_le_mul_right _ (Nat.le_succ index)
  have hslice := Buffer.slice?_eq_group (b := a.buffer) hstop
  rw [row?, product?, if_pos (hstart.trans_lt (hstop.trans_lt hlength)),
    product?, if_pos (hstop.trans_lt hlength)]
  show (a.buffer.slice? (index * volume inner) ((index + 1) * volume inner)
    >>= _) = _
  rw [hslice]
  exact dif_pos (part a.buffer (h ▸ a.size_eq) index).size_eq

theorem cut?_of_shape_nil (h : a.shape = []) : a.cut? = some a.rows := by
  rw [cut?, h, rows_of_shape_nil h]

theorem cut?_of_shape_cons (h : a.shape = outer :: inner)
    (hlength : a.length < addressLimit) (hinner : elementCount? inner ≠ none) :
    a.cut? = some a.rows := by
  rcases Option.ne_none_iff_exists'.mp hinner with ⟨stride, hstride⟩
  cases volume_eq_of_elementCount? hstride
  rw [cut?, h]
  show (elementCount? inner >>= _) = _
  rw [hstride, rows_of_shape_cons h]
  exact mapM_eq_some_map fun index _ => row?_eq_part h hlength index

theorem cut?_of_none (h : a.shape = outer :: inner)
    (hinner : elementCount? inner = none) :
    a.cut? = none := by
  rw [cut?, h]
  show (elementCount? inner >>= _) = _
  rw [hinner]
  rfl

/-! ## Arrays that callers come by -/

/--
Arrays put together out of a buffer, with dimensions or flat, and rows of such
arrays.
-/
inductive Made : NdArray -> Prop
  | ofShape {buffer : Buffer} {shape : List Nat} {a : NdArray} :
      NdArray.ofShape buffer shape = .ok a -> Made a
  | flat {buffer : Buffer} : buffer.length < addressLimit -> Made (flat buffer)
  | row {a row : NdArray} : Made a -> row ∈ a.rows -> Made row

theorem elementCount?_of_ofShape {buffer : Buffer}
    (h : ofShape buffer shape = .ok a) :
    elementCount? a.shape = some a.length := by
  unfold ofShape at h
  split at h
  · cases h
  · next hcount =>
      split at h
      · next hlength =>
          cases h
          exact hcount.trans (congrArg some hlength)
      · cases h

theorem elementCount?_flat {buffer : Buffer}
    (h : buffer.length < addressLimit) :
    elementCount? (flat buffer).shape = some (flat buffer).length := by
  show countFrom? 1 [buffer.length] = some buffer.length
  rw [countFrom?, Nat.one_mul, if_pos h, countFrom?]

theorem elementCount?_of_mem_rows (h : elementCount? a.shape = some a.length)
    (hrow : row ∈ a.rows) : elementCount? row.shape = some row.length := by
  cases hshape : a.shape with
  | nil =>
      rw [eq_of_mem_rows hshape hrow]
      exact h
  | cons outer inner =>
      have houter : outer ≠ 0 := by
        rintro rfl
        have hnone := List.length_eq_zero_iff.mp (length_rows hshape)
        rw [hnone] at hrow
        cases hrow
      rw [hshape] at h
      rw [shape_of_mem_rows hshape hrow, length_of_mem_rows hshape hrow]
      exact elementCount?_of_cons h houter

theorem Made.elementCount?_eq (h : a.Made) :
    elementCount? a.shape = some a.length := by
  induction h with
  | ofShape h => exact elementCount?_of_ofShape h
  | flat h => exact elementCount?_flat h
  | row _ hrow ih => exact elementCount?_of_mem_rows ih hrow

theorem Made.length_lt (h : a.Made) : a.length < addressLimit :=
  lt_addressLimit_of_elementCount? h.elementCount?_eq

/--
Checked cuts fail only where no row is asked for and the inner dimensions
overflow.
-/
theorem Made.cut?_cases (h : a.Made) :
    a.cut? = some a.rows ∨
      exists inner, a.shape = 0 :: inner ∧
        addressLimit ≤ volume (leading inner) := by
  cases hshape : a.shape with
  | nil => exact Or.inl (cut?_of_shape_nil hshape)
  | cons outer inner =>
      by_cases hinner : elementCount? inner = none
      · have hcount := h.elementCount?_eq
        rw [hshape] at hcount
        have houter : outer = 0 := by
          by_contra hne
          cases hinner.symm.trans (elementCount?_of_cons hcount hne)
        exact Or.inr
          ⟨inner, by rw [houter], elementCount?_eq_none_iff.mp hinner⟩
      · exact Or.inl (cut?_of_shape_cons hshape h.length_lt hinner)

theorem Made.cut?_eq_none_iff (h : a.Made) :
    a.cut? = none ↔
      exists inner, a.shape = 0 :: inner ∧
        addressLimit ≤ volume (leading inner) := by
  constructor
  · intro hnone
    rcases h.cut?_cases with hrows | hempty
    · cases hrows.symm.trans hnone
    · exact hempty
  · intro hempty
    rcases hempty with ⟨inner, hshape, hover⟩
    exact cut?_of_none hshape (elementCount?_eq_none_iff.mpr hover)

theorem Made.cut?_of_ne_zero (h : a.Made) (hshape : a.shape = outer :: inner)
    (houter : outer ≠ 0) :
    a.cut? = some a.rows := by
  rcases h.cut?_cases with hrows | ⟨_, hempty, _⟩
  · exact hrows
  · cases hshape.symm.trans hempty
    exact absurd rfl houter

theorem Made.volume_lt (h : a.Made) (hshape : a.shape = outer :: inner)
    (houter : outer ≠ 0) (hfront : front <+: inner) :
    volume front < addressLimit := by
  have hcount := h.elementCount?_eq
  rw [hshape] at hcount
  have hinner := elementCount?_of_cons hcount houter
  exact lt_addressLimit_of_elementCount? (elementCount?_front hinner hfront)

theorem Made.ends_lt (h : a.Made) (hshape : a.shape = outer :: inner)
    {index : Nat} (hindex : index < outer) :
    index * volume inner < addressLimit ∧
      (index + 1) * volume inner < addressLimit ∧
      (index + 1) * volume inner ≤ a.buffer.length := by
  have hstop := end_le_length hshape hindex
  have hstart : index * volume inner ≤ (index + 1) * volume inner :=
    Nat.mul_le_mul_right _ (Nat.le_succ index)
  exact ⟨hstart.trans_lt (hstop.trans_lt h.length_lt),
    hstop.trans_lt h.length_lt, hstop⟩

theorem Made.exists_table (h : a.Made) {d : Datatype} {size : Nat}
    (hsize : d.groupSize? a.depth a.length = some size) :
    exists (table : NdArray) (rows : List NdArray), Made table ∧
      table.cut? = some rows ∧
      d.splitArray a = rows.map .array := by
  rcases Datatype.splitArray_of_groupSize? hsize with ⟨hvolume, hsplit⟩
  rcases Datatype.divides_of_groupSize? hsize with ⟨_, hsizePos, hlength, hmod⟩
  have hdvd : size ∣ a.length := Nat.dvd_of_mod_eq_zero hmod
  have hcount : a.length / size * size = a.buffer.length :=
    Nat.div_mul_cancel hdvd
  have hlt : a.buffer.length < addressLimit := h.length_lt
  have hgroups : a.length / size < addressLimit :=
    (Nat.div_le_self _ _).trans_lt hlt
  have hfits : elementCount? [a.length / size, size] =
      some a.buffer.length := by
    rw [elementCount?, countFrom?, Nat.one_mul, if_pos hgroups, countFrom?,
      hcount, if_pos hlt, countFrom?]
  have hmade : (a.reshape [a.length / size, size] hvolume).Made :=
    .ofShape (ofShape_of_length hfits)
  have hrows : a.length / size ≠ 0 :=
    (Nat.div_pos (Nat.le_of_dvd hlength hdvd) (Nat.zero_lt_of_lt hsizePos)).ne'
  exact ⟨_, _, hmade, hmade.cut?_of_ne_zero rfl hrows, hsplit⟩

/--
Cutting an array that a caller comes by never leaves its buffer, and no product
on the way overflows, except that of inner dimensions behind an empty one, where
there is nothing to cut.  The table of groups that flat data is cut by has no
such dimension.
-/
theorem Made.cut_addressable (h : a.Made) :
    (a.cut? = some a.rows ∨ a.cut? = none ∧ a.rows = []) ∧
    (a.cut? = none ↔
      exists inner, a.shape = 0 :: inner ∧
        addressLimit ≤ volume (leading inner)) ∧
    (forall outer inner, a.shape = outer :: inner -> outer ≠ 0 ->
      (forall front, front <+: inner -> volume front < addressLimit) ∧
      forall index, index < outer ->
        index * volume inner < addressLimit ∧
          (index + 1) * volume inner < addressLimit ∧
          (index + 1) * volume inner ≤ a.buffer.length) ∧
    (forall (d : Datatype) (size : Nat),
      d.groupSize? a.depth a.length = some size ->
      exists (table : NdArray) (rows : List NdArray), Made table ∧
        table.cut? = some rows ∧
        d.splitArray a = rows.map .array) := by
  refine ⟨?_, h.cut?_eq_none_iff, ?_, fun _ _ => h.exists_table⟩
  · rcases h.cut?_cases with hrows | ⟨inner, hshape, hover⟩
    · exact Or.inl hrows
    · exact Or.inr ⟨h.cut?_eq_none_iff.mpr ⟨inner, hshape, hover⟩,
        List.length_eq_zero_iff.mp (length_rows hshape)⟩
  · intro outer inner hshape houter
    exact ⟨fun _ => h.volume_lt hshape houter, fun _ => h.ends_lt hshape⟩

namespace Sample

def grid : NdArray := ⟨sixBytes, [2, 3], rfl⟩

def emptyCube : NdArray := ⟨noBits, [0, 9223372036854775808, 2], rfl⟩

theorem ofShape_grid : ofShape sixBytes [2, 3] = .ok grid := rfl

theorem ofShape_emptyCube :
    ofShape noBits [0, 9223372036854775808, 2] = .ok emptyCube := rfl

end Sample

open Sample in
theorem cut_addressable_grid :
    (forall row, row ∈ grid.rows -> row.Made ∧ row.cut? = some row.rows) ∧
    (flat sixBytes).Made ∧
      exists (table : NdArray) (rows : List NdArray), Made table ∧
        table.cut? = some rows ∧
        (Datatype.fixedList "sample.Pair" .u8 2).splitArray (flat sixBytes) =
          rows.map .array := by
  have hgrid : grid.Made := .ofShape ofShape_grid
  have hflat : (flat sixBytes).Made := .flat (by decide)
  refine ⟨?_, hflat, hflat.cut_addressable.2.2.2 _ 2 rfl⟩
  intro row hrow
  have hmade : row.Made := .row hgrid hrow
  refine ⟨hmade, ?_⟩
  rcases hmade.cut_addressable.1 with hrows | ⟨hnone, _⟩
  · exact hrows
  · -- The only dimension of a row of the grid is not empty.
    rcases hmade.cut_addressable.2.1.mp hnone with ⟨inner, hshape, _⟩
    cases (shape_of_mem_rows rfl hrow).symm.trans hshape

open Sample in
/--
Behind an empty dimension the others may overflow when they are multiplied by
themselves.
-/
theorem inner_dimensions_overflow :
    emptyCube.Made ∧ emptyCube.shape = [0, 9223372036854775808, 2] ∧
      addressLimit ≤ volume [9223372036854775808, 2] ∧ emptyCube.cut? = none ∧
      ¬ (forall a, Made a -> forall outer inner, a.shape = outer :: inner ->
        forall front, front <+: inner -> volume front < addressLimit) := by
  have hcube : emptyCube.Made := .ofShape ofShape_emptyCube
  refine ⟨hcube, rfl, by decide, rfl, ?_⟩
  intro h
  exact absurd (h emptyCube hcube 0 _ rfl _ List.prefix_rfl) (by decide)

end NdArray
end Columnar
