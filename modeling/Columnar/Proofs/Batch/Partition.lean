import Columnar.Batch.Basic
import Columnar.Proofs.Codec.Encoding
import Columnar.Proofs.Column.Cells

/-!
# Batches cut into rows

A batch is cut by lengths that make up its own.  Each row then holds the next
instances in their order, so the rows put together show what the batch does.
-/

namespace Columnar

namespace Column

/-! ## Consecutive runs of rows -/

theorem total_eq_sum (lengths : List Nat) : total lengths = lengths.sum := by
  induction lengths with
  | nil => rfl
  | cons length rest ih => rw [total, List.sum_cons, ih]

/-- The rows of a column from `start` on, in runs of the given lengths. -/
def cuts (c : Column) (start : Nat) : List Nat -> List Column
  | [] => []
  | length :: rest => c.slice start length :: cuts c (start + length) rest

theorem length_cuts (c : Column) (start : Nat) (lengths : List Nat) :
    (c.cuts start lengths).length = lengths.length := by
  induction lengths generalizing start with
  | nil => rfl
  | cons length rest ih => rw [cuts, List.length_cons, List.length_cons, ih]

theorem getElem?_cuts (c : Column) (start : Nat) {lengths : List Nat}
    {index length : Nat} (h : lengths[index]? = some length) :
    (c.cuts start lengths)[index]? =
      some (c.slice (start + (lengths.take index).sum) length) := by
  induction lengths generalizing start index with
  | nil => cases h
  | cons first rest ih =>
      cases index with
      | zero =>
          cases h
          rfl
      | succ index =>
          rw [cuts, List.getElem?_cons_succ, ih _ h, List.take_succ_cons,
            List.sum_cons, Nat.add_assoc]

theorem sum_take_add_le {lengths : List Nat} {index length : Nat}
    (h : lengths[index]? = some length) :
    (lengths.take index).sum + length ≤ lengths.sum := by
  induction lengths generalizing index with
  | nil => cases h
  | cons first rest ih =>
      cases index with
      | zero =>
          cases h
          simp
      | succ index =>
          have hrest : (rest.take index).sum + length ≤ rest.sum := ih h
          rw [List.take_succ_cons, List.sum_cons, List.sum_cons]
          omega

theorem flatMap_cells_cuts {c : Column} {start : Nat} {lengths : List Nat}
    (h : start + lengths.sum ≤ c.length) :
    (c.cuts start lengths).flatMap cells =
      window c.cells start lengths.sum := by
  induction lengths generalizing start with
  | nil => simp [cuts, window]
  | cons length rest ih =>
      rw [List.sum_cons] at h
      rw [cuts, List.flatMap_cons, cells_slice (by omega), ih (by omega),
        List.sum_cons, window,
        window, window, List.take_add, List.drop_drop]

/-! ## Rows of a list -/

def listRows : Column -> List Column
  | .list _ offsets child _ =>
      (offsets.zip offsets.tail).map fun (start, stop) =>
        child.slice start (stop - start)
  | _ => []

def offsets? : Column -> Option (List Nat)
  | .list _ offsets _ _ => some offsets
  | _ => none

theorem offsetsFrom_eq_cons (start : Nat) (lengths : List Nat) :
    offsetsFrom start lengths = start :: (offsetsFrom start lengths).tail := by
  cases lengths <;> rfl

theorem listRows_offsetsFrom (item : Label) (start : Nat) (lengths : List Nat)
    (child : Column) (validity : Validity) :
    (list item (offsetsFrom start lengths) child validity).listRows =
      child.cuts start lengths := by
  induction lengths generalizing start with
  | nil => rfl
  | cons length rest ih =>
      have hrest := ih (start + length)
      rw [listRows, offsetsFrom_eq_cons] at hrest
      rw [listRows, offsetsFrom, offsetsFrom_eq_cons (start + length), cuts,
        ← hrest, List.tail_cons, List.zip_cons_cons, List.map_cons]
      dsimp only
      rw [Nat.add_sub_cancel_left, List.tail_cons]

end Column

namespace Batch

/-! ## Cutting a batch -/

/--
The lengths make up that of the batch, and the end of the last row is a 32-bit
word.
-/
def DividedBy (b : Batch) (lengths : List Nat) : Prop :=
  lengths.sum = b.length ∧ lengths.sum < Datatype.wordLimit

instance (b : Batch) (lengths : List Nat) : Decidable (b.DividedBy lengths) :=
  inferInstanceAs (Decidable (_ ∧ _))

theorem partition_eq (b : Batch) (lengths : List Nat) :
    b.partition lengths =
      if lengths.sum ≠ b.length then
        .error (.lengthMismatch b.length lengths.sum)
      else if lengths.sum < Datatype.wordLimit then
        .ok (.list instanceLabel (Column.offsetsFrom 0 lengths) b.column none)
      else .error .offsetOverflow := by
  have hoffsets := Datatype.all_offsetsFrom_iff Column.offsetLimit 0 lengths
  rw [Nat.zero_add] at hoffsets
  rw [partition, Column.total_eq_sum]
  split
  · rfl
  · exact if_congr hoffsets rfl rfl

/--
What a batch is cut into: the next instances for each length, and nothing is
left.
-/
structure CutInto (b : Batch) (lengths : List Nat) (p : PartitionedBatch) :
    Prop where
  descriptor : p.descriptor = b.descriptor
  length : p.column.length = lengths.length
  present : forall row, p.column.isNull row = false
  offsets : p.column.offsets? = some (Column.offsetsFrom 0 lengths)
  count : p.column.listRows.length = lengths.length
  row : forall index length, lengths[index]? = some length ->
    exists row, p.column.listRows[index]? = some row ∧
      row = b.column.slice (lengths.take index).sum length ∧ row.length = length
  cells : p.column.listRows.flatMap Column.cells = b.column.cells

theorem partitioned_eq_ok_iff {b : Batch} {lengths : List Nat}
    {p : PartitionedBatch} :
    b.partitioned lengths = .ok p ↔ b.DividedBy lengths ∧
      ⟨b.descriptor, .list instanceLabel (Column.offsetsFrom 0 lengths) b.column
        none⟩ = p := by
  rw [partitioned, partition_eq, DividedBy]
  by_cases hsum : lengths.sum = b.length
  · by_cases hfit : lengths.sum < Datatype.wordLimit
    · rw [if_neg (not_not.mpr hsum), if_pos hfit]
      simp [Except.map, hsum, hsum ▸ hfit]
    · rw [if_neg (not_not.mpr hsum), if_neg hfit]
      simp [Except.map, hfit]
  · rw [if_pos hsum]
    simp [Except.map, hsum]

theorem cutInto_of_dividedBy {b : Batch} {lengths : List Nat}
    (h : b.DividedBy lengths) :
    b.CutInto lengths
      ⟨b.descriptor, .list instanceLabel (Column.offsetsFrom 0 lengths)
        b.column none⟩ where
  descriptor := rfl
  length := by
    show (Column.offsetsFrom 0 lengths).length - 1 = lengths.length
    rw [Datatype.length_offsetsFrom, Nat.add_sub_cancel]
  present := fun _ => rfl
  offsets := rfl
  count := by
    rw [Column.listRows_offsetsFrom, Column.length_cuts]
  row := by
    intro index length hindex
    have hlength : b.column.length = lengths.sum := h.1.symm
    have hrow := Column.getElem?_cuts b.column 0 hindex
    rw [Nat.zero_add] at hrow
    refine ⟨_, ?_, rfl, ?_⟩
    · rw [Column.listRows_offsetsFrom]
      exact hrow
    · exact Column.length_slice (hlength ▸ Column.sum_take_add_le hindex)
  cells := by
    have hlength : lengths.sum = b.column.length := h.1
    rw [Column.listRows_offsetsFrom, Column.flatMap_cells_cuts (by omega),
      Column.window,
      List.drop_zero, hlength, ← Column.length_cells, List.take_length]

theorem exists_partitioned_iff {b : Batch} {lengths : List Nat} :
    (exists p, b.partitioned lengths = .ok p) ↔ b.DividedBy lengths := by
  simp only [partitioned_eq_ok_iff, exists_and_left, exists_eq', and_true]

theorem cutInto_of_partitioned {b : Batch} {lengths : List Nat}
    {p : PartitionedBatch} (h : b.partitioned lengths = .ok p) :
    b.CutInto lengths p := by
  rcases partitioned_eq_ok_iff.mp h with ⟨hdivided, rfl⟩
  exact cutInto_of_dividedBy hdivided

end Batch
end Columnar
