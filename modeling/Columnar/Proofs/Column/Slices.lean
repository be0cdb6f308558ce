import Columnar.Proofs.Column.Cells

/-!
# Slices of well-formed columns

A column that is cut out of a well-formed one is well-formed, of the same type
and null in the same rows, whether its children are cut along or, below a list,
kept whole.
-/

namespace Columnar

theorem Validity.covers_window {validity : Validity} {rows offset count : Nat}
    (h : validity.Covers rows) (hfits : offset + count ≤ rows) :
    Validity.Covers (validity.map fun bits => Column.window bits offset count)
      count := by
  cases validity with
  | none => trivial
  | some bits =>
      have hlength : bits.length = rows := h
      exact Column.length_window (by omega)

namespace Column

theorem isNull_slice (c : Column) {offset count row : Nat} (h : row < count) :
    (c.slice offset count).isNull row = c.isNull (offset + row) := by
  rw [isNull_eq, isNull_eq, validity_slice, isNull_window h]

theorem present_slice {c : Column} {offset count start stop : Nat}
    (hstop : stop ≤ count) (h : c.Present (offset + start) (offset + stop)) :
    (c.slice offset count).Present start stop := by
  intro item hitem hstart
  rw [isNull_slice c (Nat.lt_of_lt_of_le hitem hstop)]
  exact h (offset + item) (Nat.add_lt_add_left hitem offset)
    (Nat.add_le_add_left hstart offset)

theorem Offsets.window {offsets : List Nat} {items offset count : Nat}
    (h : Offsets offsets items) (hfits : offset + count < offsets.length) :
    Offsets (Column.window offsets offset (count + 1)) items where
  nonempty := by
    rw [← List.length_pos_iff, length_window hfits]
    exact Nat.succ_pos count
  monotone :=
    h.monotone.sublist ((List.take_sublist _ _).trans (List.drop_sublist _ _))
  within := fun start hstart =>
    h.within start (List.mem_of_mem_drop (List.mem_of_mem_take hstart))

mutual

theorem type_slice :
    forall (c : Column) (offset count : Nat),
      (c.slice offset count).type = c.type
  | .leaf _ _ _, _, _ => by
      rw [slice, type, type]
  | .fixedList _ _ _ child _, _, _ => by
      rw [slice, type, type, type_slice child]
  | .list _ _ _ _, _, _ => by
      rw [slice, type, type]
  | .struct _ fields _, _, _ => by
      rw [slice, type, type, fieldTypes_sliceFields fields]

theorem fieldTypes_sliceFields :
    forall (fields : List (Label × Column)) (offset count : Nat),
    fieldTypes (sliceFields fields offset count) = fieldTypes fields
  | [], _, _ => by
      rw [sliceFields]
  | (_, child) :: rest, _, _ => by
      rw [sliceFields, fieldTypes, fieldTypes, type_slice child,
        fieldTypes_sliceFields rest]

end

mutual

theorem wellFormed_slice :
    forall (c : Column) {offset count : Nat}, c.WellFormed ->
    offset + count ≤ c.length -> (c.slice offset count).WellFormed
  | .leaf _ slots validity, offset, count, hwell, hfits => by
      have hlength : (window slots offset count).length = count :=
        length_window hfits
      rw [slice, WellFormed, hlength]
      exact Validity.covers_window hwell hfits
  | .fixedList item size rows child validity, offset, count, hwell, hfits => by
      rcases hwell with ⟨hcovers, hitems, hchild, hnulls⟩
      have hcut : offset * size + count * size ≤ child.length := by
        rw [← Nat.add_mul]
        exact Nat.le_trans (Nat.mul_le_mul_right size hfits) hitems
      rw [slice, WellFormed, length_slice hcut]
      refine ⟨Validity.covers_window hcovers hfits, Nat.le_refl _,
        wellFormed_slice child hchild hcut, ?_⟩
      intro hitem row hrow hpresent
      rw [isNull_window hrow] at hpresent
      have hrows :=
        hnulls hitem (offset + row) (by rw [length] at hfits; omega) hpresent
      rw [Nat.add_assoc, Nat.add_mul, Nat.add_mul] at hrows
      exact present_slice (Nat.mul_le_mul_right size hrow) hrows
  | .list item offsets child validity, offset, count, hwell, hfits => by
      rcases hwell with ⟨hcovers, hoffsets, hchild, hnulls⟩
      have hpos : 0 < offsets.length :=
        List.length_pos_iff.mpr hoffsets.nonempty
      have hcut : offset + count < offsets.length := by
        rw [length] at hfits
        omega
      have hlength : (window offsets offset (count + 1)).length - 1 =
          count := by
        rw [length_window hcut, Nat.add_sub_cancel]
      rw [slice, WellFormed, hlength]
      refine ⟨Validity.covers_window hcovers hfits,
        hoffsets.window hcut, hchild, ?_⟩
      intro hitem row hrow hpresent
      rw [isNull_window hrow] at hpresent
      rw [startOf_window (Nat.lt_succ_of_lt hrow),
        startOf_window (Nat.succ_lt_succ hrow)]
      exact hnulls hitem (offset + row) (by omega) hpresent
  | .struct rows fields validity, offset, count, hwell, hfits => by
      rw [slice, WellFormed]
      exact ⟨Validity.covers_window hwell.1 hfits,
        wellFormedFields_slice fields hwell.2 hfits⟩

theorem wellFormedFields_slice {parent : Validity} {rows : Nat} :
    forall (fields : List (Label × Column)) {offset count : Nat},
      WellFormedFields parent rows fields -> offset + count ≤ rows ->
        WellFormedFields (parent.map fun bits => window bits offset count) count
          (sliceFields fields offset count)
  | [], _, _, _, _ => by
      rw [sliceFields]
      trivial
  | (label, child) :: rest, offset, count, hwell, hfits => by
      rcases hwell with ⟨hlength, hchild, hnulls, hrest⟩
      have hcut : offset + count ≤ child.length := hlength ▸ hfits
      rw [sliceFields, WellFormedFields]
      refine ⟨length_slice hcut, wellFormed_slice child hchild hcut, ?_,
        wellFormedFields_slice rest hrest hfits⟩
      intro hlabel row hrow hpresent
      rw [isNull_window hrow] at hpresent
      rw [isNull_slice child hrow]
      exact hnulls hlabel (offset + row) (by omega) hpresent

end

end Column
end Columnar
