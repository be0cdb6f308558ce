import Mathlib.Data.List.TakeWhile
import Columnar.Array

/-!
# Counting elements

Dimensions are multiplied up from the left, and every product on the way has to
stay addressable.  The products grow up to the first empty dimension and are
zero from there on, so it is the dimensions in front of that one that overflow
or do not, however few elements all of them span.
-/

namespace Columnar

variable {shape other front : List Nat} {count total : Nat}

/-! ## Volumes -/

theorem volume_perm (h : shape.Perm other) : volume shape = volume other := by
  induction h with
  | nil => rfl
  | cons dim _ ih => rw [volume, volume, ih]
  | swap a b rest => rw [volume, volume, volume, volume, Nat.mul_left_comm]
  | trans _ _ ih ih' => exact ih.trans ih'

theorem volume_eq_zero_iff : volume shape = 0 ↔ 0 ∈ shape := by
  induction shape with
  | nil => simp [volume]
  | cons dim rest ih => rw [volume, Nat.mul_eq_zero, ih, List.mem_cons, eq_comm]

/-- The dimensions in front of the first empty one. -/
def leading (shape : List Nat) : List Nat := shape.takeWhile (· != 0)

theorem leading_cons_zero (rest : List Nat) : leading (0 :: rest) = [] := rfl

theorem leading_cons {dim : Nat} (h : dim ≠ 0) (rest : List Nat) :
    leading (dim :: rest) = dim :: leading rest :=
  List.takeWhile_cons_of_pos (bne_iff_ne.mpr h)

theorem leading_eq_self (h : 0 ∉ shape) : leading shape = shape := by
  apply List.takeWhile_eq_self_iff.mpr
  intro dim hdim
  rw [bne_iff_ne]
  rintro rfl
  exact h hdim

theorem volume_leading_pos (shape : List Nat) : 0 < volume (leading shape) := by
  apply Nat.pos_of_ne_zero
  rw [Ne, volume_eq_zero_iff]
  intro hzero
  exact absurd (List.mem_takeWhile_imp hzero) (by decide)

theorem volume_leading_le_append (front back : List Nat) :
    volume (leading front) ≤ volume (leading (front ++ back)) := by
  induction front with
  | nil => exact volume_leading_pos back
  | cons dim rest ih =>
      rcases Nat.eq_zero_or_pos dim with rfl | hdim
      · rfl
      · rw [List.cons_append, leading_cons hdim.ne', leading_cons hdim.ne',
          volume, volume]
        exact Nat.mul_le_mul_left dim ih

/-! ## The checked product -/

namespace NdArray

theorem addressLimit_pos : 0 < addressLimit := by decide

/--
A product so far stays addressable exactly when the leading dimensions keep it
so.
-/
theorem countFrom?_eq (hcount : count < addressLimit) (shape : List Nat) :
    countFrom? count shape =
      if count * volume (leading shape) < addressLimit then
        some (count * volume shape)
      else none := by
  induction shape generalizing count with
  | nil =>
      show some count = if count * 1 <
        addressLimit then some (count * 1) else none
      rw [Nat.mul_one, if_pos hcount]
  | cons dim rest ih =>
      rw [countFrom?, volume]
      rcases Nat.eq_zero_or_pos dim with rfl | hdim
      · rw [Nat.mul_zero, if_pos addressLimit_pos, ih addressLimit_pos,
          Nat.zero_mul, Nat.zero_mul, if_pos addressLimit_pos,
          leading_cons_zero, volume, Nat.mul_one, if_pos hcount, Nat.mul_zero]
      · rw [leading_cons hdim.ne', volume, ← Nat.mul_assoc, ← Nat.mul_assoc]
        by_cases hstep : count * dim < addressLimit
        · rw [if_pos hstep, ih hstep]
        · -- What follows in front of an empty dimension does not make a product smaller.
          have hgrows : count * dim ≤ count * dim * volume (leading rest) :=
            Nat.le_mul_of_pos_right _ (volume_leading_pos rest)
          rw [if_neg hstep, if_neg fun hlt => hstep (hgrows.trans_lt hlt)]

theorem elementCount?_eq (shape : List Nat) :
    elementCount? shape =
      if volume (leading shape) < addressLimit then
        some (volume shape)
      else
        none := by
  rw [elementCount?, countFrom?_eq (by decide), Nat.one_mul, Nat.one_mul]

theorem elementCount?_eq_none_iff :
    elementCount? shape = none ↔ addressLimit ≤ volume (leading shape) := by
  rw [elementCount?_eq, ite_eq_right_iff, ← Nat.not_lt]
  simp

theorem elementCount?_eq_some_iff :
    elementCount? shape = some total ↔
      volume (leading shape) < addressLimit ∧ volume shape = total := by
  rw [elementCount?_eq, Option.ite_none_right_eq_some, Option.some_inj]

theorem lt_addressLimit_of_elementCount?
    (h : elementCount? shape = some total) :
    total < addressLimit := by
  rcases elementCount?_eq_some_iff.mp h with ⟨hfits, rfl⟩
  by_cases hzero : 0 ∈ shape
  · rw [volume_eq_zero_iff.mpr hzero]
    exact addressLimit_pos
  · rwa [leading_eq_self hzero] at hfits

theorem elementCount?_front (h : elementCount? shape = some total)
    (hfront : front <+: shape) :
    elementCount? front = some (volume front) := by
  rcases hfront with ⟨back, rfl⟩
  have hle := volume_leading_le_append front back
  exact elementCount?_eq_some_iff.mpr
    ⟨hle.trans_lt (elementCount?_eq_some_iff.mp h).1, rfl⟩

theorem elementCount?_of_cons {dim : Nat}
    (h : elementCount? (dim :: shape) = some total) (hdim : dim ≠ 0) :
    elementCount? shape = some (volume shape) := by
  have hfits := (elementCount?_eq_some_iff.mp h).1
  rw [leading_cons hdim, volume] at hfits
  have hle : volume (leading shape) ≤ dim * volume (leading shape) :=
    Nat.le_mul_of_pos_left _ (Nat.pos_of_ne_zero hdim)
  exact elementCount?_eq_some_iff.mpr ⟨hle.trans_lt hfits, rfl⟩

/-! ## Dimensions beside a buffer -/

variable {buffer : Buffer} {a : NdArray}

theorem ofShape_of_none (h : elementCount? shape = none) :
    ofShape buffer shape = .error (.overflow shape) := by
  unfold ofShape
  split
  · rfl
  · next hsome => cases hsome.symm.trans h

theorem ofShape_of_length (h : elementCount? shape = some buffer.length) :
    ofShape buffer shape =
      .ok ⟨buffer, shape, volume_eq_of_elementCount? h⟩ := by
  unfold ofShape
  split
  · next hnone => cases hnone.symm.trans h
  · next expected hsome =>
      cases hsome.symm.trans h
      exact dif_pos rfl

theorem ofShape_of_ne (h : elementCount? shape = some total)
    (hne : total ≠ buffer.length) :
    ofShape buffer shape = .error (.count total buffer.length) := by
  unfold ofShape
  split
  · next hnone => cases hnone.symm.trans h
  · next expected hsome =>
      cases hsome.symm.trans h
      exact dif_neg hne

/--
How dimensions beside a buffer are judged by two counts: they overflow when the
extent cannot be addressed, and otherwise take a buffer of `total` elements.
-/
structure Judged (buffer : Buffer) (shape : List Nat) (extent total : Nat) :
    Prop where
  overflow_iff : ofShape buffer shape = .error (.overflow shape) ↔
    addressLimit ≤ extent
  ok_iff : (exists a, ofShape buffer shape = .ok a ∧ a.buffer = buffer ∧
    a.shape = shape) ↔
    extent < addressLimit ∧ total = buffer.length
  count_iff : ofShape buffer shape = .error (.count total buffer.length) ↔
    extent < addressLimit ∧ total ≠ buffer.length

theorem judged_leading (buffer : Buffer) (shape : List Nat) :
    Judged buffer shape (volume (leading shape)) (volume shape) := by
  cases hcount : elementCount? shape with
  | none =>
      have hover := elementCount?_eq_none_iff.mp hcount
      have hshape : ofShape buffer shape = .error (.overflow shape) :=
        ofShape_of_none hcount
      constructor
      · simp [hshape, hover]
      · simp [hshape, Nat.not_lt.mpr hover]
      · simp [hshape, Nat.not_lt.mpr hover]
  | some total =>
      rcases elementCount?_eq_some_iff.mp hcount with ⟨hfits, rfl⟩
      by_cases hlength : volume shape = buffer.length
      · have hshape := ofShape_of_length (hlength ▸ hcount)
        constructor
        · simp [hshape, hfits]
        · simp [hshape, hfits, hlength]
        · simp [hshape, hlength]
      · have hshape := ofShape_of_ne hcount hlength
        constructor
        · simp [hshape, hfits]
        · simp [hshape, hlength]
        · simp [hshape, hfits, hlength]

theorem Judged.congr {extent extent' : Nat}
    (hjudged : Judged buffer shape extent total)
    (h : addressLimit ≤ extent ↔ addressLimit ≤ extent') :
    Judged buffer shape extent' total where
  overflow_iff := hjudged.overflow_iff.trans h
  ok_iff := by rw [hjudged.ok_iff, ← Nat.not_le, ← Nat.not_le, h]
  count_iff := by rw [hjudged.count_iff, ← Nat.not_le, ← Nat.not_le, h]

theorem judged_volume_iff :
    Judged buffer shape (volume shape) (volume shape) ↔
      (0 ∈ shape -> volume (leading shape) < addressLimit) := by
  have hleading := judged_leading buffer shape
  constructor
  · intro hvolume hzero
    have hextent := hleading.overflow_iff.symm.trans hvolume.overflow_iff
    rw [volume_eq_zero_iff.mpr hzero] at hextent
    apply Nat.lt_of_not_le
    intro hle
    exact absurd (hextent.mp hle) (by decide)
  · intro h
    apply hleading.congr
    by_cases hzero : 0 ∈ shape
    · have hempty : ¬ addressLimit ≤ volume shape := by
        rw [volume_eq_zero_iff.mpr hzero]
        decide
      exact iff_of_false (Nat.not_le.mpr (h hzero)) hempty
    · rw [leading_eq_self hzero]

/--
Dimensions overflow when those in front of the first empty one span more
elements than can be addressed.  The volume of all of them decides in their
place unless an empty dimension hides that they do, and where none is empty it
decides in any order.
-/
theorem dimensions_judged (buffer : Buffer) (shape : List Nat) :
    Judged buffer shape (volume (leading shape)) (volume shape) ∧
    (Judged buffer shape (volume shape) (volume shape) ↔
      (0 ∈ shape -> volume (leading shape) < addressLimit)) ∧
    (0 ∉ shape -> forall other, shape.Perm other ->
      Judged buffer other (volume shape) (volume shape)) := by
  refine ⟨judged_leading buffer shape, judged_volume_iff, ?_⟩
  intro hsolid other hperm
  rw [volume_perm hperm]
  apply judged_volume_iff.mpr
  intro hzero
  exact absurd (hperm.mem_iff.mpr hzero) hsolid

namespace Sample

def noBits : Buffer := ⟨.bool, []⟩

def sixBytes : Buffer := ⟨.u8, ([1, 2, 3, 4, 5, 6] : List UInt8)⟩

end Sample

open Sample in
theorem dimensions_judged_sixBytes :
    0 ∉ [2, 3] ∧ [2, 3].Perm [3, 2] ∧
      (exists a, ofShape sixBytes [3, 2] = .ok a ∧ a.buffer = sixBytes ∧
        a.shape = [3, 2]) ∧
    0 ∉ [2, 9223372036854775808] ∧
      [2, 9223372036854775808].Perm [9223372036854775808, 2] ∧
      ofShape sixBytes [9223372036854775808, 2] =
        .error (.overflow [9223372036854775808, 2]) := by
  have hsmall : 0 ∉ [2, 3] := by decide
  have hsmallSwap : [2, 3].Perm [3, 2] := .swap _ _ _
  have hlarge : 0 ∉ [2, 9223372036854775808] := by decide
  have hlargeSwap : [2, 9223372036854775808].Perm [9223372036854775808, 2] :=
    .swap _ _ _
  have hfits := (dimensions_judged sixBytes [2, 3]).2.2 hsmall _ hsmallSwap
  have hover :=
    (dimensions_judged sixBytes [2, 9223372036854775808]).2.2
      hlarge _ hlargeSwap
  exact ⟨hsmall, hsmallSwap, hfits.ok_iff.mpr (by decide), hlarge, hlargeSwap,
    hover.overflow_iff.mpr (by decide)⟩

open Sample in
/--
Dimensions that span no elements overflow or fit an empty buffer, depending on
their order.
-/
theorem empty_dimension_comes_too_late :
    volume [9223372036854775808, 2, 0] = noBits.length ∧
      ofShape noBits [9223372036854775808, 2, 0] =
        .error (.overflow [9223372036854775808, 2, 0]) ∧
      (exists a, ofShape noBits [0, 9223372036854775808, 2] = .ok a) ∧
      ¬ Judged noBits [9223372036854775808, 2, 0]
        (volume [9223372036854775808, 2, 0])
        (volume [9223372036854775808, 2, 0]) := by
  refine ⟨rfl, rfl, ⟨_, rfl⟩, ?_⟩
  intro h
  exact absurd (judged_volume_iff.mp h (by decide)) (by decide)

end NdArray
end Columnar
