import Columnar.Normalize.Dimensions
import Columnar.Proofs.Array.Rows

/-!
# Arrays as nested sequences

An array can be written out as sequences nested as deep as it has dimensions.
As long as no dimension is empty the nesting tells the dimensions, so nothing of
the array is lost.
-/

namespace Columnar

/-! ## The nested form -/

/--
Sequences of the given dimensions over the given scalars; a bare scalar without
dimensions.
-/
def NativeValue.nested : List Nat -> List Scalar -> NativeValue
  | [], scalars => scalars.head?.elim .null .scalar
  | outer :: inner, scalars =>
      .sequence ((List.range outer).map fun index =>
        nested inner (group (volume inner) scalars index))

namespace NdArray

def nested (a : NdArray) : NativeValue := .nested a.shape a.scalars

def Solid (a : NdArray) : Prop := forall dim, dim ∈ a.shape -> dim ≠ 0

instance (a : NdArray) : Decidable a.Solid :=
  inferInstanceAs (Decidable (forall _, _ -> _))

variable {a : NdArray} {outer : Nat} {inner : List Nat}

theorem nested_of_shape_nil (h : a.shape = []) :
    exists s, a.scalars = [s] ∧ a.nested = .scalar s := by
  have hlength : a.scalars.length = 1 := by
    rw [length_scalars, h]
    rfl
  rcases List.length_eq_one_iff.mp hlength with ⟨s, hs⟩
  refine ⟨s, hs, ?_⟩
  unfold nested
  rw [h, hs]
  rfl

theorem nested_of_shape_cons (h : a.shape = outer :: inner) :
    a.nested = .sequence (a.rows.map nested) := by
  have hrows : a.rows.map nested = (a.rows.map scalars).map
      (NativeValue.nested inner) := by
    rw [List.map_map]
    apply List.map_congr_left
    intro row hrow
    show NativeValue.nested row.shape row.scalars =
      NativeValue.nested inner row.scalars
    rw [shape_of_mem_rows h hrow]
  rw [hrows, map_scalars_rows h, List.map_map, nested, h]
  rfl

theorem Solid.of_mem_rows (ha : a.Solid) {row : NdArray} (hrow : row ∈ a.rows) :
    row.Solid := by
  intro dim hdim
  rw [shape_eq_tail_of_mem_rows hrow] at hdim
  exact ha dim (List.mem_of_mem_tail hdim)

theorem isNull_nested (a : NdArray) : a.nested.isNull = false := by
  cases h : a.shape with
  | nil =>
      rcases nested_of_shape_nil h with ⟨s, _, hs⟩
      rw [hs]
      rfl
  | cons outer inner =>
      rw [nested_of_shape_cons h]
      rfl

/-! ## What the nested form keeps -/

theorem scalars_nested (a : NdArray) : a.nested.scalars = a.scalars := by
  induction h : a.shape generalizing a with
  | nil =>
      rcases nested_of_shape_nil h with ⟨s, hs, hnested⟩
      rw [hnested, hs]
      rfl
  | cons outer inner ih =>
      have hrows : a.rows.map (fun row => row.nested.scalars) =
          a.rows.map scalars :=
        List.map_congr_left fun row hrow => ih row (shape_of_mem_rows h hrow)
      rw [nested_of_shape_cons h, NativeValue.scalars_sequence,
        List.flatMap_map, List.flatMap_def, hrows, ← List.flatMap_def,
        flatMap_scalars_rows]

theorem exists_mem_rows (ha : a.Solid) (h : a.shape = outer :: inner) :
    exists row rest, a.rows = row :: rest := by
  cases hrows : a.rows with
  | nil =>
      have hlength := length_rows h
      rw [hrows] at hlength
      exact absurd hlength.symm (ha outer (h ▸ List.mem_cons_self))
  | cons row rest => exact ⟨row, rest, rfl⟩

theorem depth_nested (ha : a.Solid) : a.nested.depth = a.depth := by
  induction h : a.shape generalizing a with
  | nil =>
      rcases nested_of_shape_nil h with ⟨s, _, hnested⟩
      rw [hnested, depth, h]
      rfl
  | cons outer inner ih =>
      rcases exists_mem_rows ha h with ⟨row, rest, hrows⟩
      have hrow : row ∈ a.rows := hrows ▸ List.mem_cons_self
      rw [nested_of_shape_cons h, hrows, List.map_cons, NativeValue.depth,
        ih (ha.of_mem_rows hrow) (shape_of_mem_rows h hrow), depth, depth,
        shape_of_mem_rows h hrow, h, List.length_cons, Nat.add_comm]

end NdArray

namespace NativeValue

theorem commonDimensions_append {kind : ElementKind} {shape : List Nat}
    {items : List NativeValue}
    (h : forall item, item ∈ items -> item.dimensions kind = .ok shape)
    (rest : List NativeValue) :
    commonDimensions kind (some shape) (items ++ rest) =
      commonDimensions kind (some shape) rest := by
  induction items with
  | nil => rfl
  | cons item items ih =>
      have hitem := h item List.mem_cons_self
      simp only [List.cons_append, commonDimensions, hitem, if_true]
      exact ih fun other hother => h other (List.mem_cons_of_mem _ hother)

theorem commonDimensions_of_same {kind : ElementKind} {shape : List Nat}
    {items : List NativeValue}
    (h : forall item, item ∈ items -> item.dimensions kind = .ok shape) :
    commonDimensions kind (some shape) items = .ok shape := by
  have hrest := commonDimensions_append h []
  rwa [List.append_nil, commonDimensions, Option.getD_some] at hrest

theorem dimensions_sequence {kind : ElementKind} {shape : List Nat}
    {item : NativeValue} {rest : List NativeValue}
    (h : forall other, other ∈ item :: rest ->
      other.dimensions kind = .ok shape) :
    (sequence (item :: rest)).dimensions kind =
      .ok ((rest.length + 1) :: shape) := by
  have hrest : commonDimensions kind (some shape) rest = .ok shape :=
    commonDimensions_of_same fun other hother =>
      h other (List.mem_cons_of_mem _ hother)
  have hitem := h item List.mem_cons_self
  simp only [dimensions, commonDimensions, hitem, hrest]
  rfl

end NativeValue

namespace NdArray

theorem dimensions_nested {a : NdArray} (ha : a.Solid) (kind : ElementKind) :
    a.nested.dimensions kind = .ok a.shape := by
  induction h : a.shape generalizing a with
  | nil =>
      rcases nested_of_shape_nil h with ⟨s, _, hnested⟩
      rw [hnested, NativeValue.dimensions]
  | cons outer inner ih =>
      rcases exists_mem_rows ha h with ⟨row, rest, hrows⟩
      have hlength : rest.length + 1 = outer := by
        rw [← length_rows h, hrows, List.length_cons]
      have hitems : forall item, item ∈ (row :: rest).map nested ->
          item.dimensions kind = .ok inner := by
        intro item hitem
        rw [← hrows] at hitem
        rcases List.mem_map.mp hitem with ⟨other, hother, rfl⟩
        exact ih (ha.of_mem_rows hother) (shape_of_mem_rows h hother)
      rw [nested_of_shape_cons h, hrows, List.map_cons]
      rw [List.map_cons] at hitems
      rw [NativeValue.dimensions_sequence hitems, List.length_map, hlength]

theorem map_nested_rows_of_flat {a : NdArray} {length : Nat}
    (h : a.shape = [length]) :
    a.rows.map nested = a.scalars.map .scalar := by
  have hrows : a.rows.flatMap (fun row => row.scalars.map NativeValue.scalar) =
      a.rows.map nested := by
    rw [← List.flatMap_pure_eq_map, List.flatMap_def, List.flatMap_def]
    congr 1
    apply List.map_congr_left
    intro row hrow
    rcases nested_of_shape_nil (shape_of_mem_rows h hrow) with ⟨s, hs, hnested⟩
    show row.scalars.map NativeValue.scalar = [row.nested]
    rw [hs, hnested]
    rfl
  rw [← hrows, ← List.map_flatMap, flatMap_scalars_rows]

end NdArray
end Columnar
