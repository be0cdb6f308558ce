import Columnar.Proofs.Array.Addressing

/-!
# Dividing an array

The rows of an array lie in its buffer one behind the other, whatever the
dimensions are, and so do the rows of the rows.  An array that is divided once
for each of its dimensions falls apart into its elements, each of them an array
without dimensions.
-/

namespace Columnar
namespace NdArray

variable {a row piece : NdArray} {buffer : Buffer} {pieces : List NdArray}

/-! ## Pieces of a buffer -/

/-- The buffers of the pieces, one behind the other, are the buffer. -/
def Tiles (buffer : Buffer) (pieces : List NdArray) : Prop :=
  exists parts : List (List buffer.kind.Carrier),
    pieces.map NdArray.buffer = parts.map (Buffer.mk buffer.kind) ∧
      parts.flatten = buffer.values

theorem tiles_singleton (a : NdArray) : Tiles a.buffer [a] :=
  ⟨[a.buffer.values], rfl, List.append_nil _⟩

theorem tiles_rows (a : NdArray) : Tiles a.buffer a.rows := by
  cases h : a.shape with
  | nil =>
      rw [rows_of_shape_nil h]
      exact tiles_singleton a
  | cons outer inner =>
      have hlength : a.buffer.values.length = outer * volume inner :=
        length_of_shape_cons h
      refine ⟨(List.range outer).map (group (volume inner) a.buffer.values),
        ?_, ?_⟩
      · rw [rows_of_shape_cons h, ← List.map_coe_finRange_eq_range,
          List.map_map, List.map_map, List.map_map]
        rfl
      · rw [← List.flatMap_def, flatMap_group,
          List.take_of_length_le hlength.le]

theorem Tiles.kind_eq (h : Tiles buffer pieces) (hpiece : piece ∈ pieces) :
    piece.buffer.kind = buffer.kind := by
  rcases h with ⟨parts, hparts, _⟩
  have hmem : piece.buffer ∈ parts.map (Buffer.mk buffer.kind) := by
    rw [← hparts]
    exact List.mem_map_of_mem hpiece
  rcases List.mem_map.mp hmem with ⟨part, _, hpart⟩
  rw [← hpart]

theorem Tiles.flatMap {divide : NdArray -> List NdArray}
    (h : Tiles buffer pieces)
    (hpieces : forall piece, piece ∈ pieces ->
      Tiles piece.buffer (divide piece)) :
    Tiles buffer (pieces.flatMap divide) := by
  rcases h with ⟨parts, hparts, hvalues⟩
  unfold Tiles
  rw [← hvalues]
  clear hvalues
  induction pieces generalizing parts with
  | nil =>
      cases List.map_eq_nil_iff.mp hparts.symm
      exact ⟨[], rfl, rfl⟩
  | cons piece rest ih =>
      rw [List.forall_mem_cons] at hpieces
      cases parts with
      | nil => cases hparts
      | cons part others =>
          rw [List.map_cons, List.map_cons, List.cons.injEq] at hparts
          have hpiece := hpieces.1
          rw [hparts.1] at hpiece
          rcases hpiece with ⟨inPiece, hinPiece, hpart⟩
          rcases ih hpieces.2 others hparts.2 with ⟨inRest, hinRest, hothers⟩
          refine ⟨inPiece ++ inRest, ?_, ?_⟩
          · rw [List.flatMap_cons, List.map_append, hinPiece, hinRest,
              List.map_append]
          · rw [List.flatten_append, hpart, hothers, List.flatten_cons]

theorem eq_map_singleton_of_length {parts : List (List α)}
    (h : forall part, part ∈ parts -> part.length = 1) :
    parts = parts.flatten.map fun value => [value] := by
  induction parts with
  | nil => rfl
  | cons part rest ih =>
      rw [List.forall_mem_cons] at h
      rcases List.length_eq_one_iff.mp h.1 with ⟨value, rfl⟩
      rw [List.flatten_cons, List.singleton_append, List.map_cons, ← ih h.2]

theorem Tiles.eq_singletons (h : Tiles buffer pieces)
    (hlength : forall piece, piece ∈ pieces -> piece.length = 1) :
    pieces.map NdArray.buffer = buffer.values.map fun value =>
      ⟨buffer.kind, [value]⟩ := by
  rcases h with ⟨parts, hparts, hvalues⟩
  have hsingle : forall part, part ∈ parts -> part.length = 1 := by
    intro part hpart
    have hmem : (⟨buffer.kind, part⟩ : Buffer) ∈ pieces.map NdArray.buffer := by
      rw [hparts]
      exact List.mem_map_of_mem hpart
    rcases List.mem_map.mp hmem with ⟨piece, hpiece, hbuffer⟩
    have hone := hlength piece hpiece
    rw [length, hbuffer] at hone
    exact hone
  rw [hparts, eq_map_singleton_of_length hsingle, hvalues, List.map_map]
  rfl

/-! ## Repeated division -/

/--
What comes out of an array when it and then all that is left is cut, a number of
times.
-/
def divide : Nat -> NdArray -> List NdArray
  | 0, a => [a]
  | times + 1, a => a.rows.flatMap (divide times)

theorem tiles_divide (times : Nat) (a : NdArray) :
    Tiles a.buffer (divide times a) := by
  induction times generalizing a with
  | zero => exact tiles_singleton a
  | succ times ih => exact (tiles_rows a).flatMap fun row _ => ih row

theorem shape_of_mem_divide {times : Nat} (hpiece : piece ∈ divide times a) :
    piece.shape = a.shape.drop times := by
  induction times generalizing a with
  | zero => rw [List.mem_singleton.mp hpiece, List.drop_zero]
  | succ times ih =>
      rcases List.mem_flatMap.mp hpiece with ⟨row, hrow, hpiece⟩
      rw [ih hpiece, shape_eq_tail_of_mem_rows hrow, List.drop_tail]

/-- The strides of a cut and of all later ones can be counted. -/
def StridesFit : List Nat -> Prop
  | [] => True
  | _ :: inner => elementCount? inner ≠ none ∧ StridesFit inner

structure Divisible (a : NdArray) : Prop where
  length_lt : a.length < addressLimit
  stridesFit : StridesFit a.shape

theorem Divisible.cut?_eq (h : a.Divisible) : a.cut? = some a.rows := by
  have hstrides := h.stridesFit
  cases hshape : a.shape with
  | nil => exact cut?_of_shape_nil hshape
  | cons outer inner =>
      rw [hshape] at hstrides
      exact cut?_of_shape_cons hshape h.length_lt hstrides.1

theorem Divisible.of_mem_rows (h : a.Divisible) (hrow : row ∈ a.rows) :
    row.Divisible := by
  have hstrides := h.stridesFit
  cases hshape : a.shape with
  | nil => rwa [eq_of_mem_rows hshape hrow]
  | cons outer inner =>
      rw [hshape] at hstrides
      rcases Option.ne_none_iff_exists'.mp hstrides.1 with ⟨total, htotal⟩
      constructor
      · rw [length_of_mem_rows hshape hrow, volume_eq_of_elementCount? htotal]
        exact lt_addressLimit_of_elementCount? htotal
      · rw [shape_of_mem_rows hshape hrow]
        exact hstrides.2

theorem Divisible.of_mem_divide (h : a.Divisible) {times : Nat}
    (hpiece : piece ∈ divide times a) :
    piece.Divisible := by
  induction times generalizing a with
  | zero => rwa [List.mem_singleton.mp hpiece]
  | succ times ih =>
      rcases List.mem_flatMap.mp hpiece with ⟨row, hrow, hpiece⟩
      exact ih (h.of_mem_rows hrow) hpiece

theorem shape_of_mem_cells {cell : NdArray} (hcell : cell ∈ divide a.depth a) :
    cell.shape = [] := by
  rw [shape_of_mem_divide hcell, depth, List.drop_length]

theorem map_scalars_cells (a : NdArray) :
    (divide a.depth a).map scalars = a.scalars.map fun scalar => [scalar] := by
  have hlength : forall cell, cell ∈ divide a.depth a -> cell.length = 1 := by
    intro cell hcell
    show cell.buffer.length = 1
    rw [← cell.size_eq, shape_of_mem_cells hcell, volume]
  have hbuffers := (tiles_divide a.depth a).eq_singletons hlength
  calc (divide a.depth a).map scalars
      = ((divide a.depth a).map NdArray.buffer).map Buffer.scalars := by
        rw [List.map_map]
        rfl
    _ = a.scalars.map fun scalar => [scalar] := by
        rw [hbuffers, List.map_map, scalars, Buffer.scalars, List.map_map]
        rfl

/--
An array whose strides can be counted is cut into as many rows as its outermost
dimension says, which have the others and lie in the buffer one behind the
other.  What it is cut into can be cut in turn, down to its scalars.
-/
theorem Divisible.rows_partition (h : a.Divisible) :
    (a.shape = [] -> a.cut? = some [a]) ∧
    (forall outer inner, a.shape = outer :: inner -> exists rows,
      a.cut? = some rows ∧ rows.length = outer ∧ Tiles a.buffer rows ∧
        forall row, row ∈ rows -> row.buffer.kind = a.buffer.kind ∧
          row.shape = inner ∧
          volume inner = row.buffer.length) ∧
    (forall times piece, piece ∈ divide times a ->
      piece.Divisible ∧ piece.cut? = some piece.rows) ∧
    (forall cell, cell ∈ divide a.depth a -> cell.shape = []) ∧
    (divide a.depth a).map scalars = a.scalars.map fun scalar => [scalar] := by
  refine ⟨?_, ?_, ?_, fun _ => shape_of_mem_cells, map_scalars_cells a⟩
  · intro hshape
    rw [h.cut?_eq, rows_of_shape_nil hshape]
  · intro outer inner hshape
    refine ⟨a.rows, h.cut?_eq, length_rows hshape, tiles_rows a, ?_⟩
    intro row hrow
    have hinner := shape_of_mem_rows hshape hrow
    exact ⟨(tiles_rows a).kind_eq hrow, hinner, hinner ▸ row.size_eq⟩
  · intro times piece hpiece
    have hdivisible := h.of_mem_divide hpiece
    exact ⟨hdivisible, hdivisible.cut?_eq⟩

open Sample in
theorem rows_partition_grid :
    grid.Divisible ∧ (exists rows, grid.cut? = some rows ∧ rows.length = 2 ∧
      Tiles sixBytes rows) ∧
    (divide 2 grid).map scalars =
      [[.u64 1], [.u64 2], [.u64 3], [.u64 4], [.u64 5], [.u64 6]] := by
  have hgrid : grid.Divisible := ⟨by decide, by decide, by decide, trivial⟩
  rcases hgrid.rows_partition.2.1 2 [3] rfl with
    ⟨rows, hcut, hlength, htiles, _⟩
  exact ⟨hgrid, ⟨rows, hcut, hlength, htiles⟩, hgrid.rows_partition.2.2.2.2⟩

end NdArray
end Columnar
