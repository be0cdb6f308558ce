import Columnar.Proofs.Batch.Elements
import Columnar.Proofs.Batch.Levels
import Columnar.Proofs.Normalize.Nested

/-!
# Arrays make the same batches as nested sequences

A dense array and its nested form are split alike: into groups of scalars, along
the leading dimension, or not at all.  What an array is split into are arrays,
and the nested form is split into the nested forms of these.
-/

namespace Columnar

namespace Datatype

variable {d : Datatype} {a : NdArray}

theorem groupSize?_rows {outer : Nat} {inner : List Nat}
    (h : a.shape = outer :: inner) :
    d.groupSize? a.depth a.rows.length = d.groupSize? a.depth a.length := by
  cases inner with
  | nil =>
      have hlength : a.length = outer := by
        show a.buffer.length = outer
        rw [← a.size_eq, h, volume, volume, Nat.mul_one]
      rw [NdArray.length_rows h, hlength]
  | cons next rest =>
      have hdepth : a.depth ≠ 1 := by
        unfold NdArray.depth
        rw [h]
        simp
      rw [groupSize?_eq_none_of_depth hdepth,
        groupSize?_eq_none_of_depth hdepth]

theorem splitElementSequence_cons {first : NativeValue}
    {rest : List NativeValue} (hfirst : first.isNull = false) :
    d.splitElementSequence (first :: rest) =
      match d.groupSize? (1 + first.depth) (first :: rest).length with
      | some size => (groups size (first :: rest)).map .sequence
      | none =>
          if d.depth < 1 + first.depth then
            first :: rest
          else
            [.sequence (first :: rest)] := by
  have hfind : (first :: rest).find? (fun item => !item.isNull) =
      some first := by
    rw [List.find?_cons, hfirst]
    rfl
  exact splitElementSequence_of_first hfind

theorem splitArray_of_groupSize? {size : Nat}
    (h : d.groupSize? a.depth a.length = some size) :
    exists hlength : volume [a.length / size, size] = a.length,
      d.splitArray a = (a.reshape [a.length / size, size] hlength).rows.map
        .array := by
  have hlength : volume [a.length / size, size] = a.length := by
    rw [volume, volume, volume, Nat.mul_one]
    exact Nat.div_mul_cancel (Nat.dvd_of_mod_eq_zero (mod_groupSize? h))
  refine ⟨hlength, ?_⟩
  unfold splitArray
  split
  · next found hfound =>
      cases hfound.symm.trans h
      rfl
  · next hnone => cases hnone.symm.trans h

theorem splitArray_of_none (h : d.groupSize? a.depth a.length = none) :
    d.splitArray a = if d.depth <
      a.depth then a.rows.map .array else [.array a] := by
  unfold splitArray
  split
  · next hfound => cases hfound.symm.trans h
  · rfl

theorem split_nested (hd : d.IsElementwise) (ha : a.Solid) {outer : Nat}
    {inner : List Nat} (h : a.shape = outer :: inner) :
    d.split a.nested =
      match d.groupSize? a.depth a.length with
      | some size => (groups size (a.rows.map NdArray.nested)).map .sequence
      | none =>
          if d.depth < a.depth then
            a.rows.map NdArray.nested
          else
            [a.nested] := by
  rcases NdArray.exists_mem_rows ha h with ⟨row, rest, hrows⟩
  have hrow : row ∈ a.rows := hrows ▸ List.mem_cons_self
  have hdepth : 1 + row.nested.depth = a.depth := by
    rw [NdArray.depth_nested (ha.of_mem_rows hrow), NdArray.depth,
      NdArray.depth, NdArray.shape_of_mem_rows h hrow, h, List.length_cons,
      Nat.add_comm]
  have hsplit : d.split a.nested = d.splitElementSequence
      (a.rows.map NdArray.nested) := by
    rw [NdArray.nested_of_shape_cons h, split_sequence_of_elementwise hd]
  have hlength : (row.nested :: rest.map NdArray.nested).length =
      a.rows.length := by
    rw [hrows, List.length_cons, List.length_map, List.length_cons]
  rw [hsplit, hrows, List.map_cons, splitElementSequence_cons row.isNull_nested,
    hdepth, hlength, groupSize?_rows h, NdArray.nested_of_shape_cons h, hrows,
    List.map_cons]

theorem groups_rows_of_flat {length size count : Nat} (h : a.shape = [length])
    (hsize : 0 < size) (hlength : volume [count, size] = a.length) :
    (groups size (a.rows.map NdArray.nested)).map .sequence =
      (a.reshape [count, size] hlength).rows.map NdArray.nested := by
  have htable : (a.reshape [count, size] hlength).shape = [count, size] := rfl
  have hrows : (a.reshape [count, size] hlength).rows.map NdArray.nested =
      ((a.reshape [count, size] hlength).rows.map NdArray.scalars).map
        fun scalars => .sequence (scalars.map .scalar) := by
    rw [List.map_map]
    apply List.map_congr_left
    intro row hrow
    have hshape := NdArray.shape_of_mem_rows htable hrow
    show row.nested = .sequence (row.scalars.map .scalar)
    rw [NdArray.nested_of_shape_cons hshape,
      NdArray.map_nested_rows_of_flat hshape]
  have hscalars : a.scalars.length = count * size := by
    rw [NdArray.length_scalars, a.size_eq, ← Nat.mul_one size]
    exact hlength.symm
  rw [hrows, NdArray.map_scalars_rows htable, NdArray.map_nested_rows_of_flat h,
    groups_map, groups_eq_map_group hsize hscalars, volume, volume, Nat.mul_one,
    List.map_map]
  rfl

/--
An array is split into arrays, and its nested form into the nested forms of
these.  An array without dimensions is among them only where an instance is a
single element.
-/
theorem exists_split_pieces (hd : d.IsElementwise) (ha : a.Solid)
    (hshape : a.shape ≠ []) :
    exists pieces : List NdArray,
      d.split (.array a) = pieces.map .array ∧
      d.split a.nested = pieces.map NdArray.nested ∧
      forall piece, piece ∈ pieces ->
        piece.Solid ∧ (piece.shape ≠ [] ∨ d.depth = 0) := by
  rcases List.exists_cons_of_ne_nil hshape with ⟨outer, inner, h⟩
  rw [split_nested hd ha h, split]
  cases hsize : d.groupSize? a.depth a.length with
  | some size =>
      rcases splitArray_of_groupSize? hsize with ⟨hlength, hsplit⟩
      have hflat : a.shape = [outer] := by
        have hdepth := (divides_of_groupSize? hsize).1
        rw [NdArray.depth, h, List.length_cons, Nat.add_eq_right] at hdepth
        rw [h, List.length_eq_zero_iff.mp hdepth]
      have hpos : 0 < size := Nat.zero_lt_of_lt (one_lt_groupSize? hsize)
      refine ⟨_, hsplit, groups_rows_of_flat hflat hpos hlength, ?_⟩
      intro piece hpiece
      have hpieceShape := NdArray.shape_of_mem_rows rfl hpiece
      constructor
      · intro dim hdim
        rw [hpieceShape, List.mem_singleton] at hdim
        exact hdim ▸ hpos.ne'
      · left
        rw [hpieceShape]
        exact List.cons_ne_nil _ _
  | none =>
      rw [splitArray_of_none hsize]
      dsimp only
      split
      · next hdepth =>
          refine ⟨a.rows, rfl, rfl, ?_⟩
          intro piece hpiece
          refine ⟨ha.of_mem_rows hpiece, ?_⟩
          rw [NdArray.shape_of_mem_rows h hpiece]
          -- Scalars stand by themselves only when an instance is no deeper than
          -- one of them.
          cases inner with
          | nil =>
              rw [NdArray.depth, h] at hdepth
              exact Or.inr (Nat.lt_one_iff.mp hdepth)
          | cons next rest => exact Or.inl (List.cons_ne_nil _ _)
      · refine ⟨[a], rfl, rfl, ?_⟩
        intro piece hpiece
        rw [List.mem_singleton.mp hpiece]
        exact ⟨ha, Or.inl hshape⟩

theorem map_normalize_split_nested (hd : d.IsElementwise) (ha : a.Solid)
    (hshape : a.shape ≠ []) (config : Config) :
    (d.split a.nested).map (d.normalize config) =
      (d.split (.array a)).map (d.normalize config) := by
  rcases exists_split_pieces hd ha hshape with
    ⟨pieces, harray, hnested, hpieces⟩
  rw [harray, hnested, List.map_map, List.map_map]
  apply List.map_congr_left
  intro piece hpiece
  rcases hpieces piece hpiece with ⟨hsolid, hpieceShape⟩
  exact normalize_nested hd hsolid hpieceShape config

end Datatype

namespace BatchBuilder

theorem build_loose_congr {b : BatchBuilder} {descriptor : Descriptor}
    {handle : Handle} {value other : NativeValue}
    (hhandle : b.registry.handle descriptor.component.text = .ok handle)
    (hextension : b.extension? descriptor.component.text = none)
    (h : (handle.datatype.split value).map
      (handle.datatype.normalize b.config) = (handle.datatype.split other).map
      (handle.datatype.normalize b.config)) :
    b.build descriptor (.loose value) = b.build descriptor (.loose other) := by
  rw [build_eq_map_convert hhandle rfl, build_eq_map_convert hhandle rfl]
  apply congrArg
  apply convert_congr
  rw [hextension]
  exact h

/--
An array with no empty dimension and its nested form are interchangeable: they
are normalized to the same instance or refused with the same error, and so are
the batches they are split into.
-/
theorem nested_interchangeable {a : NdArray} (ha : a.Solid)
    (hshape : a.shape ≠ []) :
    (forall (d : Datatype) (config : Config), d.IsElementwise ->
      d.normalize config a.nested = d.normalize config (.array a)) ∧
    (forall (b : BatchBuilder) (descriptor : Descriptor) (handle : Handle),
      b.registry.handle descriptor.component.text = .ok handle ->
        b.extension? descriptor.component.text = none ->
        handle.datatype.IsElementwise ->
          b.build descriptor (.loose a.nested) = b.build descriptor
            (.loose (.array a))) := by
  constructor
  · intro d config hd
    exact Datatype.normalize_nested hd ha (Or.inl hshape) config
  · intro b descriptor handle hhandle hextension hd
    apply build_loose_congr hhandle hextension
    exact Datatype.map_normalize_split_nested hd ha hshape b.config

namespace Sample

def flatPairs : NdArray := ⟨⟨.u8, ([1, 2, 3, 4] : List UInt8)⟩, [4], rfl⟩

theorem elementwise_pair : pair.IsElementwise := by
  intro fields h
  cases h

theorem build_flatPairs :
    pairBuilder.build (.bare pairName) (.loose (.array flatPairs)) =
      .ok ⟨.bare pairName, pair.layout pairRows.tail, true⟩ := by
  refine (build_eq_ok_iff reachable_pairBuilder handle_pairBuilder rfl).mpr
    ⟨?_, pairRows.tail, ?_, ?_⟩
  · exact ⟨nofun, nofun⟩
  · exact .cons rfl (.cons rfl .nil)
  · exact ⟨nofun, rfl, rfl⟩

end Sample

open Sample in
theorem nested_interchangeable_flatPairs :
    flatPairs.Solid ∧ flatPairs.shape ≠ [] ∧
      pair.normalize pairBuilder.config flatPairs.nested =
        .error (.arityMismatch (.fixed 2) 4) ∧
      pairBuilder.build (.bare pairName) (.loose flatPairs.nested) =
        .ok ⟨.bare pairName, pair.layout pairRows.tail, true⟩ := by
  have hsolid : flatPairs.Solid := by decide
  have hshape : flatPairs.shape ≠ [] := List.cons_ne_nil _ _
  rcases nested_interchangeable hsolid hshape with ⟨hnormalize, hbuild⟩
  refine ⟨hsolid, hshape, ?_, ?_⟩
  · exact (hnormalize pair pairBuilder.config elementwise_pair).trans rfl
  · rw [← build_flatPairs]
    exact hbuild pairBuilder _ _ handle_pairBuilder rfl elementwise_pair

end BatchBuilder
end Columnar
