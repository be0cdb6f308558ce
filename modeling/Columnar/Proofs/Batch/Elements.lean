import Columnar.Proofs.Batch.Building
import Columnar.Proofs.Batch.Split
import Columnar.Proofs.Normalize.Elements

/-!
# The elements of a batch

On its way into a batch a value may be split, laid out flat and stored in one
column with others.  For datatypes that take their elements one from each scalar
the batch still holds what was given: nothing lost, repeated or moved.
-/

namespace Columnar

namespace BatchInput

def scalars? : BatchInput -> Option (List Scalar)
  | .single value => some value.scalars
  | .many values => some (NativeValue.scalarsOfItems values)
  | .loose value => some value.scalars
  | .column _ => none

theorem exists_values_of_scalars? {input : BatchInput} {scalars : List Scalar}
    (h : input.scalars? = some scalars) (d : Datatype) :
    exists values, input.values? d = some values ∧
      values.flatMap NativeValue.scalars = scalars := by
  cases input with
  | single value =>
      cases h
      exact ⟨[value], rfl, List.flatMap_singleton _ _⟩
  | many values =>
      cases h
      exact ⟨values, rfl, (NativeValue.scalarsOfItems_eq_flatMap values).symm⟩
  | loose value =>
      cases h
      exact ⟨d.split value, rfl, d.flatMap_scalars_split value⟩
  | column column => cases h

end BatchInput

namespace BatchBuilder

section

variable {b : BatchBuilder} {descriptor : Descriptor} {handle : Handle}
  {input : BatchInput} {batch : Batch} {kind : ElementKind} {arity : Arity}
  {scalars : List Scalar}

theorem length_flatten_of_fixed {count : Nat} {runs : List (List α)}
    (h : forall run, run ∈ runs ->
      (Arity.fixed count).accepts run.length = true) :
    runs.flatten.length = runs.length * count := by
  induction runs with
  | nil => exact (Nat.zero_mul count).symm
  | cons run rest ih =>
      have hrun := Arity.accepts_fixed_iff.mp (h run List.mem_cons_self)
      have hrest := ih fun other hother =>
        h other (List.mem_cons_of_mem _ hother)
      rw [List.flatten_cons, List.length_append, hrun, hrest, List.length_cons,
        Nat.succ_mul, Nat.add_comm]

/--
A batch reads back as instances of which the present ones hold, one after the
other, the scalars of the input, each coerced; of a fixed arity there are as
many present instances as the scalars make up.
-/
theorem elements_of_build (hreachable : b.registry.Reachable)
    (hhandle : b.registry.handle descriptor.component.text = .ok handle)
    (hextension : b.extension? descriptor.component.text = none)
    (hplain : handle.datatype.Plain kind arity)
    (hscalars : input.scalars? = some scalars)
    (h : b.build descriptor input = .ok batch) :
    exists (rows : List Instance) (runs : List (List kind.Carrier)),
      batch.decode handle.datatype = .ok rows ∧
      rows.filter (fun row => !row.isNull) = runs.map
        (fun run => .elements ⟨kind, run⟩) ∧
      Scalar.coerceAll b.config kind scalars = .ok runs.flatten ∧
      forall count, arity = .fixed count ->
        (rows.filter fun row => !row.isNull).length * count =
          scalars.length := by
  rcases BatchInput.exists_values_of_scalars? hscalars handle.datatype with
    ⟨values, hvalues, rfl⟩
  rcases normalized_of_build hreachable hhandle hextension hvalues h with
    ⟨rows, hrows, hdecode⟩
  rcases hplain.exists_runs hrows with ⟨runs, hruns, haccepts, hcoerced⟩
  refine ⟨rows, runs, hdecode, hruns, hcoerced, ?_⟩
  intro count hcount
  cases hcount
  rw [hruns, List.length_map, ← length_flatten_of_fixed haccepts]
  exact Scalar.length_of_coerceAll hcoerced

end

namespace Sample

def pair : Datatype :=
  { Datatype.fixedList "sample.Pair" .u8 2 with nullable := true }

def pairName : ComponentName := ⟨"sample.components.Pair"⟩

def pairBuilder : BatchBuilder where
  registry := (Registry.empty.register pairName.text pair).2

theorem reachable_pairBuilder : pairBuilder.registry.Reachable :=
  Registry.Reachable.register _ _ Registry.Reachable.empty

theorem handle_pairBuilder :
    pairBuilder.registry.handle pairName.text = .ok (.of pairName pair) :=
  Registry.handle_register_empty
    (Registry.candidate_eq_ok_iff.mpr ⟨by decide, rfl, rfl⟩)

def mixedPairs : NativeValue :=
  .sequence
    [.null, .sequence [.sequence [.u64 1], .sequence [.f32 ⟨0x40000000⟩]],
      .array ⟨⟨.u8, ([3, 4] : List UInt8)⟩, [2, 1], rfl⟩]

def pairRows : List Instance :=
  [.null, .elements ⟨.u8, ([1, 2] : List UInt8)⟩,
    .elements ⟨.u8, ([3, 4] : List UInt8)⟩]

theorem build_mixedPairs :
    pairBuilder.build (.bare pairName) (.loose mixedPairs) =
      .ok ⟨.bare pairName, pair.layout pairRows, true⟩ := by
  refine (build_eq_ok_iff reachable_pairBuilder handle_pairBuilder rfl).mpr
    ⟨?_, pairRows, ?_, ?_⟩
  · exact ⟨nofun, nofun⟩
  · exact .cons rfl (.cons rfl (.cons rfl .nil))
  · exact ⟨nofun, rfl, rfl⟩

end Sample

open Sample in
theorem elements_of_build_mixedPairs :
    exists batch, pairBuilder.build (.bare pairName) (.loose mixedPairs) =
      .ok batch ∧
      exists rows, batch.decode pair = .ok rows ∧
        (rows.filter fun row => !row.isNull).length * 2 = 4 := by
  have helements :=
    elements_of_build (b := pairBuilder) reachable_pairBuilder
      handle_pairBuilder rfl Datatype.Plain.fixedList rfl build_mixedPairs
  rcases helements with ⟨rows, _, hdecode, _, _, hcount⟩
  exact ⟨_, build_mixedPairs, rows, hdecode, hcount 2 rfl⟩

end BatchBuilder
end Columnar
