import Columnar.Proofs.Batch.Elements
import Columnar.Proofs.Batch.Levels

/-!
# Absent items among instances

Between instances that are each written in full, absent items are instances too,
wherever they stand and even if there is nothing else.  Not so for structs: the
items of a sequence are taken for the values of fields unless all of them are
records or all of them sequences, and an absent item is neither.
-/

namespace Columnar

namespace Datatype

/--
How one present instance is written in full: a scalar, a sequence or a record.
-/
inductive WritesOne : Shape Datatype -> NativeValue -> Prop
  | primitive {kind : ElementKind} {s : Scalar} :
      WritesOne (.primitive kind) (.scalar s)
  | enumeration {variants : List Variant} {s : Scalar} :
      WritesOne (.enumeration variants) (.scalar s)
  | fixedList {kind : ElementKind} {arity : UInt32} {items : List NativeValue} :
      WritesOne (.fixedList kind arity) (.sequence items)
  | list {kind : ElementKind} {items : List NativeValue} :
      WritesOne (.list kind) (.sequence items)
  | struct {fields : List (Field Datatype)}
      {pairs : List (String × NativeValue)} :
      WritesOne (.struct fields) (.record pairs)

variable {d : Datatype} {items : List NativeValue}

theorem WritesOne.depth {value : NativeValue} (hd : d.IsElementwise)
    (h : WritesOne d.shape value) : d.depth = 0 ∨ value.depth ≠ 0 := by
  rcases d with ⟨name, shape, nullable, broadcast, nonEmpty⟩
  cases h with
  | primitive => exact Or.inl rfl
  | enumeration => exact Or.inl rfl
  | @fixedList _ _ inner =>
      right
      cases inner <;> simp [NativeValue.depth]
  | @list _ inner =>
      right
      cases inner <;> simp [NativeValue.depth]
  | struct => exact absurd rfl (hd _)

theorem split_sequence_of_written (hd : d.IsElementwise) (hne : items ≠ [])
    (h : forall item, item ∈ items -> item.isNull = false ->
      WritesOne d.shape item) :
    d.split (.sequence items) = items := by
  by_cases hdepth : d.depth = 0
  · exact split_sequence_of_single hd hdepth
  · apply split_sequence_of_nested hd hne
    intro item hitem hpresent
    exact ((h item hitem hpresent).depth hd).resolve_left hdepth

theorem split_sequence_of_struct {fields : List (Field Datatype)}
    (hd : d.shape = .struct fields) (hnull : NativeValue.null ∈ items) :
    d.split (.sequence items) = [.sequence items] := by
  have hrecords : items.all NativeValue.isRecord = false :=
    List.all_eq_false.mpr ⟨.null, hnull, Bool.false_ne_true⟩
  have hsequences : items.all NativeValue.isSequence = false :=
    List.all_eq_false.mpr ⟨.null, hnull, Bool.false_ne_true⟩
  rw [split, hd]
  dsimp only
  rw [splitStructSequence, hrecords, hsequences]
  rfl

end Datatype

namespace BatchBuilder

open Datatype

/--
A sequence with an absent item, the others written in full, makes the batch that
its items make as instances.  For structs it makes the batch of one instance.
-/
theorem absent_items_are_instances {b : BatchBuilder} {descriptor : Descriptor}
    {handle : Handle} {items : List NativeValue}
    (hhandle : b.registry.handle descriptor.component.text = .ok handle)
    (hnull : NativeValue.null ∈ items)
    (hitems : forall item, item ∈ items -> item.isNull = false ->
      WritesOne handle.datatype.shape item) :
    (handle.datatype.IsElementwise ->
      b.build descriptor (.loose (.sequence items)) = b.build descriptor
        (.many items)) ∧
    (forall fields, handle.datatype.shape = .struct fields ->
      b.build descriptor (.loose (.sequence items)) =
        b.build descriptor (.single (.sequence items))) := by
  constructor
  · intro hd
    have hsplit : handle.datatype.split (.sequence items) = items :=
      split_sequence_of_written hd (List.ne_nil_of_mem hnull) hitems
    apply build_eq_build_many hhandle
    rw [BatchInput.values?, hsplit]
  · intro fields hd
    have hsplit : handle.datatype.split (.sequence items) = [.sequence items] :=
      split_sequence_of_struct hd hnull
    have hsingle : b.build descriptor (.single (.sequence items)) =
        b.build descriptor (.many [.sequence items]) :=
      build_eq_build_many hhandle rfl
    rw [hsingle]
    apply build_eq_build_many hhandle
    rw [BatchInput.values?, hsplit]

namespace Sample

def pairAmongAbsent : List NativeValue :=
  [.null, .sequence [.u64 1, .u64 2], .null]

def absentAndRecord : List NativeValue :=
  [.null, .record [
    ("axis", .sequence [.f32 ⟨0⟩, .f32 ⟨0x3f800000⟩]),
      ("mode", .scalar (.text "Fast"))]]

theorem writesOne_pairAmongAbsent :
    forall item, item ∈ pairAmongAbsent -> item.isNull = false ->
    WritesOne pair.shape item := by
  simp only [pairAmongAbsent, List.forall_mem_cons]
  exact ⟨nofun, fun _ => .fixedList, nofun, nofun⟩

theorem writesOne_absentAndRecord :
    forall item, item ∈ absentAndRecord -> item.isNull = false ->
    WritesOne Datatype.Sample.pose.shape item := by
  simp only [absentAndRecord, List.forall_mem_cons]
  exact ⟨nofun, fun _ => .struct, nofun⟩

end Sample

open Sample in
theorem absent_items_are_instances_pairs :
    pairBuilder.build (.bare pairName) (.loose (.sequence pairAmongAbsent)) =
        pairBuilder.build (.bare pairName) (.many pairAmongAbsent) ∧
      poseBuilder.build poseDescriptor (.loose (.sequence absentAndRecord)) =
        poseBuilder.build poseDescriptor
          (.single (.sequence absentAndRecord)) := by
  constructor
  · have hpairs := @absent_items_are_instances pairBuilder (.bare pairName) _ _
      handle_pairBuilder List.mem_cons_self writesOne_pairAmongAbsent
    exact hpairs.1 nofun
  · have hposes := @absent_items_are_instances poseBuilder poseDescriptor _ _
      Registry.Sample.handle_poseRegistry List.mem_cons_self
      writesOne_absentAndRecord
    exact hposes.2 _ rfl

open Sample in
/-- A pose after an absent one is read as two of the four fields of a pose. -/
theorem absent_item_among_records :
    Datatype.Sample.pose.nullable = true ∧
      (NativeValue.null ∈ absentAndRecord ∧
        forall item, item ∈ absentAndRecord -> item.isNull = false ->
          WritesOne Datatype.Sample.pose.shape item) ∧
      poseBuilder.build poseDescriptor (.many absentAndRecord) =
        .ok ⟨poseDescriptor, Datatype.Sample.pose.layout
          [.null, Datatype.Sample.poseOf [⟨0⟩, ⟨0x3f800000⟩] .null 1 .null],
            true⟩ ∧
      poseBuilder.build poseDescriptor (.loose (.sequence absentAndRecord)) =
        .error (.conversion (.atIndex 0 (.arityMismatch (.fixed 4) 2))) := by
  refine ⟨rfl, ⟨List.mem_cons_self, writesOne_absentAndRecord⟩, ?_, ?_⟩
  · refine (build_eq_ok_iff Registry.Sample.reachable_poseRegistry
      Registry.Sample.handle_poseRegistry rfl).mpr
        ⟨admits_pose (by decide), [.null, _], .cons rfl (.cons rfl .nil),
          nofun, rfl, rfl⟩
  · rw [build_eq_map_convert Registry.Sample.handle_poseRegistry rfl]
    rfl

end BatchBuilder
end Columnar
