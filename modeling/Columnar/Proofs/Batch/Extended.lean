import Columnar.Proofs.Batch.Building

/-!
# Batches of extended components

An extension may answer with any instance at all.  What it answers is encoded
by the datatype like everything else, so a batch that is built holds the answers
as they were given and nothing that does not conform.
-/

namespace Columnar

namespace Extension

/--
What a value is converted to: the hook's answer, or the default where it has
none.
-/
inductive Answers (e : Extension) (config : Config) (d : Datatype) :
    NativeValue -> Instance -> Prop
  | hook {value : NativeValue} {row : Instance} :
      e.normalize config d value = some (.ok row) ->
      Answers e config d value row
  | default {value : NativeValue} {row : Instance} :
      e.normalize config d value = none ->
      d.normalize config value = .ok row -> Answers e config d value row

end Extension

namespace BatchBuilder

section

variable {b : BatchBuilder} {e : Extension}

theorem instanceOf_eq_ok_iff {d : Datatype} {value : NativeValue}
    {row : Instance} :
    b.instanceOf (some e) d value = .ok row ↔
      e.Answers b.config d value row := by
  rw [instanceOf, Option.bind_some]
  cases hanswer : e.normalize b.config d value with
  | none =>
      constructor
      · intro h
        exact Extension.Answers.default hanswer h
      · intro h
        cases h with
        | hook hsome =>
            rw [hanswer] at hsome
            cases hsome
        | default _ hdefault => exact hdefault
  | some result =>
      constructor
      · intro h
        apply Extension.Answers.hook
        rw [hanswer]
        exact congrArg some h
      · intro h
        cases h with
        | hook hsome =>
            rw [hanswer] at hsome
            exact Option.some.inj hsome
        | default hnone _ =>
            rw [hanswer] at hnone
            cases hnone

/--
A batch that is built holds the answers of the extension, and they conform.
-/
theorem decode_of_build_extended {descriptor : Descriptor} {handle : Handle}
    {input : BatchInput} {values : List NativeValue} {batch : Batch}
    (hreachable : b.registry.Reachable)
    (hhandle : b.registry.handle descriptor.component.text = .ok handle)
    (hextension : b.extension? descriptor.component.text = some e)
    (hvalues : input.values? handle.datatype = some values)
    (h : b.build descriptor input = .ok batch) :
    batch.length = values.length ∧ exists rows,
      batch.decode handle.datatype = .ok rows ∧
      List.Forall₂ (e.Answers b.config handle.datatype) values rows ∧
      forall row, row ∈ rows -> handle.datatype.Conforms row := by
  have hvalid := hreachable.validate_of_handle hhandle
  rcases (build_eq_ok_iff hreachable hhandle hvalues).mp h with
    ⟨_, rows, hrows, _, hencode, _⟩
  simp only [hextension, instanceOf_eq_ok_iff] at hrows
  refine ⟨?_, rows, ?_, hrows, ?_⟩
  · exact (Datatype.length_of_encode hvalid hencode).trans hrows.length_eq.symm
  · exact Datatype.decode_of_encode hvalid hencode
  · exact (Datatype.encodable_of_encode hvalid hencode).conforms

end

namespace Sample

open Registry.Sample

def stored : Extension where
  normalize := fun _ _ value =>
    match value with
    | .scalar (.text _) => some (.ok fastPose)
    | _ => none

def storedBuilder : BatchBuilder :=
  { poseBuilder with
    extensions := some ⟨NameMap.empty.insert poseName.text stored⟩ }

end Sample

open Sample in
theorem decode_of_build_stored :
    exists batch,
      storedBuilder.build poseDescriptor
        (.many [.scalar (.text "home"), .null]) = .ok batch ∧
      batch.length = 2 ∧ exists rows,
        batch.decode Datatype.Sample.pose = .ok rows ∧
        forall row, row ∈ rows -> Datatype.Sample.pose.Conforms row := by
  have hhandle := Registry.Sample.handle_poseRegistry
  have hvalues :
      (BatchInput.many [.scalar (.text "home"), .null]).values?
        Datatype.Sample.pose =
      some [.scalar (.text "home"), .null] := rfl
  have hsize : storedBuilder.config.Admits Datatype.Sample.pose 2 :=
    admits_pose (by decide)
  have hbuild : storedBuilder.build poseDescriptor
        (.many [.scalar (.text "home"), .null]) =
      .ok ⟨poseDescriptor, Datatype.Sample.pose.layout [fastPose, .null],
        true⟩ := by
    refine (build_eq_ok_iff Registry.Sample.reachable_poseRegistry hhandle
      hvalues).mpr ⟨hsize, [fastPose, .null], ?_, ?_, rfl, rfl⟩
    · exact List.Forall₂.cons rfl (List.Forall₂.cons rfl List.Forall₂.nil)
    · intro e he
      cases he
      rfl
  have hdecode :=
    decode_of_build_extended Registry.Sample.reachable_poseRegistry hhandle rfl
      hvalues hbuild
  rcases hdecode with ⟨hlength, rows, hrows, _, hconforms⟩
  exact ⟨_, hbuild, hlength, rows, hrows, hconforms⟩

end BatchBuilder
end Columnar
