import Columnar.Proofs.Batch.Invariant

/-!
# Columns made elsewhere

A column is adopted after a look at its length, its type and its nulls.  For a
well-formed column that is as good as reading all of it, but for the bytes of
enumerations, and a column that a batch has already is adopted as it is.
-/

namespace Columnar
namespace BatchBuilder

section

variable {b : BatchBuilder} {descriptor : Descriptor} {handle : Handle}

/--
A well-formed column that is adopted can be read, unless an enumeration meets an
undeclared byte; one that can be read is adopted if its length is admitted; and
the column of a batch makes the same batch again.
-/
theorem adoption_agrees_with_decoding (hreachable : b.registry.Reachable)
    (hhandle : b.registry.handle descriptor.component.text = .ok handle) :
    (forall column, column.WellFormed ->
      (forall batch, b.build descriptor (.column column) = .ok batch ->
        (exists rows, handle.datatype.decode column = .ok rows) ∨
          handle.datatype.hasEnumeration = true ∧ exists e name byte,
            handle.datatype.decode column = .error e ∧
              e.root = .invalidEnumValue name byte) ∧
      (forall rows, handle.datatype.decode column = .ok rows ->
        b.config.Admits handle.datatype column.length ->
          b.build descriptor (.column column) =
            .ok ⟨descriptor, column, handle.datatype.nullable⟩)) ∧
    (forall input batch, b.build descriptor input = .ok batch ->
      b.build descriptor (.column batch.column) = .ok batch) := by
  refine ⟨?_, ?_⟩
  · intro column hwell
    constructor
    · intro batch hbuild
      rcases (build_column_eq_ok_iff hhandle).mp hbuild with ⟨_, hdescribes, _⟩
      exact (Datatype.readable_decode hwell hdescribes).ok_or_invalid
    · intro rows hdecode hsize
      have hdescribes := Datatype.describes_of_decode
        (Column.covers_of_wellFormed hwell) hdecode
      exact (build_column_eq_ok_iff hhandle).mpr ⟨hsize, hdescribes, rfl⟩
  · intro input batch hbuild
    exact (build_column_eq_ok_iff hhandle).mpr
      (of_build_eq_ok hreachable hhandle hbuild)

end

namespace Sample

/--
Two poses of which the second is absent.  Where nothing is present stand nulls,
a byte that is no mode, and items that belong to no row.
-/
def strayPoses : Column :=
  .struct 2 [
    ({ name := "axis", nullable := false },
      .fixedList .item 2 2
        (.leaf (.element .f32) [⟨0x80000000⟩, ⟨0x3f800000⟩, ⟨0⟩, ⟨0⟩]
          (some [true, true, false, true]))
        (some [true, false])),
    ({ name := "tags", nullable := true },
      .list .item [1, 3, 3] (.leaf (.element .u32) ([9, 7, 8] : List UInt32)
        (some [false, true, true])) none),
    ({ name := "mode", nullable := false },
      .leaf (.element .u8) ([1, 99] : List UInt8) (some [true, false])),
    ({ name := "panel", nullable := true },
      .struct 2 [
        ({ name := "lit", nullable := false },
          .leaf (.element .bool) [false, true] (some [false, true])),
        ({ name := "switches", nullable := false },
          .list .item [0, 0, 0] (.leaf (.element .bool) ([] : List Bool) none)
            none)]
        (some [false, true]))]
    (some [true, false])

end Sample

open Sample Registry.Sample in
theorem adoption_strayPoses :
    Datatype.Sample.pose.decode strayPoses = .ok [fastPose, .null] ∧
      poseBuilder.build poseDescriptor (.column strayPoses) =
        .ok ⟨poseDescriptor, strayPoses, true⟩ := by
  have hwell : strayPoses.WellFormed := by decide
  have hdecode : Datatype.Sample.pose.decode strayPoses =
    .ok [fastPose, .null] := rfl
  have hreachable : poseBuilder.registry.Reachable := reachable_poseRegistry
  have hhandle : poseBuilder.registry.handle poseDescriptor.component.text =
      .ok (.of poseName Datatype.Sample.pose) := handle_poseRegistry
  have hagrees :=
    (adoption_agrees_with_decoding hreachable hhandle).1 strayPoses hwell
  exact ⟨hdecode, hagrees.2 _ hdecode (admits_pose (by decide))⟩

end BatchBuilder
end Columnar
