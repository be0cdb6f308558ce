import Columnar.Codec.Encode
import Columnar.Proofs.Column.WellFormed

/-!
# Columns that can be put together

What is asked of the parts of a column before it is made of them.  If there are
bits they stand for all rows.  The size of a fixed row is a signed 32-bit word,
and so is every offset of a list, and the items tell how many fixed rows there
are.  The children of a struct are as long as the first of them.  A child that
is labelled as never null has a null at most where the row above it is null, and
the items of a list have none even there.
-/

namespace Columnar
namespace Column

mutual

def Assembles : Column -> Prop
  | .leaf _ slots validity => validity.Covers slots.length
  | .fixedList item size rows child validity =>
      Assembles child ∧ size ≤ Datatype.maxRowSize ∧
        rows = rowCount size child.length validity ∧
        Validity.Covers validity rows ∧
        (item.nullable = false -> forall index, child.isNull index = true ->
          Validity.isNull validity (index / size) = true)
  | .list item offsets child validity =>
      Assembles child ∧ Offsets offsets child.length ∧
        (forall offset, offset ∈ offsets -> offset < offsetLimit) ∧
        Validity.Covers validity (offsets.length - 1) ∧
        (item.nullable = false -> child.nullCount = 0)
  | .struct rows fields validity =>
      rows = rowsOfFirst fields ∧ Validity.Covers validity rows ∧
        AssemblesFields validity rows fields

/--
The children of a struct of so many rows, of which the bits tell the present
ones.
-/
def AssemblesFields (parent : Validity) (rows : Nat) :
    List (Label × Column) -> Prop
  | [] => True
  | (label, child) :: rest =>
      Assembles child ∧ child.length = rows ∧
        (label.nullable = false -> forall row, child.isNull row = true ->
          Validity.isNull parent row = true) ∧
        AssemblesFields parent rows rest

end

theorem assembles_ofElements {data : Elements} {validity : Validity} :
    (ofElements data validity).Assembles ↔ validity.Covers data.values.length :=
  Iff.rfl

mutual

theorem wellFormed_of_assembles : forall c : Column, c.Assembles -> c.WellFormed
  | .leaf _ _ _, h => h
  | .fixedList item size rows child validity, h => by
      rcases h with ⟨hchild, _, hrows, hcovers, hnulls⟩
      refine ⟨hcovers, ?_, wellFormed_of_assembles child hchild, ?_⟩
      · rw [hrows, rowCount]
        split
        · next hsize =>
            rw [hsize, Nat.mul_zero]
            exact Nat.zero_le _
        · exact Nat.div_mul_le_self _ _
      · intro hitem row _ hpresent index hstop hstart
        apply Bool.eq_false_iff.mpr
        intro hnull
        have hmasked := hnulls hitem index hnull
        rw [Nat.div_eq_of_lt_le hstart hstop, hpresent] at hmasked
        cases hmasked
  | .list item offsets child validity, h => by
      rcases h with ⟨hchild, hoffsets, _, hcovers, hnulls⟩
      refine ⟨hcovers, hoffsets, wellFormed_of_assembles child hchild, ?_⟩
      intro hitem row _ _ index _ _
      exact nullCount_eq_zero_iff.mp (hnulls hitem) index
  | .struct rows fields validity, h => by
      rcases h with ⟨_, hcovers, hfields⟩
      exact ⟨hcovers, wellFormedFields_of_assembles fields hfields⟩

theorem wellFormedFields_of_assembles {parent : Validity} {rows : Nat} :
    forall fields : List (Label × Column), AssemblesFields parent rows fields ->
      WellFormedFields parent rows fields
  | [], _ => trivial
  | (label, child) :: rest, h => by
      rcases h with ⟨hchild, hlength, hnulls, hrest⟩
      refine ⟨hlength, wellFormed_of_assembles child hchild, ?_,
        wellFormedFields_of_assembles rest hrest⟩
      intro hlabel row _ hpresent
      apply Bool.eq_false_iff.mpr
      intro hnull
      rw [hnulls hlabel row hnull] at hpresent
      cases hpresent

end

end Column
end Columnar
