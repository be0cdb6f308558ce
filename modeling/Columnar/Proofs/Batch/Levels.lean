import Columnar.Proofs.Batch.Split
import Columnar.Proofs.Normalize.Nested

/-!
# How nesting splits a sequence

For instances made of elements the items of a sequence are instances of their
own when those that are present are nested, or when an instance is a single
element.  Bare items are the elements of one instance, or of as many as they
make up.
-/

namespace Columnar
namespace Datatype

open NativeValue

variable {d : Datatype} {items : List NativeValue}

theorem split_sequence_of_elementwise (hd : d.IsElementwise) :
    d.split (.sequence items) = d.splitElementSequence items := by
  rw [split]
  split
  · next fields hfields => exact absurd hfields (hd fields)
  · rfl

theorem groupSize?_eq_none_of_depth {depth length : Nat} (h : depth ≠ 1) :
    d.groupSize? depth length = none := by
  unfold groupSize?
  split
  · exact if_neg fun hall => h hall.1
  · rfl

theorem groupSize?_of_depth_eq_zero (hdepth : d.depth = 0)
    (depth length : Nat) :
    d.groupSize? depth length = none := by
  rcases d with ⟨name, shape, nullable, broadcast, nonEmpty⟩
  cases shape with
  | primitive kind => rfl
  | enumeration variants => rfl
  | _ => cases hdepth

theorem splitElementSequence_of_absent (hne : items ≠ [])
    (h : items.find? (fun item => !item.isNull) = none) :
    d.splitElementSequence items = items := by
  -- Items of which none is present are instances, save for the lack of any.
  unfold splitElementSequence
  generalize items.find? (fun item => !item.isNull) = found at h ⊢
  subst h
  dsimp only
  split
  · exact absurd rfl hne
  · rfl

theorem splitElementSequence_nil (hd : forall kind, d.shape ≠ .list kind) :
    d.splitElementSequence [] = [] := by
  rcases d with ⟨name, shape, nullable, broadcast, nonEmpty⟩
  cases shape with
  | list kind => exact absurd rfl (hd kind)
  | _ => rfl

theorem depth_le_one (d : Datatype) : d.depth ≤ 1 := by
  unfold depth
  split <;> decide

theorem split_sequence_of_single (hd : d.IsElementwise) (hdepth : d.depth = 0) :
    d.split (.sequence items) = items := by
  rw [split_sequence_of_elementwise hd]
  cases hfirst : items.find? (fun item => !item.isNull) with
  | some first =>
      rw [splitElementSequence_of_first hfirst,
        groupSize?_of_depth_eq_zero hdepth, hdepth]
      exact if_pos (Nat.add_pos_left Nat.one_pos _)
  | none =>
      cases items with
      | cons item rest =>
          exact splitElementSequence_of_absent (List.cons_ne_nil _ _) hfirst
      | nil =>
          apply splitElementSequence_nil
          intro kind hshape
          rw [depth, hshape] at hdepth
          cases hdepth

theorem split_sequence_of_nested (hd : d.IsElementwise) (hne : items ≠ [])
    (h : forall item, item ∈ items -> item.isNull = false -> item.depth ≠ 0) :
    d.split (.sequence items) = items := by
  rw [split_sequence_of_elementwise hd]
  cases hfirst : items.find? (fun item => !item.isNull) with
  | none => exact splitElementSequence_of_absent hne hfirst
  | some first =>
      have hpresent : first.isNull = false := by
        simpa using List.find?_some hfirst
      have hnested : first.depth ≠ 0 :=
        h first (List.mem_of_find?_eq_some hfirst) hpresent
      have hle := d.depth_le_one
      rw [splitElementSequence_of_first hfirst,
        groupSize?_eq_none_of_depth (by omega)]
      exact if_pos (by omega)

theorem split_sequence_of_bare (hd : d.IsElementwise) (hdepth : d.depth = 1)
    (hpresent : exists item, item ∈ items ∧ item.isNull = false)
    (h : forall item, item ∈ items -> item.depth = 0) :
    d.split (.sequence items) =
      match d.groupSize? 1 items.length with
      | some size => (groups size items).map .sequence
      | none => [.sequence items] := by
  rw [split_sequence_of_elementwise hd]
  cases hfirst : items.find? (fun item => !item.isNull) with
  | none =>
      rcases hpresent with ⟨item, hitem, hitemPresent⟩
      have habsent := List.find?_eq_none.mp hfirst item hitem
      rw [hitemPresent] at habsent
      exact absurd rfl habsent
  | some first =>
      have hbare : first.depth = 0 := h first (List.mem_of_find?_eq_some hfirst)
      rw [splitElementSequence_of_first hfirst, hbare, hdepth]
      rfl

end Datatype
end Columnar
