import Columnar.Datatype.Validity

/-!
# What validation promises

A datatype that passes validation leaves no shape degenerate: a fixed arity is
not zero, an enumeration has a variant, and a struct has a field.  The fields of
a struct have distinct names, and their datatypes pass validation themselves.
-/

namespace Columnar
namespace Datatype

variable {name : String} {nullable broadcast nonEmpty : Bool}

theorem validate_eq_ok_iff {shape : Shape Datatype} :
    validate ⟨name, shape, nullable, broadcast, nonEmpty⟩ = .ok () ↔
      Text.isBlank name = false ∧
        match shape with
        | .primitive _ => True
        | .list _ => True
        | .fixedList _ arity => arity ≠ 0
        | .enumeration variants =>
            variants ≠ [] ∧ Variant.firstClash? variants = none
        | .struct fields =>
            fields ≠ [] ∧ validateFields name 0 fields = .ok () := by
  rw [validate.eq_def]
  dsimp only
  split
  · next hblank => simp [hblank]
  · next hname =>
      rw [and_iff_right (Bool.eq_false_iff.mpr hname)]
      cases shape with
      | primitive kind => simp
      | list kind => simp
      | fixedList kind arity => simp
      | enumeration variants =>
          cases variants with
          | nil => simp
          | cons first rest =>
              cases hclash : Variant.firstClash? (first :: rest) with
              | some fault => simp [hclash]
              | none => simp [hclash]
      | struct fields =>
          cases fields with
          | nil => simp
          | cons first rest => simp

theorem validate_primitive {kind : ElementKind}
    (hname : Text.isBlank name = false) :
    (primitive name kind).validate = .ok () :=
  validate_eq_ok_iff.mpr ⟨hname, trivial⟩

theorem validate_fixedList {kind : ElementKind} {arity : UInt32}
    (hname : Text.isBlank name = false) (harity : arity ≠ 0) :
    (fixedList name kind arity).validate = .ok () :=
  validate_eq_ok_iff.mpr ⟨hname, harity⟩

theorem arity_ne_zero_of_validate {kind : ElementKind} {arity : UInt32}
    (h : validate
      ⟨name, .fixedList kind arity, nullable, broadcast, nonEmpty⟩ = .ok ()) :
    arity ≠ 0 :=
  (validate_eq_ok_iff.mp h).2

theorem variants_ne_nil_of_validate {variants : List Variant}
    (h : validate
      ⟨name, .enumeration variants, nullable, broadcast, nonEmpty⟩ = .ok ()) :
    variants ≠ [] :=
  (validate_eq_ok_iff.mp h).2.1

theorem validateFields_eq_ok_iff {owner : String} {index : Nat}
    {fields : List (Field Datatype)} :
    validateFields owner index fields = .ok () ↔
      (forall field, field ∈ fields ->
        field.name.isEmpty = false ∧ field.datatype.validate = .ok ()) ∧
      (fields.map Field.name).Nodup := by
  induction fields generalizing index with
  | nil => simp [validateFields]
  | cons first rest ih =>
      rw [validateFields, List.forall_mem_cons, List.map_cons, List.nodup_cons]
      split
      · next hempty => simp [hempty]
      · next hname =>
          split
          · next hother =>
              rw [List.any_eq_true] at hother
              rcases hother with ⟨other, hrest, hother⟩
              have hmem : first.name ∈ rest.map Field.name :=
                beq_iff_eq.mp hother ▸ List.mem_map_of_mem hrest
              exact iff_of_false nofun fun h => h.2.1 hmem
          · next hother =>
              have hmem : first.name ∉ rest.map Field.name := by
                intro hmem
                rcases List.mem_map.mp hmem with ⟨other, hrest, heq⟩
                exact hother
                  (List.any_eq_true.mpr ⟨other, hrest, beq_iff_eq.mpr heq⟩)
              split
              · next fault hfirst => simp [hfirst]
              · next hfirst =>
                  have hhead : first.name.isEmpty = false ∧
                      first.datatype.validate = .ok () :=
                    ⟨Bool.eq_false_iff.mpr hname, hfirst⟩
                  rw [ih, and_assoc, and_iff_right hhead, and_iff_right hmem]

theorem validate_struct_iff {fields : List (Field Datatype)} :
    validate ⟨name, .struct fields, nullable, broadcast, nonEmpty⟩ = .ok () ↔
      Text.isBlank name = false ∧ fields ≠ [] ∧
        (forall field, field ∈ fields ->
          field.name.isEmpty = false ∧ field.datatype.validate = .ok ()) ∧
        (fields.map Field.name).Nodup := by
  rw [validate_eq_ok_iff]
  dsimp only
  rw [validateFields_eq_ok_iff]

section

variable {fields : List (Field Datatype)}

theorem fields_ne_nil_of_validate
    (h : validate ⟨name, .struct fields, nullable, broadcast, nonEmpty⟩ =
      .ok ()) :
    fields ≠ [] :=
  (validate_struct_iff.mp h).2.1

theorem validate_field_of_validate
    (h : validate ⟨name, .struct fields, nullable, broadcast, nonEmpty⟩ =
      .ok ()) :
    forall field, field ∈ fields -> field.datatype.validate = .ok () :=
  fun field hfield => ((validate_struct_iff.mp h).2.2.1 field hfield).2

theorem nodup_names_of_validate
    (h : validate ⟨name, .struct fields, nullable, broadcast, nonEmpty⟩ =
      .ok ()) :
    (fields.map Field.name).Nodup :=
  (validate_struct_iff.mp h).2.2.2

end

end Datatype
end Columnar
