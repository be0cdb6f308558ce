import Columnar.Proofs.Datatype.Variants
import Columnar.Proofs.Schema.Meaning

/-!
# Valid in every part

The rules for a datatype are rules for its own name and shape, and each datatype
within it is held to the same ones.  Validation accepts a datatype when all of
them keep the rules.  Otherwise it names one that does not, and what it says of
that one is true.
-/

namespace Columnar

theorem Text.isBlank_eq_false_iff {text : String} :
    isBlank text = false ↔ exists c, c ∈ text.toList ∧
      whiteSpace.contains c = false := by
  rw [isBlank, List.all_eq_false]
  simp only [Bool.not_eq_true]

/-- What is asked of a shape, whatever the datatypes of its fields are. -/
def Shape.WellFormed : Shape ref -> Prop
  | .primitive _ | .list _ => True
  | .fixedList _ arity => arity ≠ 0
  | .enumeration variants => variants ≠ [] ∧ variants.Pairwise Variant.Apart
  | .struct fields =>
      fields ≠ [] ∧ (forall field, field ∈ fields -> field.name ≠ "") ∧
        (fields.map Field.name).Nodup

/-! ## Variants that clash -/

namespace Variant

/--
Why two variants cannot stand in one enumeration; a shared byte comes first.
-/
inductive Clashes (a b : Variant) : DatatypeFault -> Prop
  | value : a.value = b.value ->
    Clashes a b (.sharedDiscriminant a.name b.name a.value)
  | name : a.value ≠ b.value -> Text.sameUpToCase a.name b.name = true ->
      Clashes a b (.duplicateVariant a.name)

variable {a b : Variant} {variants : List Variant} {fault : DatatypeFault}

theorem Clashes.not_apart (h : a.Clashes b fault) : ¬ a.Apart b := by
  intro hapart
  cases h with
  | value hvalue => exact hapart.1 hvalue
  | name _ hname =>
      rw [hapart.2] at hname
      cases hname

theorem exists_clashes_of_clash? (h : a.clash? variants = some fault) :
    exists b, b ∈ variants ∧ a.Clashes b fault := by
  induction variants with
  | nil => cases h
  | cons b rest ih =>
      rw [clash?] at h
      split at h
      · next hvalue =>
          cases h
          exact ⟨b, List.mem_cons_self, .value hvalue⟩
      · next hvalue =>
          split at h
          · next hname =>
              cases h
              exact ⟨b, List.mem_cons_self, .name hvalue hname⟩
          · rcases ih h with ⟨other, hother, hclash⟩
            exact ⟨other, List.mem_cons_of_mem b hother, hclash⟩

theorem exists_clashes_of_firstClash? (h : firstClash? variants = some fault) :
    exists a b, [a, b].Sublist variants ∧ a.Clashes b fault := by
  induction variants with
  | nil => cases h
  | cons a rest ih =>
      rw [firstClash?] at h
      split at h
      · next hclash =>
          cases h
          rcases exists_clashes_of_clash? hclash with ⟨b, hb, hclash⟩
          exact ⟨a, b, (List.singleton_sublist.mpr hb).cons_cons a, hclash⟩
      · rcases ih h with ⟨first, second, hsublist, hclash⟩
        exact ⟨first, second, hsublist.cons a, hclash⟩

end Variant

namespace Datatype

/--
The rules for the datatype itself: its name is not blank, and its shape is well
formed.
-/
structure WellFormed (d : Datatype) : Prop where
  named : exists c, c ∈ d.name.toList ∧ Text.whiteSpace.contains c = false
  shaped : d.shape.WellFormed

/--
What is wrong with the datatype itself, and not with the datatype of a field.
-/
inductive Breaks (d : Datatype) : DatatypeFault -> Prop
  | blankName : Text.isBlank d.name = true -> Breaks d .blankName
  | zeroArity {kind : ElementKind} :
      d.shape = .fixedList kind 0 -> Breaks d .zeroArity
  | noVariants : d.shape = .enumeration [] -> Breaks d .noVariants
  | clash {variants : List Variant} {a b : Variant} {fault : DatatypeFault} :
      d.shape = .enumeration variants -> [a, b].Sublist variants ->
      a.Clashes b fault ->
        Breaks d fault
  | noFields : d.shape = .struct [] -> Breaks d .noFields
  | emptyFieldName {fields : List (Field Datatype)} {index : Nat}
      {field : Field Datatype} :
      d.shape = .struct fields -> fields[index]? = some field ->
      field.name = "" ->
        Breaks d (.emptyFieldName index)
  | duplicateField {fields : List (Field Datatype)} {a b : Field Datatype} :
      d.shape = .struct fields -> [a, b].Sublist fields -> a.name = b.name ->
        Breaks d (.duplicateField a.name)

variable {d : Datatype} {fault : DatatypeFault} {e : InvalidDatatype}

theorem Breaks.not_wellFormed (h : d.Breaks fault) : ¬ d.WellFormed := by
  intro hwell
  have hshaped := hwell.shaped
  cases h with
  | blankName hblank =>
      rw [Text.isBlank_eq_false_iff.mpr hwell.named] at hblank
      cases hblank
  | zeroArity hshape =>
      rw [hshape] at hshaped
      exact hshaped rfl
  | noVariants hshape =>
      rw [hshape] at hshaped
      exact hshaped.1 rfl
  | clash hshape hsublist hclash =>
      rw [hshape] at hshaped
      exact hclash.not_apart
        (List.pairwise_iff_forall_sublist.mp hshaped.2 hsublist)
  | noFields hshape =>
      rw [hshape] at hshaped
      exact hshaped.1 rfl
  | emptyFieldName hshape hfield hname =>
      rw [hshape] at hshaped
      exact hshaped.2.1 _ (List.mem_of_getElem? hfield) hname
  | duplicateField hshape hsublist hname =>
      rw [hshape] at hshaped
      exact List.pairwise_iff_forall_sublist.mp hshaped.2.2
        (hsublist.map Field.name) hname

/-! ## Datatypes that pass -/

theorem wellFormed_of_validate (h : d.validate = .ok ()) : d.WellFormed := by
  rcases d with ⟨name, shape, nullable, broadcast, nonEmpty⟩
  refine ⟨Text.isBlank_eq_false_iff.mp (validate_eq_ok_iff.mp h).1, ?_⟩
  cases shape with
  | primitive kind => trivial
  | list kind => trivial
  | fixedList kind arity => exact arity_ne_zero_of_validate h
  | enumeration variants => exact (validate_enumeration_iff.mp h).2
  | struct fields =>
      rcases validate_struct_iff.mp h with ⟨_, hnonempty, hfields, hdistinct⟩
      refine ⟨hnonempty, ?_, hdistinct⟩
      intro field hfield hempty
      have hfilled := (hfields field hfield).1
      rw [hempty] at hfilled
      cases hfilled

theorem validate_of_within {part : Datatype} (hwithin : part.Within d)
    (h : d.validate = .ok ()) :
    part.validate = .ok () := by
  induction hwithin with
  | refl => exact h
  | @field d fields field hshape hfield _ ih =>
      rcases d with ⟨name, shape, nullable, broadcast, nonEmpty⟩
      cases hshape
      exact ih (validate_field_of_validate h field hfield)

/-! ## Datatypes that fail -/

theorem sizeOf_field_lt {fields : List (Field Datatype)}
    {field : Field Datatype} (hshape : d.shape = .struct fields)
    (hfield : field ∈ fields) :
    sizeOf field.datatype < sizeOf d := by
  rcases d with ⟨name, shape, nullable, broadcast, nonEmpty⟩
  rcases field with ⟨label, datatype⟩
  cases hshape
  have hmem := List.sizeOf_lt_of_mem hfield
  simp only [Field.mk.sizeOf_spec, Datatype.mk.sizeOf_spec,
    Shape.struct.sizeOf_spec] at hmem ⊢
  omega

/--
The fields are checked one by one; those in front of the rest have been passed
over.
-/
theorem breaks_or_field_of_validateFields {earlier rest : List (Field Datatype)}
    (hshape : d.shape = .struct (earlier ++ rest))
    (h : validateFields d.name earlier.length rest = .error e) :
    (e.datatype = d.name ∧ d.Breaks e.fault) ∨
      exists field, field ∈ rest ∧ field.datatype.validate = .error e := by
  induction rest generalizing earlier with
  | nil => cases h
  | cons field rest ih =>
      rw [validateFields] at h
      split at h
      · next hempty =>
          cases h
          have hindex : (earlier ++ field :: rest)[earlier.length]? =
            some field := by simp
          exact Or.inl ⟨rfl, .emptyFieldName hshape hindex
            (String.isEmpty_iff.mp hempty)⟩
      · split at h
        · next hother =>
            cases h
            rcases List.any_eq_true.mp hother with ⟨other, hrest, hname⟩
            have hsublist : [field, other].Sublist (earlier ++ field :: rest) :=
              ((List.singleton_sublist.mpr hrest).cons_cons field).trans
                (List.sublist_append_right earlier (field :: rest))
            exact Or.inl ⟨rfl, .duplicateField hshape hsublist
              (beq_iff_eq.mp hname).symm⟩
        · split at h
          · next fault hfield =>
              cases h
              exact Or.inr ⟨field, List.mem_cons_self, hfield⟩
          · -- The field has passed, so it is one more in front of the rest.
            have hnext : d.shape = .struct ((earlier ++ [field]) ++ rest) := by
              rw [hshape, List.append_assoc, List.singleton_append]
            have hlength : (earlier ++ [field]).length =
              earlier.length + 1 := by simp
            rcases ih hnext (hlength ▸ h) with hown | ⟨other, hother, hfault⟩
            · exact Or.inl hown
            · exact Or.inr ⟨other, List.mem_cons_of_mem field hother, hfault⟩

theorem breaks_or_field_of_validate (h : d.validate = .error e) :
    (e.datatype = d.name ∧ d.Breaks e.fault) ∨
      exists fields field, d.shape = .struct fields ∧ field ∈ fields ∧
        field.datatype.validate = .error e := by
  rcases d with ⟨name, shape, nullable, broadcast, nonEmpty⟩
  rw [validate.eq_def] at h
  dsimp only at h
  split at h
  · next hblank =>
      cases h
      exact Or.inl ⟨rfl, .blankName hblank⟩
  · cases shape with
    | primitive kind => cases h
    | list kind => cases h
    | fixedList kind arity =>
        dsimp only at h
        split at h
        · next hzero =>
            cases h
            exact Or.inl ⟨rfl, .zeroArity (congrArg _ hzero)⟩
        · cases h
    | enumeration variants =>
        cases variants with
        | nil =>
            cases h
            exact Or.inl ⟨rfl, .noVariants rfl⟩
        | cons first rest =>
            dsimp only at h
            split at h
            · next hclash =>
                cases h
                rcases Variant.exists_clashes_of_firstClash? hclash with
                  ⟨a, b, hsublist, hclash⟩
                exact Or.inl ⟨rfl, .clash rfl hsublist hclash⟩
            · cases h
    | struct fields =>
        dsimp only at h
        split at h
        · next hnil =>
            cases h
            exact Or.inl
              ⟨rfl, .noFields (congrArg _ (List.isEmpty_iff.mp hnil))⟩
        · have hshape :
              (⟨name, .struct fields, nullable, broadcast,
                nonEmpty⟩ : Datatype).shape =
              .struct ([] ++ fields) := rfl
          rcases breaks_or_field_of_validateFields hshape h with
            hown | ⟨field, hfield, hfault⟩
          · exact Or.inl hown
          · exact Or.inr ⟨fields, field, rfl, hfield, hfault⟩

/--
A report is passed on unchanged, so it is about the datatype in which it was
made.
-/
theorem exists_breaks_of_validate {d : Datatype} (h : d.validate = .error e) :
    exists part : Datatype, part.Within d ∧ e.datatype = part.name ∧
      part.Breaks e.fault := by
  rcases breaks_or_field_of_validate h with
    hown | ⟨fields, field, hshape, hfield, hinner⟩
  · exact ⟨d, .refl d, hown⟩
  · rcases exists_breaks_of_validate hinner with ⟨part, hwithin, hpart⟩
    exact ⟨part, .field hshape hfield hwithin, hpart⟩
termination_by sizeOf d
decreasing_by exact sizeOf_field_lt hshape hfield

/--
A datatype is valid exactly when every datatype within it keeps the rules,
itself included.  When it is not, the report has the name of one that breaks
them, at whatever depth, and says which rule that one breaks.
-/
theorem validate_judges_parts (d : Datatype) :
    (d.validate = .ok () ↔ forall part : Datatype, part.Within d ->
      part.WellFormed) ∧
    forall e, d.validate = .error e ->
      exists part : Datatype, part.Within d ∧ ¬ part.WellFormed ∧
        e.datatype = part.name ∧
        part.Breaks e.fault := by
  have hfails : forall e, d.validate = .error e ->
      exists part : Datatype, part.Within d ∧ ¬ part.WellFormed ∧
        e.datatype = part.name ∧
        part.Breaks e.fault := by
    intro e h
    rcases exists_breaks_of_validate h with ⟨part, hwithin, hname, hbreaks⟩
    exact ⟨part, hwithin, hbreaks.not_wellFormed, hname, hbreaks⟩
  refine ⟨?_, hfails⟩
  constructor
  · intro h part hwithin
    exact wellFormed_of_validate (validate_of_within hwithin h)
  · intro h
    cases hvalid : d.validate with
    | ok => rfl
    | error e =>
        rcases hfails e hvalid with ⟨part, hwithin, hbroken, _⟩
        exact absurd (h part hwithin) hbroken

namespace Sample

def twins : Datatype :=
  Datatype.enumeration "sample.Mode" [⟨"Open", 1⟩, ⟨"open", 2⟩]

def gate : Datatype :=
  Datatype.struct "sample.Gate"
    [⟨"width", Datatype.primitive "sample.Width" .u8⟩,
      ⟨"lock", Datatype.struct "sample.Lock" [⟨"mode", twins⟩]⟩]

end Sample

open Sample in
theorem validate_judges_parts_gate :
    gate.validate = .error ⟨"sample.Mode", .duplicateVariant "Open"⟩ ∧
      (exists part : Datatype, part.Within gate ∧ ¬ part.WellFormed ∧
        part.name = "sample.Mode") ∧
      forall part : Datatype, part.Within (.primitive "sample.Width" .u8) ->
        part.WellFormed := by
  have hgate : gate.validate =
    .error ⟨"sample.Mode", .duplicateVariant "Open"⟩ := by decide
  refine ⟨hgate, ?_, (validate_judges_parts _).1.mp rfl⟩
  rcases (validate_judges_parts gate).2 _ hgate with
    ⟨part, hwithin, hbroken, hname, _⟩
  exact ⟨part, hwithin, hbroken, hname.symm⟩

end Datatype
end Columnar
