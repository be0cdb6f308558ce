import Columnar.Proofs.Datatype.Validity
import Columnar.Proofs.Normalize.Named
import Columnar.Proofs.Normalize.Nested
import Columnar.Proofs.Normalize.Regular

/-!
# Records and positional sequences

A record that names fields of a struct, each at most once, says what the
sequence says that has the value of every field in declared order, and an absent
value for a field that is not named.  So the order of its pairs has no say, and
nor has the order within the records that its values hold.
-/

namespace Columnar

namespace NativeValue

theorem spread_congr {value other : NativeValue}
    (houtline : value.outline = other.outline)
    (hscalars : value.scalars = other.scalars) (arity : Arity)
    (broadcast : Bool) :
    value.spread arity broadcast = other.spread arity broadcast := by
  cases value with
  | scalar s =>
      cases other with
      | scalar t => rw [List.singleton_inj.mp hscalars]
      | _ => cases houtline
  | _ =>
      cases other <;> first | (cases arity <;> exact hscalars) | cases houtline

theorem toElements_congr {value other : NativeValue}
    (houtline : value.outline = other.outline)
    (hscalars : value.scalars = other.scalars) (config : Config)
    (kind : ElementKind) (arity : Arity) (broadcast : Bool) :
    value.toElements config kind arity broadcast =
      other.toElements config kind arity broadcast := by
  unfold toElements
  rw [dimensions_congr houtline, spread_congr houtline hscalars]

end NativeValue

namespace Datatype

theorem normalize_congr_of_isElementwise {d : Datatype} (hd : d.IsElementwise)
    {value other : NativeValue} (houtline : value.outline = other.outline)
    (hscalars : value.scalars = other.scalars) (config : Config) :
    d.normalize config value = d.normalize config other := by
  have hnull := NativeValue.isNull_congr houtline
  cases hvalue : value.isNull with
  | true =>
      rw [hvalue, eq_comm] at hnull
      rw [eq_null_of_isNull hvalue, eq_null_of_isNull hnull]
  | false =>
      rw [hvalue, eq_comm] at hnull
      rcases d with ⟨name, shape, nullable, broadcast, nonEmpty⟩
      cases shape with
      | primitive kind =>
          rw [normalize_primitive hvalue, normalize_primitive hnull]
          exact NativeValue.toElements_congr houtline hscalars _ _ _ _
      | fixedList kind arity =>
          rw [normalize_fixedList hvalue, normalize_fixedList hnull]
          exact NativeValue.toElements_congr houtline hscalars _ _ _ _
      | list kind =>
          rw [normalize_list hvalue, normalize_list hnull]
          exact NativeValue.toElements_congr houtline hscalars _ _ _ _
      | enumeration variants =>
          rw [normalize_enumeration hvalue, normalize_enumeration hnull]
          unfold NativeValue.toVariant
          rw [NativeValue.loneScalar_congr
              (NativeValue.dimensions_congr houtline) hscalars]
      | struct fields => exact absurd rfl (hd fields)

/-! ## Fields by name and by position -/

/-- No name stands twice, and every name is that of a field. -/
structure NamesFields (fields : List (Field Datatype))
    (pairs : List (String × NativeValue)) :
    Prop where
  distinct : (pairs.map Prod.fst).Nodup
  declared : forall name, name ∈ pairs.map Prod.fst ->
    name ∈ fields.map Field.name

def NamesRequired (fields : List (Field Datatype))
    (pairs : List (String × NativeValue)) : Prop :=
  forall field, field ∈ fields -> field.datatype.nullable = false ->
    field.name ∈ pairs.map Prod.fst

/--
What stands in the place of a field: the value of its name, and nothing where
there is none.
-/
inductive StandsFor (pairs : List (String × NativeValue))
    (field : Field Datatype) :
    NativeValue -> Prop
  | given {value : NativeValue} :
      (field.name, value) ∈ pairs -> StandsFor pairs field value
  | absent : field.name ∉ pairs.map Prod.fst -> StandsFor pairs field .null

theorem exists_standsFor (pairs : List (String × NativeValue))
    (field : Field Datatype) :
    exists item, StandsFor pairs field item := by
  by_cases hname : field.name ∈ pairs.map Prod.fst
  · rcases List.mem_map.mp hname with ⟨⟨name, value⟩, hpair, rfl⟩
    exact ⟨value, .given hpair⟩
  · exact ⟨.null, .absent hname⟩

section

variable {config : Config} {name owner : String}
  {nullable broadcast nonEmpty : Bool} {fields : List (Field Datatype)}
  {pairs others : List (String × NativeValue)}

theorem readNamed_of_standsFor (hdistinct : (pairs.map Prod.fst).Nodup)
    {field : Field Datatype}
    (hrequired : field.datatype.nullable = false ->
      field.name ∈ pairs.map Prod.fst)
    {item : NativeValue} (h : StandsFor pairs field item) :
    readNamed config owner field (NativeValue.named? pairs field.name) =
      inField field.name (field.datatype.normalize config item) := by
  cases h with
  | given hpair =>
      rw [(NativeValue.named?_eq_some_iff_mem hdistinct).mpr hpair]
      rfl
  | absent hname =>
      cases hnullable : field.datatype.nullable with
      | false => exact absurd (hrequired hnullable) hname
      | true =>
          rw [NativeValue.named?_eq_none_iff.mpr hname, normalize_null,
            readNamed, hnullable]
          rfl

theorem normalizeNamed_eq_normalizePositional
    (hdistinct : (pairs.map Prod.fst).Nodup)
    (hrequired : NamesRequired fields pairs) {items : List NativeValue}
    (h : List.Forall₂ (StandsFor pairs) fields items) :
    normalizeNamed config owner pairs fields =
      normalizePositional config fields items := by
  induction h with
  | nil => rfl
  | cons hitem _ ih =>
      -- Both go through the fields in declared order, so the first error is the
      -- same as well.
      rw [NamesRequired, List.forall_mem_cons] at hrequired
      rw [normalizeNamed_cons, normalizePositional, ih hrequired.2,
        readNamed_of_standsFor hdistinct hrequired.1 hitem]

theorem normalize_record_of_namesFields (h : NamesFields fields pairs) :
    normalize config ⟨name, .struct fields, nullable, broadcast, nonEmpty⟩
        (.record pairs) =
      (normalizeNamed config name pairs fields).map .struct := by
  rw [normalize_record, undeclared?_eq_none_iff.mpr h.declared]

/-! ## The order of pairs -/

theorem NamesFields.perm (h : NamesFields fields pairs)
    (hperm : pairs.Perm others) :
    NamesFields fields others where
  distinct := (hperm.map Prod.fst).nodup_iff.mp h.distinct
  declared := fun name hname =>
    h.declared name ((hperm.map Prod.fst).mem_iff.mpr hname)

theorem normalize_record_perm (h : NamesFields fields pairs)
    (hperm : pairs.Perm others) :
    normalize config ⟨name, .struct fields, nullable, broadcast, nonEmpty⟩
        (.record pairs) =
      normalize config ⟨name, .struct fields, nullable, broadcast, nonEmpty⟩
        (.record others) := by
  rw [normalize_record_of_namesFields h,
    normalize_record_of_namesFields (h.perm hperm)]
  congr 1
  apply normalizeNamed_congr
  intro field _
  rw [NativeValue.named?_perm h.distinct hperm]

/-! ## Values within records and sequences -/

theorem normalize_record_exchange (hfields : (fields.map Field.name).Nodup)
    {field : Field Datatype} (hfield : field ∈ fields)
    {value other : NativeValue}
    (h : field.datatype.normalize config value =
      field.datatype.normalize config other)
    (earlier later : List (String × NativeValue)) :
    normalize config ⟨name, .struct fields, nullable, broadcast, nonEmpty⟩
        (.record (earlier ++ (field.name, value) :: later)) =
      normalize config ⟨name, .struct fields, nullable, broadcast, nonEmpty⟩
        (.record (earlier ++ (field.name, other) :: later)) := by
  have hnamed : normalizeNamed config name
        (earlier ++ (field.name, value) :: later) fields =
      normalizeNamed config name (earlier ++ (field.name, other) :: later)
        fields := by
    apply normalizeNamed_congr
    intro reader hreader
    rw [NativeValue.named?_append, NativeValue.named?_append,
      NativeValue.named?_cons, NativeValue.named?_cons]
    by_cases hname : field.name = reader.name
    · -- Field names are distinct, so no other field reads the value.
      have hsame := List.inj_on_of_nodup_map hfields hfield hreader hname
      rw [if_pos hname, if_pos hname, ← hsame]
      cases NativeValue.named? earlier field.name with
      | some first => rfl
      | none => exact congrArg (inField field.name) h
    · rw [if_neg hname, if_neg hname]
  rw [normalize_record, normalize_record, hnamed, List.map_append,
    List.map_append, List.map_cons, List.map_cons]

theorem normalizePositional_exchange {field : Field Datatype}
    {value other : NativeValue}
    (h : field.datatype.normalize config value =
      field.datatype.normalize config other)
    (earlier later : List NativeValue)
    (hfield : fields[earlier.length]? = some field) :
    normalizePositional config fields (earlier ++ value :: later) =
      normalizePositional config fields (earlier ++ other :: later) := by
  induction earlier generalizing fields with
  | nil =>
      cases fields with
      | nil => cases hfield
      | cons first rest =>
          cases hfield
          rw [List.nil_append, List.nil_append, normalizePositional,
            normalizePositional, h]
  | cons item earlier ih =>
      cases fields with
      | nil => cases hfield
      | cons first rest =>
          rw [List.cons_append, List.cons_append, normalizePositional,
            normalizePositional, ih hfield]

end

/--
The records of a value, at any depth, have their pairs in another order.
Records that are read as structs name fields, each at most once.  Where elements
are read a record is refused whatever it holds: what it holds is in neither the
outline nor the scalars.
-/
inductive Reordered : Datatype -> NativeValue -> NativeValue -> Prop
  | same {d : Datatype} {value : NativeValue} : Reordered d value value
  | trans {d : Datatype} {value next other : NativeValue} :
      Reordered d value next -> Reordered d next other ->
      Reordered d value other
  | elements {d : Datatype} {value other : NativeValue} : d.IsElementwise ->
      value.outline = other.outline -> value.scalars = other.scalars ->
      Reordered d value other
  | pairs {name : String} {fields : List (Field Datatype)}
      {nullable broadcast nonEmpty : Bool}
      {pairs others : List (String × NativeValue)} : NamesFields fields pairs ->
      pairs.Perm others ->
        Reordered ⟨name, .struct fields, nullable, broadcast, nonEmpty⟩
          (.record pairs)
          (.record others)
  | named {name : String} {fields : List (Field Datatype)}
      {nullable broadcast nonEmpty : Bool} {field : Field Datatype}
      {earlier later : List (String × NativeValue)}
      {value other : NativeValue} :
      field ∈ fields -> Reordered field.datatype value other ->
        Reordered ⟨name, .struct fields, nullable, broadcast, nonEmpty⟩
          (.record (earlier ++ (field.name, value) :: later))
          (.record (earlier ++ (field.name, other) :: later))
  | positional {name : String} {fields : List (Field Datatype)}
      {nullable broadcast nonEmpty : Bool} {field : Field Datatype}
      {earlier later : List NativeValue} {value other : NativeValue} :
      fields[earlier.length]? = some field ->
      Reordered field.datatype value other ->
        Reordered ⟨name, .struct fields, nullable, broadcast, nonEmpty⟩
          (.sequence (earlier ++ value :: later))
            (.sequence (earlier ++ other :: later))

theorem normalize_of_reordered {d : Datatype} {value other : NativeValue}
    (h : Reordered d value other) (hd : d.validate = .ok ()) (config : Config) :
    d.normalize config value = d.normalize config other := by
  induction h with
  | same => rfl
  | trans _ _ ihvalue ihother => rw [ihvalue hd, ihother hd]
  | elements helementwise houtline hscalars =>
      exact normalize_congr_of_isElementwise helementwise houtline
        hscalars config
  | pairs hnames hperm => exact normalize_record_perm hnames hperm
  | named hfield _ ih =>
      apply normalize_record_exchange (nodup_names_of_validate hd) hfield
      exact ih (validate_field_of_validate hd _ hfield)
  | positional hfield _ ih =>
      have hvalue :=
        ih (validate_field_of_validate hd _ (List.mem_of_getElem? hfield))
      rw [normalize, normalize, normalizePositional_exchange hvalue _ _ hfield,
        List.length_append, List.length_append, List.length_cons,
        List.length_cons]

/--
A record that names fields, each at most once and every required one, is
normalized like the sequence that lists the values of the fields in declared
order, and there is such a sequence.  Another order of the pairs, here or in a
record further in, leads to the same result.
-/
theorem normalize_record_as_listed {d : Datatype} (hd : d.validate = .ok ())
    (config : Config) :
    (forall fields pairs, d.shape = .struct fields ->
      NamesFields fields pairs ->
      NamesRequired fields pairs ->
        (exists items, List.Forall₂ (StandsFor pairs) fields items) ∧
        forall items, List.Forall₂ (StandsFor pairs) fields items ->
          d.normalize config (.record pairs) = d.normalize config
            (.sequence items)) ∧
    forall value other, Reordered d value other ->
      d.normalize config value = d.normalize config other := by
  refine ⟨?_, fun value other h => normalize_of_reordered h hd config⟩
  intro fields pairs hshape hnames hrequired
  refine ⟨exists_forall₂_iff.mpr fun field _ =>
    exists_standsFor pairs field, ?_⟩
  intro items hitems
  rcases d with ⟨name, shape, nullable, broadcast, nonEmpty⟩
  cases hshape
  rw [normalize_record_of_namesFields hnames, normalize,
    if_pos hitems.length_eq.symm,
    normalizeNamed_eq_normalizePositional hnames.distinct hrequired hitems]

namespace Sample

def sizeFields : List (Field Datatype) :=
  [⟨"width", primitive "sample.Width" .u8⟩,
    ⟨"height", primitive "sample.Height" .u8⟩]

def doorFields : List (Field Datatype) :=
  [⟨"label", { primitive "sample.Label" .u32 with nullable := true }⟩,
    ⟨"size", struct "sample.Size" sizeFields⟩]

def door : Datatype := struct "sample.Door" doorFields

def size : List (String × NativeValue) :=
  [("height", .u64 2), ("width", .u64 1)]

end Sample

open Sample in
theorem normalize_record_as_listed_door :
    door.normalize {} (.record [("size", .record size)]) =
        door.normalize {} (.sequence [.null, .record size]) ∧
      door.normalize {} (.record [("size", .record size)]) =
        door.normalize {} (.record [("size", .record size.reverse)]) ∧
      door.normalize {} (.record [("size", .record size)]) =
        .ok (.struct
          [.null, .struct [.one .u8 (1 : UInt8), .one .u8 (2 : UInt8)]]) := by
  have hvalid : door.validate = .ok () := rfl
  have hdoor : NamesFields doorFields [("size", .record size)] :=
    ⟨by decide, by decide⟩
  have hrequired : NamesRequired doorFields [("size", .record size)] := by
    unfold NamesRequired
    decide
  have hsize : NamesFields sizeFields size := ⟨by decide, by decide⟩
  rcases normalize_record_as_listed hvalid {} with ⟨hlisted, hreordered⟩
  refine ⟨?_, ?_, rfl⟩
  · rcases hlisted doorFields _ rfl hdoor hrequired with ⟨_, hitems⟩
    exact hitems _ (.cons (.absent (by decide))
      (.cons (.given List.mem_cons_self) .nil))
  · apply hreordered
    have hinner : Reordered (struct "sample.Size" sizeFields) (.record size)
        (.record size.reverse) := .pairs hsize (List.reverse_perm size).symm
    exact @Reordered.named "sample.Door" doorFields false false false _ []
      [] _ _ (List.mem_of_getElem? (i := 1) rfl) hinner

end Datatype
end Columnar
