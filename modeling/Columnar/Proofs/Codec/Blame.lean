import Columnar.Proofs.Codec.Encoding

/-!
# What encoding blames

Instances are taken apart into columns before they are checked, and fillers
stand in the columns of an absent struct.  An error of encoding is about none of
that, unless a size does not fit.  It names an instance that was given and the
fields of present structs that lead to a value in it, and what it says of the
value is true.
-/

namespace Columnar
namespace Datatype

/--
A path of fields leads from an instance of a datatype to a value within it and
the datatype the value is to conform to.  Every struct on the way is present and
has a value for each declared field.
-/
inductive Leads :
    Datatype -> Instance -> List String -> Datatype -> Instance -> Prop
  | here {d : Datatype} {i : Instance} : Leads d i [] d i
  | field {name : String} {nullable broadcast nonEmpty : Bool}
      {fields : List (Field Datatype)} {values : List Instance} {position : Nat}
      {field : Field Datatype} {value : Instance} {path : List String}
      {holder : Datatype} {target : Instance} :
      values.length = fields.length -> fields[position]? = some field ->
        values[position]? = some value ->
        Leads field.datatype value path holder target ->
          Leads ⟨name, .struct fields, nullable, broadcast, nonEmpty⟩
            (.struct values)
            (field.name :: path) holder target

/-- What is wrong with a value itself, and not only with a value within it. -/
inductive Defect (d : Datatype) : Instance -> ConversionError -> Prop
  | absent : d.nullable = false -> Defect d .null (.unexpectedNull d.name)
  | otherKind {kind : ElementKind} {data : Elements} :
      d.element? = some kind -> data.kind ≠ kind ->
      Defect d (.elements data) (.shapeMismatch d.name (.elements kind))
  | structForElements {kind : ElementKind} {values : List Instance} :
      d.element? = some kind ->
      Defect d (.struct values) (.shapeMismatch d.name (.elements kind))
  | elementsForStruct {fields : List (Field Datatype)} {data : Elements} :
      d.shape = .struct fields ->
      Defect d (.elements data) (.shapeMismatch d.name .fieldValues)
  | fieldCount {fields : List (Field Datatype)} {values : List Instance} :
      d.shape = .struct fields -> values.length ≠ fields.length ->
        Defect d (.struct values) (.shapeMismatch d.name .fieldValues)
  | count {arity : Arity} {data : Elements} : d.element? = some data.kind ->
      d.arity? = some arity -> arity.accepts data.length = false ->
        Defect d (.elements data) (.arityMismatch arity data.length)
  | undeclared {variants : List Variant} {byte : UInt8} :
      d.shape = .enumeration variants ->
      (forall v, v ∈ variants -> v.value ≠ byte) ->
        Defect d (.one .u8 byte) (.invalidEnumValue d.name (.number byte.toNat))

/-! ## Values that are led to -/

theorem conforms_of_conformEach {fields : List (Field Datatype)}
    {values : List Instance} (h : ConformEach fields values) {position : Nat}
    {field : Field Datatype} {value : Instance}
    (hfield : fields[position]? = some field)
    (hvalue : values[position]? = some value) :
    field.datatype.Conforms value := by
  induction fields generalizing values position with
  | nil => cases hfield
  | cons first rest ih =>
      cases values with
      | nil => cases hvalue
      | cons head tail =>
          rw [ConformEach] at h
          cases position with
          | zero =>
              cases hfield
              cases hvalue
              exact h.1
          | succ position => exact ih h.2 hfield hvalue

theorem conforms_of_leads {d holder : Datatype} {i target : Instance}
    {path : List String} (h : Leads d i path holder target)
    (hconforms : d.Conforms i) : holder.Conforms target := by
  induction h with
  | here => exact hconforms
  | field _ hfield hvalue _ ih =>
      exact ih (conforms_of_conformEach (conforms_struct_iff.mp hconforms)
        hfield hvalue)

theorem fills_of_conforms {d : Datatype} {kind : ElementKind} {i : Instance}
    (helement : d.element? = some kind) (h : d.Conforms i) :
    exists arity, d.arity? = some arity ∧ i.Fills kind arity := by
  rcases d with ⟨name, shape, nullable, broadcast, nonEmpty⟩
  cases shape with
  | primitive stored =>
      cases helement
      exact ⟨_, rfl, (conforms_primitive_iff.mp h).2⟩
  | fixedList stored arity =>
      cases helement
      exact ⟨_, rfl, (conforms_fixedList_iff.mp h).2⟩
  | list stored =>
      cases helement
      exact ⟨_, rfl, (conforms_list_iff.mp h).2⟩
  | enumeration variants =>
      cases helement
      exact ⟨_, rfl, (conforms_enumeration_iff.mp h).2.1⟩
  | struct fields => cases helement

theorem not_conforms_of_defect {d : Datatype} {i : Instance}
    {e : ConversionError} (h : Defect d i e) : ¬ d.Conforms i := by
  intro hconforms
  cases h with
  | absent hnullable =>
      rw [conforms_null_iff.mp hconforms] at hnullable
      cases hnullable
  | otherKind helement hkind =>
      rcases fills_of_conforms helement hconforms with ⟨_, _, hfills⟩
      exact hkind hfills.1
  | structForElements helement =>
      rcases fills_of_conforms helement hconforms with ⟨_, _, hfills⟩
      exact hfills
  | elementsForStruct hshape =>
      rcases d with ⟨name, shape, nullable, broadcast, nonEmpty⟩
      cases hshape
      exact hconforms
  | fieldCount hshape hcount =>
      rcases d with ⟨name, shape, nullable, broadcast, nonEmpty⟩
      cases hshape
      exact hcount (length_eq_of_conformEach (conforms_struct_iff.mp hconforms))
  | count helement harity hcount =>
      rcases fills_of_conforms helement hconforms with
        ⟨arity, hdeclared, hfills⟩
      rw [harity] at hdeclared
      cases hdeclared
      rw [hfills.2] at hcount
      cases hcount
  | undeclared hshape hbyte =>
      rcases d with ⟨name, shape, nullable, broadcast, nonEmpty⟩
      cases hshape
      rcases (conforms_enumeration_iff.mp hconforms).2.2 _ List.mem_cons_self
        with ⟨v, hv, hvalue⟩
      exact hbyte v hv hvalue

theorem root_of_defect {d : Datatype} {i : Instance} {e : ConversionError}
    (h : Defect d i e) :
    e.root = e := by
  cases h <;> rfl

/-! ## Errors that blame a value -/

/-- A defect of a value in some row, behind the fields that lead to it. -/
inductive Blames (d : Datatype) (rows : List Instance) : ConversionError -> Prop
  | intro {index : Nat} {row target : Instance} {path : List String}
      {holder : Datatype} {fault : ConversionError} :
      rows[index]? = some row -> Leads d row path holder target ->
        Defect holder target fault ->
        Blames d rows (path.foldr .inField (.atIndex index fault))

inductive BlamesField (fields : List (Field Datatype))
    (rows : List (Option (List Instance))) :
    ConversionError -> Prop
  | intro {index position : Nat} {values : List Instance}
      {field : Field Datatype} {value target : Instance} {path : List String}
      {holder : Datatype} {fault : ConversionError} :
      rows[index]? = some (some values) -> fields[position]? = some field ->
        values[position]? = some value ->
        Leads field.datatype value path holder target ->
          Defect holder target fault ->
            BlamesField fields rows
              ((field.name :: path).foldr .inField (.atIndex index fault))

/-! ## Checks of rows -/

section

variable {d : Datatype} {rows : List Instance} {e : ConversionError}

theorem blames_of_defect {index : Nat} {row : Instance}
    {fault : ConversionError} (hrow : rows[index]? = some row)
    (h : Defect d row fault) :
    d.Blames rows (.atIndex index fault) :=
  .intro hrow .here h

theorem blames_of_convertEach {convert : Instance -> Except ConversionError α}
    (hconvert : forall row fault, convert row = .error fault ->
      Defect d row fault)
    (h : convertEach convert 0 rows = .error e) : d.Blames rows e := by
  rcases firstFault_of_convertEach h with ⟨position, fault, hfirst, rfl⟩
  rcases hfirst.fails with ⟨row, hrow, hfault⟩
  rw [Nat.zero_add]
  exact blames_of_defect hrow (hconvert row fault hfault)

theorem blames_of_validityOf
    (h : Instance.validityOf d.name d.nullable rows = .error e) :
    d.Blames rows e := by
  unfold Instance.validityOf at h
  split at h
  · next hany =>
      split at h
      · cases h
      · next hnullable =>
          rcases List.any_eq_true.mp hany with ⟨row, hrow, hnull⟩
          have hlt : rows.findIdx Instance.isNull < rows.length :=
            List.findIdx_lt_length_of_exists ⟨row, hrow, hnull⟩
          have hfirst : rows[rows.findIdx Instance.isNull].isNull = true :=
            List.findIdx_getElem
          cases h
          apply blames_of_defect (List.getElem?_eq_getElem hlt)
          cases hfound : rows[rows.findIdx Instance.isNull] with
          | null => exact .absent (Bool.eq_false_iff.mpr hnullable)
          | elements data =>
              rw [hfound] at hfirst
              cases hfirst
          | struct values =>
              rw [hfound] at hfirst
              cases hfirst
  · cases h

theorem defect_of_rowElements {kind : ElementKind} {arity : Arity}
    (helement : d.element? = some kind) (harity : d.arity? = some arity)
    {row : Instance} {fault : ConversionError}
    (h : row.rowElements d.name kind arity = .error fault) :
    Defect d row fault := by
  cases row with
  | null => cases h
  | struct values =>
      cases h
      exact .structForElements helement
  | elements data =>
      rcases data with ⟨stored, values⟩
      by_cases hkind : stored = kind
      · cases hkind
        simp only [Instance.rowElements, Elements.as?, dite_true] at h
        split at h
        · cases h
        · next hcount =>
            cases h
            exact .count helement harity (Bool.eq_false_iff.mpr hcount)
      · simp only [Instance.rowElements, Elements.as?, hkind, dite_false] at h
        cases h
        exact .otherKind helement hkind

theorem blames_of_flatten {kind : ElementKind} {arity : Arity}
    (helement : d.element? = some kind) (harity : d.arity? = some arity)
    (h : Instance.flatten d.name kind arity 0 rows = .error e) :
    d.Blames rows e := by
  rw [Instance.flatten_eq_convertEach, map_eq_error_iff] at h
  exact blames_of_convertEach (fun _ _ =>
    defect_of_rowElements helement harity) h

theorem exists_undeclared_of_checkVariants {name : String}
    {variants : List Variant} {index : Nat}
    (h : Instance.checkVariants name variants index rows = .error e) :
    exists position row, rows[position]? = some row ∧ exists byte : UInt8,
      byte ∈ (row.values? .u8).getD [] ∧
        (forall v, v ∈ variants -> v.value ≠ byte) ∧
        e = .atIndex (index + position)
          (.invalidEnumValue name (.number byte.toNat)) := by
  induction rows generalizing index with
  | nil => cases h
  | cons row rest ih =>
      rw [Instance.checkVariants] at h
      split at h
      · next byte hfind =>
          have hbad := List.find?_some hfind
          cases h
          refine ⟨0, row, rfl, byte, List.mem_of_find?_eq_some hfind, ?_, rfl⟩
          simpa using hbad
      · rcases ih h with ⟨position, bad, hbad, byte, hbyte, hundeclared, rfl⟩
        refine ⟨position + 1, bad, hbad, byte, hbyte, hundeclared, ?_⟩
        rw [Nat.add_assoc, Nat.add_comm 1 position]

theorem blames_of_checkVariants {variants : List Variant}
    (hshape : d.shape = .enumeration variants)
    (hfill : forall row, row ∈ rows -> row.Fills .u8 (.fixed 1))
    (h : Instance.checkVariants d.name variants 0 rows = .error e) :
    d.Blames rows e := by
  -- Behind the check of elements a present row of an enumeration has one byte.
  rcases exists_undeclared_of_checkVariants h with
    ⟨index, row, hrow, byte, hbyte, hundeclared, rfl⟩
  rw [Nat.zero_add]
  apply blames_of_defect hrow
  have hfills := hfill row (List.mem_of_getElem? hrow)
  cases row with
  | null => cases hbyte
  | struct values => exact hfills.elim
  | elements data =>
      rcases data with ⟨stored, values⟩
      rcases hfills with ⟨rfl, hcount⟩
      have hlength : values.length = 1 := Arity.accepts_fixed_iff.mp hcount
      rcases List.length_eq_one_iff.mp hlength with ⟨only, rfl⟩
      have hsame : byte = only := by
        simpa [Instance.values?, Instance.elements?, Elements.as?] using hbyte
      rw [hsame] at hundeclared ⊢
      exact .undeclared hshape hundeclared

theorem defect_of_rowFields {fields : List (Field Datatype)}
    (hshape : d.shape = .struct fields) {row : Instance}
    {fault : ConversionError}
    (h : row.rowFields d.name fields.length = .error fault) :
    Defect d row fault := by
  cases row with
  | null => cases h
  | elements data =>
      cases h
      exact .elementsForStruct hshape
  | struct values =>
      rw [Instance.rowFields] at h
      split at h
      · cases h
      · next hcount =>
          cases h
          exact .fieldCount hshape hcount

theorem blames_of_fieldRows {fields : List (Field Datatype)}
    (hshape : d.shape = .struct fields)
    (h : Instance.fieldRows d.name fields.length 0 rows = .error e) :
    d.Blames rows e := by
  rw [Instance.fieldRows_eq_convertEach] at h
  exact blames_of_convertEach (fun _ _ => defect_of_rowFields hshape) h

end

/-! ## Fields -/

section

variable {name : String} {datatype : Datatype} {rest : List (Field Datatype)}
  {rows : List (Option (List Instance))} {e : ConversionError}

/--
A filler conforms, so what is blamed in the column of a field was given in some
struct.
-/
theorem blamesField_head (hvalid : datatype.validate = .ok ())
    (h : datatype.Blames (rows.map (Instance.firstOr datatype.filler)) e) :
    BlamesField (⟨name, datatype⟩ :: rest) rows (.inField name e) := by
  cases h with
  | @intro index row target path holder fault hrow hleads hdefect =>
      have hfiller : row ≠ datatype.filler := by
        rintro rfl
        exact not_conforms_of_defect hdefect
          (conforms_of_leads hleads (conforms_filler datatype hvalid))
      rw [List.getElem?_map, Option.map_eq_some_iff] at hrow
      rcases hrow with ⟨entry, hentry, rfl⟩
      cases entry with
      | none => exact absurd rfl hfiller
      | some values =>
          cases values with
          | nil => exact absurd rfl hfiller
          | cons value others =>
              have hfield :
                  (⟨name, datatype⟩ :: rest : List (Field Datatype))[0]? =
                    some ⟨name, datatype⟩ := rfl
              have hvalue : (value :: others)[0]? = some value := rfl
              exact BlamesField.intro hentry hfield hvalue hleads hdefect

theorem blamesField_tail {first : Field Datatype}
    (h : BlamesField rest (rows.map fun row => row.map List.tail) e) :
    BlamesField (first :: rest) rows e := by
  cases h with
  | @intro index position values field value target path holder fault hrow
    hfield hvalue hleads
      hdefect =>
      rw [List.getElem?_map, Option.map_eq_some_iff] at hrow
      rcases hrow with ⟨entry, hentry, htail⟩
      cases entry with
      | none => cases htail
      | some all =>
          cases htail
          have hnext : (first :: rest)[position + 1]? = some field := hfield
          rw [List.getElem?_tail] at hvalue
          exact BlamesField.intro hentry hnext hvalue hleads hdefect

theorem blames_of_blamesField {owner : String}
    {nullable broadcast nonEmpty : Bool} {fields : List (Field Datatype)}
    {structs : List Instance}
    (hshape : forall row, row ∈ structs ->
      row.isNull = true ∨ exists values, row = .struct values ∧
      values.length = fields.length)
    (h : BlamesField fields (structs.map Instance.fields?) e) :
    Blames ⟨owner, .struct fields, nullable, broadcast, nonEmpty⟩
      structs e := by
  cases h with
  | @intro index position values field value target path holder fault hrow
    hfield hvalue hleads
      hdefect =>
      have hcount : values.length = fields.length :=
        length_eq_of_fields? hshape values (List.mem_of_getElem? hrow)
      rw [List.getElem?_map, Option.map_eq_some_iff] at hrow
      rcases hrow with ⟨row, hrow, hvalues⟩
      cases row with
      | null => cases hvalues
      | elements data => cases hvalues
      | struct others =>
          cases hvalues
          exact .intro hrow (.field hcount hfield hvalue hleads) hdefect

end

/-! ## Columns -/

mutual

/--
Unless a size does not fit, an error of encoding blames a value that was given.
-/
theorem blames_of_encode : forall d : Datatype, d.validate = .ok () ->
    forall {rows : List Instance} {e : ConversionError},
      d.encode rows = .error e ->
      e.root ≠ .offsetOverflow -> d.Blames rows e
  | ⟨name, shape, nullable, broadcast, nonEmpty⟩, hvalid, rows, e,
    h, hroot => by
      rw [encode.eq_def] at h
      dsimp only at h
      rcases bind_eq_error_iff.mp h with hnull | ⟨validity, hnull, hrest⟩
      · exact blames_of_validityOf hnull
      · match shape with
        | .primitive kind =>
            rcases bind_eq_error_iff.mp hrest with hflat | ⟨slots, _, hdone⟩
            · exact blames_of_flatten rfl rfl hflat
            · cases hdone
        | .enumeration variants =>
            rcases bind_eq_error_iff.mp hrest with
              hflat | ⟨slots, hflat, hchecked⟩
            · exact blames_of_flatten rfl rfl hflat
            · rcases bind_eq_error_iff.mp hchecked with hcheck | ⟨_, _, hdone⟩
              · exact blames_of_checkVariants rfl
                  (Instance.flatten_eq_ok_iff.mp hflat).1 hcheck
              · cases hdone
        | .fixedList kind arity =>
            rcases bind_eq_error_iff.mp hrest with hflat | ⟨slots, _, hsize⟩
            · exact blames_of_flatten rfl rfl hflat
            · split at hsize
              · cases hsize
              · cases hsize
                exact absurd rfl hroot
        | .list kind =>
            dsimp only at hrest
            split at hrest
            · rcases bind_eq_error_iff.mp hrest with hflat | ⟨slots, _, hdone⟩
              · exact blames_of_flatten rfl rfl hflat
              · cases hdone
            · cases hrest
              exact absurd rfl hroot
        | .struct [] => exact absurd rfl (fields_ne_nil_of_validate hvalid)
        | .struct (field :: others) =>
            rcases bind_eq_error_iff.mp hrest with
              hrows | ⟨values, hrows, hfields⟩
            · exact blames_of_fieldRows rfl hrows
            · rcases Instance.fieldRows_eq_ok_iff.mp hrows with ⟨hshape, rfl⟩
              rcases bind_eq_error_iff.mp hfields with
                hchildren | ⟨children, _, hdone⟩
              · exact blames_of_blamesField hshape
                  (blamesField_of_encodeFields (field :: others)
                    (validate_field_of_validate hvalid) hchildren hroot)
              · cases hdone

theorem blamesField_of_encodeFields : forall fields : List (Field Datatype),
    (forall field, field ∈ fields -> field.datatype.validate = .ok ()) ->
      forall {rows : List (Option (List Instance))} {e : ConversionError},
        encodeFields fields rows = .error e -> e.root ≠ .offsetOverflow ->
          BlamesField fields rows e
  | [], _, rows, e, h, _ => by
      rw [encodeFields] at h
      cases h
  | ⟨name, datatype⟩ :: rest, hvalid, rows, e, h, hroot => by
      rw [encodeFields] at h
      rcases bind_eq_error_iff.mp h with hfirst | ⟨child, _, hothers⟩
      · rcases inField_eq_error_iff.mp hfirst with ⟨source, hsource, rfl⟩
        exact blamesField_head (hvalid _ List.mem_cons_self)
          (blames_of_encode datatype (hvalid _ List.mem_cons_self)
            hsource hroot)
      · rcases bind_eq_error_iff.mp hothers with hrest | ⟨children, _, hdone⟩
        · exact blamesField_tail (blamesField_of_encodeFields rest
            (fun field hfield => hvalid field (List.mem_cons_of_mem _ hfield))
            hrest hroot)
        · cases hdone

end

theorem root_foldr_inField (path : List String) (e : ConversionError) :
    (path.foldr .inField e).root = e.root := by
  induction path with
  | nil => rfl
  | cons name rest ih => exact ih

/--
Unless a size does not fit, an error of encoding is the position of an instance
that was given, inside the fields that lead from it, through present structs, to
a value that does not conform; and its root says what is wrong with that value.
-/
theorem encode_blames_given_value {d : Datatype} (hvalid : d.validate = .ok ())
    {rows : List Instance} {e : ConversionError} (h : d.encode rows = .error e)
    (hroot : e.root ≠ .offsetOverflow) :
    exists path index row holder target,
      e = List.foldr .inField (.atIndex index e.root) path ∧
        rows[index]? = some row ∧
        Leads d row path holder target ∧ ¬ holder.Conforms target ∧
          Defect holder target e.root := by
  cases blames_of_encode d hvalid h hroot with
  | @intro index row target path holder fault hrow hleads hdefect =>
      have hfault :
          (path.foldr .inField (.atIndex index fault) : ConversionError).root =
            fault :=
        (root_foldr_inField path _).trans (root_of_defect hdefect)
      rw [hfault]
      exact ⟨path, index, row, holder, target, rfl, hrow, hleads,
        not_conforms_of_defect hdefect, hdefect⟩

namespace Sample

def misfitPoses : List Instance := [
  .null,
  poseOf [⟨0⟩, ⟨0⟩] .null 1 .null,
  poseOf [⟨0⟩, ⟨0⟩] .null 2
    (.struct [.one .bool true, .elements ⟨.u8, ([1] : List UInt8)⟩])]

def misfit : ConversionError :=
  .inField "panel" (.inField "switches"
    (.atIndex 2 (.shapeMismatch "sample.Switches" (.elements .bool))))

end Sample

open Sample in
theorem encode_blames_given_value_misfit :
    pose.encode misfitPoses = .error misfit ∧
      exists path index row holder target,
        misfit = List.foldr .inField (.atIndex index misfit.root) path ∧
          misfitPoses[index]? = some row ∧ Leads pose row path holder target ∧
            ¬ holder.Conforms target ∧ Defect holder target misfit.root := by
  have hvalid : pose.validate = .ok () := rfl
  have hencode : pose.encode misfitPoses = .error misfit := rfl
  exact ⟨hencode, encode_blames_given_value hvalid hencode (by decide)⟩

end Datatype
end Columnar
