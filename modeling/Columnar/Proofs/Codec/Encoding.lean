import Mathlib.Data.List.ReduceOption
import Columnar.Proofs.Codec.Layout
import Columnar.Proofs.Outcome

/-!
# When encoding succeeds

Encoding checks nulls, elements, variants and field counts in separate passes,
over rows some of which are fillers.  Together these checks ask for exactly two
things: every instance conforms to the datatype, and every size fits.  When they
hold, the column is the one the layout describes.
-/

namespace Columnar
namespace Instance

/-! ## The passes over rows -/

theorem validityOf_eq_ok_iff {datatype : String} {nullable : Bool}
    {rows : List Instance} {validity : Validity} :
    validityOf datatype nullable rows = .ok validity ↔
      (forall row, row ∈ rows -> row.isNull = true -> nullable = true) ∧
        presence rows = validity := by
  unfold validityOf presence
  by_cases hnull : rows.any isNull = true
  · rcases List.any_eq_true.mp hnull with ⟨row, hrow, hrownull⟩
    rw [if_pos hnull, if_pos hnull]
    cases nullable with
    | false =>
        constructor
        · intro h
          cases h
        · intro h
          rcases h with ⟨hall, _⟩
          cases hall row hrow hrownull
    | true => simp
  · have hnone : forall row, row ∈ rows -> row.isNull = true ->
        nullable = true := by
      intro row hrow hrownull
      exact absurd (List.any_eq_true.mpr ⟨row, hrow, hrownull⟩) hnull
    rw [if_neg hnull, if_neg hnull, Except.ok.injEq, and_iff_right hnone]

theorem rowElements_eq_ok_iff {datatype : String} {kind : ElementKind}
    {arity : Arity} {row : Instance} {values : List kind.Carrier} :
    row.rowElements datatype kind arity = .ok values ↔
      row.Fills kind arity ∧ row.slots kind arity = values := by
  cases row with
  | null => simp [rowElements, Fills, slots]
  | struct fields => simp [rowElements, Fills]
  | elements data =>
      rcases data with ⟨stored, stock⟩
      by_cases hkind : stored = kind
      · cases hkind
        by_cases hcount : arity.accepts stock.length = true
        · simp [rowElements, Fills, slots, Elements.as?, Elements.length,
            hcount]
        · simp [rowElements, Fills, Elements.as?, Elements.length, hcount]
      · simp [rowElements, Fills, Elements.as?, hkind]

theorem flatten_eq_convertEach (datatype : String) (kind : ElementKind)
    (arity : Arity) (index : Nat) (rows : List Instance) :
    flatten datatype kind arity index rows =
      (convertEach (rowElements datatype kind arity) index rows).map
        List.flatten := by
  induction rows generalizing index with
  | nil => rfl
  | cons row rest ih =>
      rw [flatten, convertEach, ih]
      cases Columnar.atIndex index (row.rowElements datatype kind arity) with
      | error e => rfl
      | ok values =>
          cases convertEach (rowElements datatype kind arity)
              (index + 1) rest with
          | error e => rfl
          | ok others => rfl

theorem flatten_eq_ok_iff {datatype : String} {kind : ElementKind}
    {arity : Arity} {index : Nat} {rows : List Instance}
    {values : List kind.Carrier} :
    flatten datatype kind arity index rows = .ok values ↔
      (forall row, row ∈ rows -> row.Fills kind arity) ∧
        rows.flatMap (slots kind arity) = values := by
  simp only [flatten_eq_convertEach, map_eq_ok_iff,
    convertEach_eq_ok_map_iff fun _ _ => rowElements_eq_ok_iff, and_assoc]
  constructor
  · intro h
    rcases h with ⟨_, hfill, rfl, hvalues⟩
    exact ⟨hfill, hvalues⟩
  · intro h
    rcases h with ⟨hfill, hvalues⟩
    exact ⟨_, hfill, rfl, hvalues⟩

theorem checkVariants_eq_ok_iff {datatype : String} {variants : List Variant}
    {index : Nat} {rows : List Instance} :
    checkVariants datatype variants index rows = .ok () ↔
      forall row, row ∈ rows -> forall byte : UInt8,
        byte ∈ (row.values? .u8).getD [] ->
        exists v, v ∈ variants ∧ v.value = byte := by
  induction rows generalizing index with
  | nil => simp [checkVariants]
  | cons row rest ih =>
      rw [checkVariants, List.forall_mem_cons]
      cases hfind : ((row.values? .u8).getD []).find? fun (byte : UInt8) =>
          !variants.any fun v => v.value == byte with
      | some byte =>
          have hmem := List.mem_of_find?_eq_some hfind
          have hbad := List.find?_some hfind
          constructor
          · intro h
            cases h
          · intro h
            rcases h with ⟨hrow, _⟩
            rcases hrow byte hmem with ⟨v, hv, hbyte⟩
            simp at hbad
            exact absurd hbyte (hbad v hv)
      | none =>
          have hrow : forall byte : UInt8, byte ∈ (row.values? .u8).getD [] ->
              exists v, v ∈ variants ∧ v.value = byte := by
            intro byte hbyte
            simpa using List.find?_eq_none.mp hfind byte hbyte
          rw [and_iff_right hrow]
          exact ih

theorem rowFields_eq_ok_iff {datatype : String} {count : Nat} {row : Instance}
    {values : Option (List Instance)} :
    row.rowFields datatype count = .ok values ↔
      (row.isNull = true ∨ exists fields, row = .struct fields ∧
        fields.length = count) ∧
        row.fields? = values := by
  cases row with
  | null => simp [rowFields, isNull, fields?]
  | elements data => simp [rowFields, isNull]
  | struct fields =>
      by_cases hcount : fields.length = count
      · simp [rowFields, isNull, fields?, hcount]
      · simp [rowFields, isNull, hcount]

theorem fieldRows_eq_convertEach (datatype : String) (count index : Nat)
    (rows : List Instance) :
    fieldRows datatype count index rows =
      convertEach (rowFields datatype count) index rows := by
  induction rows generalizing index with
  | nil => rfl
  | cons row rest ih =>
      rw [fieldRows, convertEach, ih]

theorem fieldRows_eq_ok_iff {datatype : String} {count index : Nat}
    {rows : List Instance} {values : List (Option (List Instance))} :
    fieldRows datatype count index rows = .ok values ↔
      (forall row, row ∈ rows ->
        row.isNull = true ∨ exists fields, row = .struct fields ∧
        fields.length = count) ∧
        rows.map fields? = values := by
  rw [fieldRows_eq_convertEach]
  exact convertEach_eq_ok_map_iff fun _ _ => rowFields_eq_ok_iff

end Instance

namespace Datatype

/-! ## Instances that can be encoded -/

/-- All instances conform and every size in their column fits. -/
structure Encodable (d : Datatype) (rows : List Instance) : Prop where
  conforms : forall row, row ∈ rows -> d.Conforms row
  aritiesFit : d.AritiesFit
  totalsFit : d.TotalsFit rows

structure EncodableEach (fields : List (Field Datatype))
    (rows : List (Option (List Instance))) :
    Prop where
  conforms : forall values, some values ∈ rows -> ConformEach fields values
  aritiesFit : forall arity, arity ∈ fieldArities fields -> arity < wordLimit
  totalsFit : forall total, total ∈ fieldTotals fields rows.reduceOption ->
    total < wordLimit

theorem encodable_iff {d : Datatype} {rows : List Instance} :
    d.Encodable rows ↔
      (forall row, row ∈ rows -> d.Conforms row) ∧ d.AritiesFit ∧
        d.TotalsFit rows := by
  constructor
  · intro h
    exact ⟨h.conforms, h.aritiesFit, h.totalsFit⟩
  · intro h
    exact ⟨h.1, h.2.1, h.2.2⟩

/-! ## Instances of one shape -/

theorem encodable_iff_of_conforms {d : Datatype} {Present : Instance -> Prop}
    (h : forall row, d.Conforms row ↔
      (row.isNull = true -> d.nullable = true) ∧ Present row)
    {rows : List Instance} :
    d.Encodable rows ↔
      (forall row, row ∈ rows -> row.isNull = true -> d.nullable = true) ∧
        (forall row, row ∈ rows -> Present row) ∧ d.AritiesFit ∧
          d.TotalsFit rows := by
  rw [encodable_iff]
  constructor
  · intro hrows
    rcases hrows with ⟨hconforms, hfit⟩
    refine ⟨?_, ?_, hfit⟩
    · intro row hrow
      exact ((h row).mp (hconforms row hrow)).1
    · intro row hrow
      exact ((h row).mp (hconforms row hrow)).2
  · intro hrows
    rcases hrows with ⟨hnull, hpresent, hfit⟩
    refine ⟨?_, hfit⟩
    intro row hrow
    exact (h row).mpr ⟨hnull row hrow, hpresent row hrow⟩

section

variable {name : String} {nullable broadcast nonEmpty : Bool}
  {rows : List Instance}

theorem encodable_primitive_iff {kind : ElementKind} :
    Encodable ⟨name, .primitive kind, nullable, broadcast, nonEmpty⟩ rows ↔
      (forall row, row ∈ rows -> row.isNull = true -> nullable = true) ∧
        forall row, row ∈ rows -> row.Fills kind (.fixed 1) := by
  rw [encodable_iff_of_conforms fun _ => conforms_primitive_iff,
    and_iff_left (totalsFit_of_nil rfl), and_iff_left (aritiesFit_of_nil rfl)]

theorem encodable_enumeration_iff {variants : List Variant} :
    Encodable
      ⟨name, .enumeration variants, nullable, broadcast, nonEmpty⟩ rows ↔
      (forall row, row ∈ rows -> row.isNull = true -> nullable = true) ∧
        forall row, row ∈ rows -> row.Fills .u8 (.fixed 1) ∧
          forall byte : UInt8, byte ∈ (row.values? .u8).getD [] ->
            exists v, v ∈ variants ∧ v.value = byte := by
  rw [encodable_iff_of_conforms fun _ => conforms_enumeration_iff,
    and_iff_left (totalsFit_of_nil rfl), and_iff_left (aritiesFit_of_nil rfl)]

theorem encodable_fixedList_iff {kind : ElementKind} {arity : UInt32} :
    Encodable
      ⟨name, .fixedList kind arity, nullable, broadcast, nonEmpty⟩ rows ↔
      (forall row, row ∈ rows -> row.isNull = true -> nullable = true) ∧
        (forall row, row ∈ rows -> row.Fills kind (.fixed arity.toNat)) ∧
          arity.toNat < wordLimit := by
  rw [encodable_iff_of_conforms fun _ => conforms_fixedList_iff,
    and_iff_left (totalsFit_of_nil rfl), aritiesFit_fixedList_iff]

theorem encodable_list_iff {kind : ElementKind} :
    Encodable ⟨name, .list kind, nullable, broadcast, nonEmpty⟩ rows ↔
      (forall row, row ∈ rows -> row.isNull = true -> nullable = true) ∧
        (forall row, row ∈ rows -> row.Fills kind .variable) ∧
          (rows.map fun row => row.count?.getD 0).sum < wordLimit := by
  rw [encodable_iff_of_conforms fun _ => conforms_list_iff,
    and_iff_right (aritiesFit_of_nil rfl), totalsFit_list_iff]

theorem forall_conformEach_fields? {fields : List (Field Datatype)}
    (h : forall row, row ∈ rows ->
      Conforms ⟨name, .struct fields, nullable, broadcast, nonEmpty⟩ row) :
    forall values, some values ∈ rows.map Instance.fields? ->
      ConformEach fields values := by
  intro values hvalues
  rcases List.mem_map.mp hvalues with ⟨row, hrow, hfields⟩
  have hconforms := h row hrow
  cases row with
  | null => cases hfields
  | elements data => cases hfields
  | struct others =>
      cases hfields
      exact conforms_struct_iff.mp hconforms

theorem encodable_struct_iff {fields : List (Field Datatype)} :
    Encodable ⟨name, .struct fields, nullable, broadcast, nonEmpty⟩ rows ↔
      (forall row, row ∈ rows -> row.isNull = true -> nullable = true) ∧
        (forall row, row ∈ rows -> row.isNull = true ∨
          exists values, row = .struct values ∧ values.length = fields.length) ∧
          EncodableEach fields (rows.map Instance.fields?) := by
  have hpresent : (rows.map Instance.fields?).reduceOption =
      rows.filterMap Instance.fields? := by
    rw [List.reduceOption, List.filterMap_map]
    rfl
  constructor
  · intro h
    have htotals := totalsFit_struct_iff.mp h.totalsFit
    rw [← hpresent] at htotals
    refine ⟨?_, ?_, forall_conformEach_fields? h.conforms,
      aritiesFit_struct_iff.mp h.aritiesFit, htotals⟩
    · intro row hrow
      exact nullable_of_conforms (h.conforms row hrow)
    · intro row hrow
      have hconforms := h.conforms row hrow
      cases row with
      | null => exact Or.inl rfl
      | elements data => exact hconforms.elim
      | struct values =>
          exact Or.inr ⟨values, rfl, length_eq_of_conformEach
            (conforms_struct_iff.mp hconforms)⟩
  · intro h
    rcases h with ⟨hnull, hshape, hfields⟩
    have htotals := hfields.totalsFit
    rw [hpresent] at htotals
    refine ⟨?_, aritiesFit_struct_iff.mpr hfields.aritiesFit,
      totalsFit_struct_iff.mpr htotals⟩
    intro row hrow
    cases row with
    | null => exact conforms_null_iff.mpr (hnull _ hrow rfl)
    | elements data =>
        rcases hshape _ hrow with hrownull | ⟨_, hstruct, _⟩
        · cases hrownull
        · cases hstruct
    | struct values =>
        exact conforms_struct_iff.mpr
          (hfields.conforms values (List.mem_map.mpr ⟨_, hrow, rfl⟩))

end

/-! ## Field by field -/

section

variable {name : String} {datatype : Datatype} {rest : List (Field Datatype)}
  {rows : List (Option (List Instance))}

theorem forall_conforms_firstOr (hvalid : datatype.validate = .ok ())
    (h : forall values, some values ∈ rows ->
      ConformEach (⟨name, datatype⟩ :: rest) values) :
    forall row, row ∈ rows.map (Instance.firstOr datatype.filler) ->
      datatype.Conforms row := by
  intro row hrow
  rcases List.mem_map.mp hrow with ⟨entry, hentry, rfl⟩
  cases entry with
  | none => exact conforms_filler datatype hvalid
  | some values =>
      have heach := h values hentry
      cases values with
      | nil => exact heach.elim
      | cons value values =>
          rw [ConformEach] at heach
          exact heach.1

theorem forall_conformEach_tail
    (h : forall values, some values ∈ rows ->
      ConformEach (⟨name, datatype⟩ :: rest) values) :
    forall values, some values ∈ rows.map (fun row => row.map List.tail) ->
      ConformEach rest values := by
  intro values hvalues
  rcases List.mem_map.mp hvalues with ⟨entry, hentry, htail⟩
  cases entry with
  | none => cases htail
  | some all =>
      have heach := h all hentry
      cases all with
      | nil => exact heach.elim
      | cons value others =>
          cases htail
          rw [ConformEach] at heach
          exact heach.2

theorem padded_firstOr (filler : Instance)
    (rows : List (Option (List Instance))) :
    Padded filler (rows.map (Instance.firstOr filler))
      (rows.reduceOption.filterMap List.head?) := by
  induction rows with
  | nil => exact Padded.nil
  | cons entry others ih =>
      cases entry with
      | none => exact Padded.fill ih
      | some values =>
          cases values with
          | nil => exact Padded.fill ih
          | cons value values => exact Padded.keep ih

theorem fieldTotals_cons :
    fieldTotals (⟨name, datatype⟩ :: rest) rows.reduceOption =
      datatype.listTotals (rows.map (Instance.firstOr datatype.filler)) ++
        fieldTotals rest (rows.map fun row =>
          row.map List.tail).reduceOption := by
  rw [fieldTotals, List.reduceOption_map,
    listTotals_padded datatype (padded_firstOr _ rows)]

theorem forall_length_tail {count : Nat}
    (h : forall values, some values ∈ rows -> values.length = count + 1) :
    forall values, some values ∈ rows.map (fun row => row.map List.tail) ->
      values.length = count := by
  intro values hvalues
  rcases List.mem_map.mp hvalues with ⟨entry, hentry, htail⟩
  cases entry with
  | none => cases htail
  | some all =>
      cases htail
      rw [List.length_tail, h all hentry, Nat.add_sub_cancel]

theorem encodableEach_nil
    (h : forall values, some values ∈ rows -> values.length = 0) :
    EncodableEach [] rows where
  conforms := by
    intro values hvalues
    rw [List.eq_nil_of_length_eq_zero (h values hvalues), ConformEach]
    exact trivial
  aritiesFit := nofun
  totalsFit := by
    rw [fieldTotals]
    exact nofun

theorem encodableEach_cons_iff (hvalid : datatype.validate = .ok ())
    (hcount : forall values, some values ∈ rows ->
      values.length = rest.length + 1) :
    EncodableEach (⟨name, datatype⟩ :: rest) rows ↔
      datatype.Encodable (rows.map (Instance.firstOr datatype.filler)) ∧
        EncodableEach rest (rows.map fun row => row.map List.tail) := by
  constructor
  · intro h
    have harities := h.aritiesFit
    have htotals := h.totalsFit
    rw [fieldArities, List.forall_mem_append] at harities
    rw [fieldTotals_cons, List.forall_mem_append] at htotals
    exact ⟨⟨forall_conforms_firstOr hvalid h.conforms, harities.1, htotals.1⟩,
      ⟨forall_conformEach_tail h.conforms, harities.2, htotals.2⟩⟩
  · intro h
    rcases h with ⟨hfirst, hrest⟩
    refine ⟨?_, ?_, ?_⟩
    · intro values hvalues
      cases values with
      | nil => cases hcount [] hvalues
      | cons value values =>
          rw [ConformEach]
          constructor
          · exact hfirst.conforms value (List.mem_map.mpr ⟨_, hvalues, rfl⟩)
          · exact hrest.conforms values (List.mem_map.mpr ⟨_, hvalues, rfl⟩)
    · rw [fieldArities, List.forall_mem_append]
      exact ⟨hfirst.aritiesFit, hrest.aritiesFit⟩
    · rw [fieldTotals_cons, List.forall_mem_append]
      exact ⟨hfirst.totalsFit, hrest.totalsFit⟩

end

/-! ## The column that is made -/

theorem all_offsetsFrom_iff (limit start : Nat) (lengths : List Nat) :
    (Column.offsetsFrom start lengths).all
      (fun offset => decide (offset < limit)) = true ↔
      start + lengths.sum < limit := by
  -- Offsets never decrease, so all of them fit when the last one does.
  induction lengths generalizing start with
  | nil => simp [Column.offsetsFrom]
  | cons length others ih =>
      rw [Column.offsetsFrom, List.all_cons, Bool.and_eq_true, ih,
        List.sum_cons, Nat.add_assoc, decide_eq_true_iff]
      omega

theorem rowCount_slots {kind : ElementKind} {count : Nat} {rows : List Instance}
    {validity : Validity} (hcount : 0 < count)
    (h : forall row, row ∈ rows -> row.Fills kind (.fixed count)) :
    Column.rowCount count
        (rows.flatMap (Instance.slots kind (.fixed count))).length validity =
      rows.length := by
  -- A fixed row has a slot for each of its elements, so the items tell how many
  -- rows there are.
  rw [Column.rowCount, if_neg (Nat.ne_of_gt hcount),
    Instance.length_flatMap_slots_fixed h, Nat.mul_div_cancel _ hcount]

theorem length_eq_of_fields? {count : Nat} {rows : List Instance}
    (h : forall row, row ∈ rows ->
      row.isNull = true ∨ exists values, row = .struct values ∧
      values.length = count) :
    forall values, some values ∈ rows.map Instance.fields? ->
      values.length = count := by
  intro values hvalues
  rcases List.mem_map.mp hvalues with ⟨row, hrow, hfields⟩
  rcases h row hrow with hnull | ⟨others, rfl, hcount⟩
  · cases row with
    | null => cases hfields
    | elements data => cases hnull
    | struct others => cases hnull
  · cases hfields
    exact hcount

theorem rowsOfFirst_layoutFields {name : String} {datatype : Datatype}
    {rest : List (Field Datatype)} {rows : List (Option (List Instance))}
    (hvalid : datatype.validate = .ok ())
    (h : EncodableEach (⟨name, datatype⟩ :: rest) rows) :
    Column.rowsOfFirst (layoutFields (⟨name, datatype⟩ :: rest) rows) =
      rows.length := by
  rw [layoutFields, Column.rowsOfFirst,
    length_layout (forall_conforms_firstOr hvalid h.conforms), List.length_map]

section

variable {name : String} {nullable broadcast nonEmpty : Bool}
  {rows : List Instance} {column : Column}

theorem encode_primitive_eq_ok_iff {kind : ElementKind} :
    encode ⟨name, .primitive kind, nullable, broadcast, nonEmpty⟩ rows =
      .ok column ↔
      Encodable ⟨name, .primitive kind, nullable, broadcast, nonEmpty⟩ rows ∧
        layout ⟨name, .primitive kind, nullable, broadcast, nonEmpty⟩ rows =
          column := by
  rw [encodable_primitive_iff]
  simp only [encode, layout, bind_eq_ok_iff, pure_eq_ok_iff,
    Instance.validityOf_eq_ok_iff, Instance.flatten_eq_ok_iff]
  constructor
  · intro h
    rcases h with ⟨_, ⟨hnull, rfl⟩, _, ⟨hfill, rfl⟩, rfl⟩
    exact ⟨⟨hnull, hfill⟩, rfl⟩
  · intro h
    rcases h with ⟨⟨hnull, hfill⟩, rfl⟩
    exact ⟨_, ⟨hnull, rfl⟩, _, ⟨hfill, rfl⟩, rfl⟩

theorem encode_enumeration_eq_ok_iff {variants : List Variant} :
    encode ⟨name, .enumeration variants, nullable, broadcast, nonEmpty⟩ rows =
      .ok column ↔
      Encodable
        ⟨name, .enumeration variants, nullable, broadcast, nonEmpty⟩ rows ∧
        layout
            ⟨name, .enumeration variants, nullable, broadcast, nonEmpty⟩ rows =
          column := by
  rw [encodable_enumeration_iff]
  simp only [encode, layout, bind_eq_ok_iff, pure_eq_ok_iff,
    Instance.validityOf_eq_ok_iff]
  constructor
  · intro h
    rcases h with ⟨_, ⟨hnull, rfl⟩, _, hflatten, _, hcheck, rfl⟩
    rcases Instance.flatten_eq_ok_iff.mp hflatten with ⟨hfill, rfl⟩
    have hdeclared := Instance.checkVariants_eq_ok_iff.mp hcheck
    exact ⟨⟨hnull, fun row hrow => ⟨hfill row hrow, hdeclared row hrow⟩⟩, rfl⟩
  · intro h
    rcases h with ⟨⟨hnull, hpresent⟩, rfl⟩
    have hfill : forall row, row ∈ rows -> row.Fills .u8 (.fixed 1) :=
      fun row hrow => (hpresent row hrow).1
    exact ⟨_, ⟨hnull, rfl⟩, _, Instance.flatten_eq_ok_iff.mpr ⟨hfill, rfl⟩, (),
      Instance.checkVariants_eq_ok_iff.mpr fun row hrow =>
        (hpresent row hrow).2, rfl⟩

theorem encode_fixedList_eq_ok_iff {kind : ElementKind} {arity : UInt32}
    (harity : arity ≠ 0) :
    encode ⟨name, .fixedList kind arity, nullable, broadcast, nonEmpty⟩ rows =
      .ok column ↔
      Encodable
        ⟨name, .fixedList kind arity, nullable, broadcast, nonEmpty⟩ rows ∧
        layout
            ⟨name, .fixedList kind arity, nullable, broadcast, nonEmpty⟩ rows =
          column := by
  have hpos : 0 < arity.toNat := UInt32.pos_iff_ne_zero.mpr harity
  rw [encodable_fixedList_iff]
  simp only [encode, layout, bind_eq_ok_iff, Instance.validityOf_eq_ok_iff,
    Instance.flatten_eq_ok_iff]
  constructor
  · intro h
    rcases h with ⟨_, ⟨hnull, rfl⟩, _, ⟨hfill, rfl⟩, hrest⟩
    split at hrest
    · next hfit =>
        rw [pure_eq_ok_iff, rowCount_slots hpos hfill] at hrest
        exact ⟨⟨hnull, hfill, le_maxRowSize_iff.mp hfit⟩, hrest.symm⟩
    · cases hrest
  · intro h
    rcases h with ⟨⟨hnull, hfill, hfit⟩, rfl⟩
    refine ⟨_, ⟨hnull, rfl⟩, _, ⟨hfill, rfl⟩, ?_⟩
    rw [if_pos (le_maxRowSize_iff.mpr hfit), pure_eq_ok_iff,
      rowCount_slots hpos hfill]

theorem encode_list_eq_ok_iff {kind : ElementKind} :
    encode ⟨name, .list kind, nullable, broadcast, nonEmpty⟩ rows = .ok column ↔
      Encodable ⟨name, .list kind, nullable, broadcast, nonEmpty⟩ rows ∧
        layout ⟨name, .list kind, nullable, broadcast, nonEmpty⟩ rows =
          column := by
  have hoffsets :
    (Column.offsetsFrom 0 (rows.map fun row => row.count?.getD 0)).all
        (fun offset => decide (offset < Column.offsetLimit)) = true ↔
      (rows.map fun row => row.count?.getD 0).sum < wordLimit := by
    rw [all_offsetsFrom_iff, Nat.zero_add, offsetLimit_eq_wordLimit]
  rw [encodable_list_iff]
  simp only [encode, layout, bind_eq_ok_iff, Instance.validityOf_eq_ok_iff]
  constructor
  · intro h
    rcases h with ⟨_, ⟨hnull, rfl⟩, hrest⟩
    split at hrest
    · next hfit =>
        simp only [bind_eq_ok_iff, pure_eq_ok_iff, Instance.flatten_eq_ok_iff]
          at hrest
        rcases hrest with ⟨_, ⟨hfill, rfl⟩, rfl⟩
        exact ⟨⟨hnull, hfill, hoffsets.mp hfit⟩, rfl⟩
    · cases hrest
  · intro h
    rcases h with ⟨⟨hnull, hfill, htotal⟩, rfl⟩
    refine ⟨_, ⟨hnull, rfl⟩, ?_⟩
    rw [if_pos (hoffsets.mpr htotal)]
    simp only [bind_eq_ok_iff, pure_eq_ok_iff, Instance.flatten_eq_ok_iff]
    exact ⟨_, ⟨hfill, rfl⟩, rfl⟩

end

mutual

theorem encode_eq_ok_iff : forall d : Datatype, d.validate = .ok () ->
    forall {rows : List Instance} {column : Column},
      d.encode rows = .ok column ↔ d.Encodable rows ∧ d.layout rows = column
  | ⟨_, .primitive _, _, _, _⟩, _, _, _ => encode_primitive_eq_ok_iff
  | ⟨_, .enumeration _, _, _, _⟩, _, _, _ => encode_enumeration_eq_ok_iff
  | ⟨_, .fixedList _ _, _, _, _⟩, hvalid, _, _ =>
      encode_fixedList_eq_ok_iff (arity_ne_zero_of_validate hvalid)
  | ⟨_, .list _, _, _, _⟩, _, _, _ => encode_list_eq_ok_iff
  | ⟨name, .struct [], nullable, _, _⟩, hvalid, rows, column => by
      exact absurd rfl (fields_ne_nil_of_validate hvalid)
  | ⟨name, .struct (⟨label, datatype⟩ :: rest), nullable, _, _⟩, hvalid,
    rows, column => by
      have hfields := validate_field_of_validate hvalid
      rw [encodable_struct_iff]
      simp only [encode, layout, bind_eq_ok_iff, pure_eq_ok_iff,
        Instance.validityOf_eq_ok_iff, Instance.fieldRows_eq_ok_iff]
      constructor
      · intro h
        rcases h with
          ⟨_, ⟨hnull, rfl⟩, _, ⟨hshape, rfl⟩, children, hencode, rfl⟩
        -- Present rows have a value for each field, so taking rows apart by
        -- field loses none.
        have hcount := length_eq_of_fields? hshape
        rcases (encodeFields_eq_ok_iff _ hfields hcount).mp hencode with
          ⟨heach, rfl⟩
        refine ⟨⟨hnull, hshape, heach⟩, ?_⟩
        rw [rowsOfFirst_layoutFields (hfields _ List.mem_cons_self) heach,
          List.length_map]
      · intro h
        rcases h with ⟨⟨hnull, hshape, heach⟩, rfl⟩
        have hcount := length_eq_of_fields? hshape
        refine ⟨_, ⟨hnull, rfl⟩, _, ⟨hshape, rfl⟩, _,
          (encodeFields_eq_ok_iff _ hfields hcount).mpr ⟨heach, rfl⟩, ?_⟩
        rw [rowsOfFirst_layoutFields (hfields _ List.mem_cons_self) heach,
          List.length_map]

theorem encodeFields_eq_ok_iff : forall fields : List (Field Datatype),
    (forall field, field ∈ fields -> field.datatype.validate = .ok ()) ->
      forall {rows : List (Option (List Instance))}
        {children : List (Label × Column)},
        (forall values, some values ∈ rows -> values.length = fields.length) ->
          (encodeFields fields rows = .ok children ↔
            EncodableEach fields rows ∧ layoutFields fields rows = children)
  | [], _, rows, children, hcount => by
      rw [encodeFields, layoutFields, Except.ok.injEq,
        and_iff_right (encodableEach_nil hcount)]
  | ⟨name, datatype⟩ :: rest, hvalid, rows, children, hcount => by
      have hfirst := hvalid ⟨name, datatype⟩ List.mem_cons_self
      have hrest : forall field, field ∈ rest ->
          field.datatype.validate = .ok () :=
        fun field hfield => hvalid field (List.mem_cons_of_mem _ hfield)
      have htail : forall values, some values ∈ rows.map
          (fun row => row.map List.tail) ->
          values.length = rest.length := forall_length_tail hcount
      rw [encodableEach_cons_iff hfirst hcount]
      simp only [encodeFields, layoutFields, bind_eq_ok_iff, pure_eq_ok_iff,
        inField_eq_ok_iff, encode_eq_ok_iff datatype hfirst,
        encodeFields_eq_ok_iff rest hrest htail]
      constructor
      · intro h
        rcases h with ⟨_, ⟨hone, rfl⟩, _, ⟨heach, rfl⟩, rfl⟩
        exact ⟨⟨hone, heach⟩, rfl⟩
      · intro h
        rcases h with ⟨⟨hone, heach⟩, rfl⟩
        exact ⟨_, ⟨hone, rfl⟩, _, ⟨heach, rfl⟩, rfl⟩

end

section

variable {d : Datatype} {rows : List Instance} {column : Column}

theorem encodable_of_encode (hvalid : d.validate = .ok ())
    (h : d.encode rows = .ok column) :
    d.Encodable rows :=
  ((encode_eq_ok_iff d hvalid).mp h).1

theorem encode_of_encodable (hvalid : d.validate = .ok ())
    (h : d.Encodable rows) :
    d.encode rows = .ok (d.layout rows) :=
  (encode_eq_ok_iff d hvalid).mpr ⟨h, rfl⟩

theorem length_of_encode (hvalid : d.validate = .ok ())
    (h : d.encode rows = .ok column) :
    column.length = rows.length := by
  rcases (encode_eq_ok_iff d hvalid).mp h with ⟨hrows, rfl⟩
  exact length_layout hrows.conforms

theorem type_of_encode (hvalid : d.validate = .ok ())
    (h : d.encode rows = .ok column) :
    column.type = d.columnType := by
  rcases (encode_eq_ok_iff d hvalid).mp h with ⟨hrows, rfl⟩
  exact type_layout d hrows.aritiesFit rows

end

/--
Encoding refuses nothing that conforms and fits, and accepts nothing else.
-/
theorem encode_succeeds_iff {d : Datatype} (hvalid : d.validate = .ok ())
    (rows : List Instance) :
    (exists column, d.encode rows = .ok column) ↔
      (forall row, row ∈ rows -> d.Conforms row) ∧ d.AritiesFit ∧
        d.TotalsFit rows := by
  rw [← encodable_iff]
  constructor
  · intro h
    rcases h with ⟨column, hcolumn⟩
    exact encodable_of_encode hvalid hcolumn
  · intro h
    exact ⟨d.layout rows, encode_of_encodable hvalid h⟩

theorem encode_poses :
    (exists column, Sample.pose.encode Sample.poses = .ok column) ∧
      ¬ exists column,
        Sample.pose.encode [.null, Sample.poseOf [⟨0⟩, ⟨0⟩] .null 3 .null] =
          .ok column := by
  constructor
  · exact (encode_succeeds_iff rfl _).mpr ⟨by decide, by decide, by decide⟩
  · intro h
    have hconforms := ((encode_succeeds_iff rfl _).mp h).1
    revert hconforms
    decide

end Datatype
end Columnar
