import Columnar.Proofs.Codec.Assembled

/-!
# Where instances are placed

What the parts of an encoded column are, said of the instances and not of the
functions that encode them: bits only where a row is absent, runs of elements
one after the other, offsets that tell the runs apart, and for each field the
column of its values, with a placeholder for every absent struct.  There is
exactly one column of which all this is true, it is the one that encoding makes,
and it can be put together.
-/

namespace Columnar

namespace Instance

/--
Bits are kept if and only if a row is absent; then there is one for each row.
-/
inductive Marks (rows : List Instance) : Validity -> Prop
  | unmarked : (forall row, row ∈ rows -> row.isNull = false) -> Marks rows none
  | marked {bits : List Bool} : (exists row, row ∈ rows ∧ row.isNull = true) ->
      List.Forall₂ (fun row bit => bit = false ↔ row.isNull = true) rows bits ->
        Marks rows (some bits)

/-- A row puts its elements into a run, an absent one so many zeros. -/
inductive HasRun (kind : ElementKind) (zeros : Nat) :
    Instance -> List kind.Carrier -> Prop
  | absent : HasRun kind zeros .null (List.replicate zeros kind.zero)
  | present {values : List kind.Carrier} :
      HasRun kind zeros (.elements ⟨kind, values⟩) values

end Instance

namespace Column

/-- Offsets from the beginning of the first run to the end of the last. -/
structure Bounds (runs : List (List α)) (offsets : List Nat) : Prop where
  length : offsets.length = runs.length + 1
  first : offsets[0]? = some 0
  step : forall (index : Nat) (run : List α), runs[index]? = some run ->
    exists start, offsets[index]? = some start ∧
      offsets[index + 1]? = some (start + run.length)
  last : offsets.getLast? = some runs.flatten.length

end Column

namespace Datatype

mutual

/--
A value that stands in a field of an absent struct.  It is not absent itself.
-/
inductive Placeholder : Shape Datatype -> Instance -> Prop
  | primitive {kind : ElementKind} :
      Placeholder (.primitive kind) (.elements ⟨kind, [kind.zero]⟩)
  | fixedList {kind : ElementKind} {arity : UInt32} :
      Placeholder (.fixedList kind arity)
        (.elements ⟨kind, List.replicate arity.toNat kind.zero⟩)
  | list {kind : ElementKind} : Placeholder (.list kind) (.elements ⟨kind, []⟩)
  | enumeration {first : Variant} {rest : List Variant} :
      Placeholder (.enumeration (first :: rest))
        (.elements ⟨.u8, [first.value]⟩)
  | struct {fields : List (Field Datatype)} {values : List Instance} :
      Placeholders fields values ->
      Placeholder (.struct fields) (.struct values)

inductive Placeholders : List (Field Datatype) -> List Instance -> Prop
  | nil : Placeholders [] []
  | cons {field : Field Datatype} {rest : List (Field Datatype)}
      {value : Instance} {values : List Instance} :
      Placeholder field.datatype.shape value -> Placeholders rest values ->
        Placeholders (field :: rest) (value :: values)

end

/-- What stands for a struct in the column of its field at `position`. -/
inductive HasField (datatype : Datatype) (position : Nat) :
    Instance -> Instance -> Prop
  | absent {value : Instance} :
      Placeholder datatype.shape value -> HasField datatype position .null value
  | present {values : List Instance} {value : Instance} :
      values[position]? = some value ->
      HasField datatype position (.struct values) value

mutual

/-- Every row has its place in the column. -/
inductive LaidOut : Shape Datatype -> List Instance -> Column -> Prop
  | primitive {kind : ElementKind} {rows : List Instance}
      {slots : List kind.Carrier} {validity : Validity} :
      Instance.Marks rows validity ->
      List.Forall₂ (fun row slot => row.HasRun kind 1 [slot]) rows slots ->
        LaidOut (.primitive kind) rows (.leaf (.element kind) slots validity)
  | enumeration {variants : List Variant} {rows : List Instance}
      {slots : List UInt8} {validity : Validity} :
      Instance.Marks rows validity ->
      List.Forall₂ (fun row slot => row.HasRun .u8 1 [slot]) rows slots ->
        LaidOut (.enumeration variants) rows
          (.leaf (.element .u8) slots validity)
  | fixedList {kind : ElementKind} {arity : UInt32} {rows : List Instance}
      {runs : List (List kind.Carrier)} {validity : Validity} :
      Instance.Marks rows validity ->
      List.Forall₂ (Instance.HasRun kind arity.toNat) rows runs ->
        LaidOut (.fixedList kind arity) rows
          (.fixedList .item arity.toNat rows.length
            (.leaf (.element kind) runs.flatten none) validity)
  | list {kind : ElementKind} {rows : List Instance}
      {runs : List (List kind.Carrier)} {offsets : List Nat}
      {validity : Validity} : Instance.Marks rows validity ->
      List.Forall₂ (Instance.HasRun kind 0) rows runs ->
      Column.Bounds runs offsets ->
        LaidOut (.list kind) rows
          (.list .item offsets (.leaf (.element kind) runs.flatten none)
            validity)
  | struct {fields : List (Field Datatype)} {rows : List Instance}
      {children : List (Label × Column)} {validity : Validity} :
      Instance.Marks rows validity ->
      LaidOutFields fields 0 rows children ->
        LaidOut (.struct fields) rows (.struct rows.length children validity)

inductive LaidOutFields :
    List (Field Datatype) -> Nat -> List Instance ->
    List (Label × Column) -> Prop
  | nil {position : Nat} {rows : List Instance} :
      LaidOutFields [] position rows []
  | cons {name : String} {datatype : Datatype} {rest : List (Field Datatype)}
      {position : Nat} {rows values : List Instance} {child : Column}
      {children : List (Label × Column)} :
      List.Forall₂ (HasField datatype position) rows values ->
      LaidOut datatype.shape values child ->
      LaidOutFields rest (position + 1) rows children ->
        LaidOutFields (⟨name, datatype⟩ :: rest) position rows
          (({ name, nullable := datatype.nullable }, child) :: children)

end

end Datatype

/-! ## Bits -/

namespace Instance

variable {rows : List Instance}

theorem presence_eq_some (h : exists row, row ∈ rows ∧ row.isNull = true) :
    presence rows = some (rows.map fun row => !row.isNull) :=
  if_pos (List.any_eq_true.mpr h)

theorem marks_iff {validity : Validity} :
    Marks rows validity ↔ validity = presence rows := by
  have hbits : forall bits : List Bool,
      List.Forall₂ (fun row bit => bit = false ↔ row.isNull = true) rows bits ↔
        bits = rows.map fun row => !row.isNull := by
    intro bits
    apply forall₂_iff_eq_map
    intro row _ bit
    cases bit <;> cases row.isNull <;> simp
  constructor
  · intro h
    cases h with
    | unmarked hpresent => exact (presence_eq_none hpresent).symm
    | marked hnull hmarks => rw [presence_eq_some hnull, (hbits _).mp hmarks]
  · rintro rfl
    by_cases hnull : exists row, row ∈ rows ∧ row.isNull = true
    · rw [presence_eq_some hnull]
      exact .marked hnull ((hbits _).mpr rfl)
    · have hpresent : forall row, row ∈ rows -> row.isNull = false :=
        fun row hrow => Bool.eq_false_iff.mpr fun hrownull =>
          hnull ⟨row, hrow, hrownull⟩
      rw [presence_eq_none hpresent]
      exact .unmarked hpresent

end Instance

/-! ## Runs -/

theorem map_singleton_flatMap {f : α -> List β} {xs : List α}
    (h : forall x, x ∈ xs -> (f x).length = 1) :
    (xs.flatMap f).map (fun y => [y]) = xs.map f := by
  induction xs with
  | nil => rfl
  | cons x rest ih =>
      rw [List.forall_mem_cons] at h
      rcases List.length_eq_one_iff.mp h.1 with ⟨y, hy⟩
      rw [List.flatMap_cons, List.map_append, ih h.2, List.map_cons, hy]
      rfl

namespace Instance

variable {kind : ElementKind} {arity : Arity} {rows : List Instance}
  {row : Instance}

theorem hasRun_iff (h : row.Fills kind arity) {run : List kind.Carrier} :
    row.HasRun kind arity.slot run ↔ run = row.slots kind arity := by
  cases row with
  | null =>
      constructor
      · rintro ⟨⟩
        rfl
      · rintro rfl
        exact .absent
  | elements data =>
      rcases data with ⟨stored, values⟩
      rcases h with ⟨rfl, _⟩
      have hslots : (elements ⟨stored, values⟩).slots stored arity =
          values := by
        simp [slots, Elements.as?]
      rw [hslots]
      constructor
      · rintro ⟨⟩
        rfl
      · intro hrun
        rw [hrun]
        exact .present
  | struct values => exact h.elim

theorem forall₂_hasRun_iff (h : forall row, row ∈ rows -> row.Fills kind arity)
    {runs : List (List kind.Carrier)} :
    List.Forall₂ (HasRun kind arity.slot) rows runs ↔
      runs = rows.map (slots kind arity) :=
  forall₂_iff_eq_map fun row hrow _ => hasRun_iff (h row hrow)

theorem forall₂_hasRun_one_iff
    (h : forall row, row ∈ rows -> row.Fills kind (.fixed 1))
    {values : List kind.Carrier} :
    List.Forall₂ (fun row value => row.HasRun kind 1 [value]) rows values ↔
      values = rows.flatMap (slots kind (.fixed 1)) := by
  have hsingles :
      List.Forall₂ (fun row value => row.HasRun kind 1 [value]) rows values ↔
      values.map (fun value => [value]) = rows.map (slots kind (.fixed 1)) := by
    rw [← forall₂_hasRun_iff h, List.forall₂_map_right_iff]
    rfl
  rw [hsingles]
  constructor
  · intro hvalues
    rw [List.flatMap_def, ← hvalues, ← List.flatMap_def,
      List.flatMap_singleton']
  · rintro rfl
    exact map_singleton_flatMap fun row hrow => length_slots_fixed (h row hrow)

end Instance

/-! ## Offsets -/

namespace Column

variable {runs : List (List α)} {offsets : List Nat}

theorem bounds_offsetsFrom (runs : List (List α)) :
    Bounds runs (offsetsFrom 0 (runs.map List.length)) where
  length := by
    rw [Datatype.length_offsetsFrom, List.length_map]
  first := by
    cases runs <;> rfl
  step := by
    intro index run hrun
    have hlt : index < (runs.map List.length).length := by
      rw [List.length_map]
      exact (List.getElem?_eq_some_iff.mp hrun).1
    refine ⟨_, getElem?_offsetsFrom 0 _ (Nat.le_of_lt hlt), ?_⟩
    rw [getElem?_offsetsFrom 0 _ hlt, List.take_add_one, List.getElem?_map,
      hrun]
    simp
  last := by
    rw [List.getLast?_eq_getElem?, Datatype.length_offsetsFrom,
      Nat.add_sub_cancel, getElem?_offsetsFrom 0 _ (Nat.le_refl _),
      List.take_length, Nat.zero_add, List.length_flatten]

theorem Bounds.unique {others : List Nat} (h : Bounds runs offsets)
    (hothers : Bounds runs others) :
    offsets = others := by
  apply List.ext_getElem?
  intro index
  -- An offset is settled by the one before it and the length of the run between
  -- them.
  induction index with
  | zero => rw [h.first, hothers.first]
  | succ index ih =>
      cases hrun : runs[index]? with
      | some run =>
          rcases h.step index run hrun with ⟨start, hstart, hnext⟩
          rcases hothers.step index run hrun with ⟨other, hother, hothernext⟩
          rw [hstart, hother, Option.some.injEq] at ih
          rw [hnext, hothernext, ih]
      | none =>
          have hle := List.getElem?_eq_none_iff.mp hrun
          rw [List.getElem?_eq_none, List.getElem?_eq_none]
          · rw [hothers.length]
            exact Nat.succ_le_succ hle
          · rw [h.length]
            exact Nat.succ_le_succ hle

theorem bounds_iff :
    Bounds runs offsets ↔ offsets = offsetsFrom 0 (runs.map List.length) := by
  constructor
  · intro h
    exact h.unique (bounds_offsetsFrom runs)
  · rintro rfl
    exact bounds_offsetsFrom runs

end Column

namespace Datatype

/-! ## Placeholders -/

mutual

theorem placeholder_iff :
    forall d : Datatype, d.validate = .ok () -> forall value : Instance,
    Placeholder d.shape value ↔ value = d.filler
  | ⟨_, .primitive _, _, _, _⟩, _, value => by
      rw [filler]
      constructor
      · rintro ⟨⟩
        rfl
      · rintro rfl
        exact .primitive
  | ⟨_, .fixedList _ _, _, _, _⟩, _, value => by
      rw [filler]
      constructor
      · rintro ⟨⟩
        rfl
      · rintro rfl
        exact .fixedList
  | ⟨_, .list _, _, _, _⟩, _, value => by
      rw [filler]
      constructor
      · rintro ⟨⟩
        rfl
      · rintro rfl
        exact .list
  | ⟨_, .enumeration variants, _, _, _⟩, hvalid, value => by
      rw [filler]
      cases variants with
      | nil => exact absurd rfl (variants_ne_nil_of_validate hvalid)
      | cons first rest =>
          constructor
          · rintro ⟨⟩
            rfl
          · rintro rfl
            exact .enumeration
  | ⟨_, .struct fields, _, _, _⟩, hvalid, value => by
      have hfields :=
        placeholders_iff fields (validate_field_of_validate hvalid)
      rw [filler]
      constructor
      · intro h
        cases h with
        | struct hvalues => rw [(hfields _).mp hvalues]
      · rintro rfl
        exact .struct ((hfields _).mpr rfl)

theorem placeholders_iff : forall fields : List (Field Datatype),
    (forall field, field ∈ fields -> field.datatype.validate = .ok ()) ->
      forall values : List Instance, Placeholders fields values ↔
        values = fieldFillers fields
  | [], _, values => by
      rw [fieldFillers]
      constructor
      · rintro ⟨⟩
        rfl
      · rintro rfl
        exact .nil
  | ⟨name, datatype⟩ :: rest, hvalid, values => by
      rw [List.forall_mem_cons] at hvalid
      rw [fieldFillers]
      constructor
      · intro h
        cases h with
        | cons hvalue hvalues =>
            rw [(placeholder_iff datatype hvalid.1 _).mp hvalue,
              (placeholders_iff rest hvalid.2 _).mp hvalues]
      · rintro rfl
        exact .cons ((placeholder_iff datatype hvalid.1 _).mpr rfl)
          ((placeholders_iff rest hvalid.2 _).mpr rfl)

end

/-! ## Fields -/

def HasFields (position count : Nat) (row : Instance) : Prop :=
  row.isNull = true ∨ exists values, row = .struct values ∧
    values.length = position + count

theorem HasFields.next {position count : Nat} {row : Instance}
    (h : HasFields position (count + 1) row) :
    HasFields (position + 1) count row := by
  rcases h with hnull | ⟨values, hstruct, hlength⟩
  · exact Or.inl hnull
  · refine Or.inr ⟨values, hstruct, ?_⟩
    rw [hlength, Nat.add_right_comm, Nat.add_assoc]

def fieldsFrom (position : Nat) (row : Instance) : Option (List Instance) :=
  row.fields?.map (List.drop position)

theorem fieldsFrom_zero (row : Instance) : fieldsFrom 0 row = row.fields? := by
  cases row <;> rfl

theorem map_tail_fieldsFrom (position : Nat) (rows : List Instance) :
    (rows.map (fieldsFrom position)).map (fun row => row.map List.tail) =
      rows.map (fieldsFrom (position + 1)) := by
  rw [List.map_map]
  apply List.map_congr_left
  intro row _
  rw [Function.comp_apply, fieldsFrom, fieldsFrom, Option.map_map]
  congr 1
  funext values
  exact List.tail_drop

theorem length_of_fieldsFrom {position count : Nat} {rows : List Instance}
    (h : forall row, row ∈ rows -> HasFields position count row) :
    forall values, some values ∈ rows.map (fieldsFrom position) ->
      values.length = count := by
  intro values hvalues
  rcases List.mem_map.mp hvalues with ⟨row, hrow, hfields⟩
  rcases Option.map_eq_some_iff.mp hfields with ⟨all, hall, rfl⟩
  have hlength :=
    length_eq_of_fields? h all (List.mem_map.mpr ⟨row, hrow, hall⟩)
  rw [List.length_drop, hlength, Nat.add_sub_cancel_left]

theorem hasField_iff {datatype : Datatype} (hvalid : datatype.validate = .ok ())
    {position count : Nat} {row value : Instance}
    (hrow : HasFields position (count + 1) row) :
    HasField datatype position row value ↔
      value = Instance.firstOr datatype.filler (fieldsFrom position row) := by
  cases row with
  | null =>
      constructor
      · intro h
        cases h with
        | absent hvalue =>
            exact (placeholder_iff datatype hvalid value).mp hvalue
      · intro hvalue
        exact .absent ((placeholder_iff datatype hvalid value).mpr hvalue)
  | elements data =>
      rcases hrow with hnull | ⟨_, hstruct, _⟩
      · cases hnull
      · cases hstruct
  | struct values =>
      have hlength : position < values.length := by
        rcases hrow with hnull | ⟨_, hstruct, hlength⟩
        · cases hnull
        · cases hstruct
          omega
      have hfirst : Instance.firstOr datatype.filler
            (fieldsFrom position (.struct values)) =
          values[position] := by
        rw [fieldsFrom, Instance.fields?, Option.map_some,
          List.drop_eq_getElem_cons hlength]
        rfl
      rw [hfirst]
      constructor
      · intro h
        cases h with
        | present hvalue => exact (List.getElem?_eq_some_iff.mp hvalue).2.symm
      · rintro rfl
        exact .present (List.getElem?_eq_getElem hlength)

/-! ## The one column -/

section

variable {name : String} {nullable broadcast nonEmpty : Bool}
  {rows : List Instance} {column : Column}

theorem laidOut_primitive_iff {kind : ElementKind}
    (h : Encodable
      ⟨name, .primitive kind, nullable, broadcast, nonEmpty⟩ rows) :
    LaidOut (.primitive kind) rows column ↔
      column = layout
        ⟨name, .primitive kind, nullable, broadcast, nonEmpty⟩ rows := by
  have hfills := (encodable_primitive_iff.mp h).2
  rw [layout]
  constructor
  · intro hcolumn
    cases hcolumn with
    | primitive hmarks hslots =>
        rw [Instance.marks_iff.mp hmarks,
          (Instance.forall₂_hasRun_one_iff hfills).mp hslots]
        rfl
  · rintro rfl
    exact .primitive (Instance.marks_iff.mpr rfl)
      ((Instance.forall₂_hasRun_one_iff hfills).mpr rfl)

theorem laidOut_enumeration_iff {variants : List Variant}
    (h : Encodable
      ⟨name, .enumeration variants, nullable, broadcast, nonEmpty⟩ rows) :
    LaidOut (.enumeration variants) rows column ↔
      column = layout
        ⟨name, .enumeration variants, nullable, broadcast, nonEmpty⟩ rows := by
  have hfills : forall row, row ∈ rows -> row.Fills .u8 (.fixed 1) :=
    fun row hrow => ((encodable_enumeration_iff.mp h).2 row hrow).1
  rw [layout]
  constructor
  · intro hcolumn
    cases hcolumn with
    | enumeration hmarks hslots =>
        rw [Instance.marks_iff.mp hmarks,
          (Instance.forall₂_hasRun_one_iff hfills).mp hslots]
        rfl
  · rintro rfl
    exact .enumeration (Instance.marks_iff.mpr rfl)
      ((Instance.forall₂_hasRun_one_iff hfills).mpr rfl)

theorem laidOut_fixedList_iff {kind : ElementKind} {arity : UInt32}
    (h : Encodable
      ⟨name, .fixedList kind arity, nullable, broadcast, nonEmpty⟩ rows) :
    LaidOut (.fixedList kind arity) rows column ↔
      column = layout
        ⟨name, .fixedList kind arity, nullable, broadcast, nonEmpty⟩ rows := by
  have hfills := (encodable_fixedList_iff.mp h).2.1
  rw [layout, List.flatMap_def]
  constructor
  · intro hcolumn
    cases hcolumn with
    | fixedList hmarks hruns =>
        rw [Instance.marks_iff.mp hmarks,
          (Instance.forall₂_hasRun_iff hfills).mp hruns]
        rfl
  · rintro rfl
    exact .fixedList (Instance.marks_iff.mpr rfl)
      ((Instance.forall₂_hasRun_iff hfills).mpr rfl)

theorem laidOut_list_iff {kind : ElementKind}
    (h : Encodable ⟨name, .list kind, nullable, broadcast, nonEmpty⟩ rows) :
    LaidOut (.list kind) rows column ↔
      column = layout ⟨name, .list kind, nullable, broadcast,
        nonEmpty⟩ rows := by
  have hfills := (encodable_list_iff.mp h).2.1
  rw [layout, List.flatMap_def, ← Instance.map_length_slots hfills]
  constructor
  · intro hcolumn
    cases hcolumn with
    | list hmarks hruns hoffsets =>
        rw [Column.bounds_iff.mp hoffsets, Instance.marks_iff.mp hmarks,
          (Instance.forall₂_hasRun_iff hfills).mp hruns]
        rfl
  · rintro rfl
    exact .list (Instance.marks_iff.mpr rfl)
      ((Instance.forall₂_hasRun_iff hfills).mpr rfl)
      (Column.bounds_offsetsFrom _)

end

mutual

theorem laidOut_iff : forall d : Datatype, d.validate = .ok () ->
    forall {rows : List Instance} {column : Column}, d.Encodable rows ->
      (LaidOut d.shape rows column ↔ column = d.layout rows)
  | ⟨_, .primitive _, _, _, _⟩, _, _, _, h => laidOut_primitive_iff h
  | ⟨_, .enumeration _, _, _, _⟩, _, _, _, h => laidOut_enumeration_iff h
  | ⟨_, .fixedList _ _, _, _, _⟩, _, _, _, h => laidOut_fixedList_iff h
  | ⟨_, .list _, _, _, _⟩, _, _, _, h => laidOut_list_iff h
  | ⟨_, .struct fields, _, _, _⟩, hvalid, rows, column, h => by
      rcases encodable_struct_iff.mp h with ⟨_, hshape, heach⟩
      have hfields := validate_field_of_validate hvalid
      have hwhole : rows.map (fieldsFrom 0) = rows.map Instance.fields? :=
        List.map_congr_left fun row _ => fieldsFrom_zero row
      have hcounts : forall row, row ∈ rows ->
          HasFields 0 fields.length row := by
        unfold HasFields
        rw [Nat.zero_add]
        exact hshape
      rw [← hwhole] at heach
      rw [layout, ← hwhole]
      constructor
      · intro hcolumn
        cases hcolumn with
        | struct hmarks hchildren =>
            rw [Instance.marks_iff.mp hmarks,
              (laidOutFields_iff fields hfields hcounts heach).mp hchildren]
      · rintro rfl
        exact .struct (Instance.marks_iff.mpr rfl)
          ((laidOutFields_iff fields hfields hcounts heach).mpr rfl)

theorem laidOutFields_iff : forall fields : List (Field Datatype),
    (forall field, field ∈ fields -> field.datatype.validate = .ok ()) ->
      forall {position : Nat} {rows : List Instance}
        {children : List (Label × Column)},
        (forall row, row ∈ rows -> HasFields position fields.length row) ->
        EncodableEach fields (rows.map (fieldsFrom position)) ->
          (LaidOutFields fields position rows children ↔
            children = layoutFields fields (rows.map (fieldsFrom position)))
  | [], _, position, rows, children, _, _ => by
      rw [layoutFields]
      constructor
      · rintro ⟨⟩
        rfl
      · rintro rfl
        exact .nil
  | ⟨name, datatype⟩ :: rest, hvalid, position, rows, children,
    hcounts, heach => by
      rw [List.forall_mem_cons] at hvalid
      have htails := map_tail_fieldsFrom position rows
      -- The first field is taken off by dropping one value more from every
      -- struct.
      rcases (encodableEach_cons_iff hvalid.1 (length_of_fieldsFrom hcounts)).mp
        heach with ⟨hone, hothers⟩
      rw [htails] at hothers
      have hrest : forall row, row ∈ rows ->
          HasFields (position + 1) rest.length row :=
        fun row hrow => (hcounts row hrow).next
      have hvalues : forall values : List Instance,
          List.Forall₂ (HasField datatype position) rows values ↔
            values = (rows.map (fieldsFrom position)).map
              (Instance.firstOr datatype.filler) := by
        intro values
        rw [List.map_map]
        exact forall₂_iff_eq_map fun row hrow _ =>
          hasField_iff hvalid.1 (hcounts row hrow)
      rw [layoutFields, htails]
      constructor
      · intro hcolumns
        cases hcolumns with
        | cons hcolumn hchild hchildren =>
            rw [(hvalues _).mp hcolumn] at hchild
            rw [(laidOut_iff datatype hvalid.1 hone).mp hchild,
              (laidOutFields_iff rest hvalid.2 hrest hothers).mp hchildren]
            rfl
      · rintro rfl
        exact .cons ((hvalues _).mpr rfl)
          ((laidOut_iff datatype hvalid.1 hone).mpr rfl)
          ((laidOutFields_iff rest hvalid.2 hrest hothers).mpr rfl)

end

/--
The parts of an encoded column can be put together to a column of the declared
type, with a row for each instance, and it is the one in which all instances
have their places.
-/
theorem encode_places_instances {d : Datatype} (hvalid : d.validate = .ok ())
    {rows : List Instance} {column : Column} (h : d.encode rows = .ok column) :
    column.Assembles ∧ column.type = d.columnType ∧
      column.length = rows.length ∧
      forall other, LaidOut d.shape rows other ↔ other = column := by
  rcases (encode_eq_ok_iff d hvalid).mp h with ⟨hrows, rfl⟩
  exact ⟨assembles_of_encode hvalid h, type_of_encode hvalid h,
    length_of_encode hvalid h, fun _ => laidOut_iff d hvalid hrows⟩

theorem encode_places_poses :
    exists column, Sample.pose.encode Sample.poses = .ok column ∧
      column.validity = some [true, false, true, true] ∧ column.Assembles ∧
      column.type = Sample.pose.columnType ∧
      forall other, LaidOut Sample.pose.shape Sample.poses other ↔
        other = column := by
  have hencode := @encode_of_encodable Sample.pose Sample.poses rfl
    ⟨by decide, by decide, by decide⟩
  rcases encode_places_instances rfl hencode with
    ⟨hassembles, htype, _, hplaces⟩
  exact ⟨_, hencode, rfl, hassembles, htype, hplaces⟩

end Datatype
end Columnar
