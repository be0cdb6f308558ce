import Columnar.Proofs.Codec.RoundTrip
import Columnar.Proofs.Normalize.Instances
import Columnar.Proofs.Registry.Reachable

/-!
# What building a batch does

Each stage of building is described by when it succeeds, and the stages together
say what a batch holds.  Whether an extension converts the values or the default
conversion does, nothing is stored that encoding has not checked.
-/

namespace Columnar

namespace BatchInput

def values? (d : Datatype) : BatchInput -> Option (List NativeValue)
  | .single value => some [value]
  | .many values => some values
  | .loose value => some (d.split value)
  | .column _ => none

end BatchInput

/-! ## The arity of instances -/

theorem checkCountsFrom_eq_ok {arity : Arity} {index : Nat}
    {instances : List Instance}
    (h : forall i, i ∈ instances -> forall found, i.count? = some found ->
      arity.accepts found = true) :
    checkCountsFrom arity index instances = .ok () := by
  induction instances generalizing index with
  | nil => rfl
  | cons i rest ih =>
      have hrest : checkCountsFrom arity (index + 1) rest = .ok () :=
        ih fun other hother => h other (List.mem_cons_of_mem _ hother)
      rw [checkCountsFrom]
      split
      · next found hfound =>
          rw [if_pos (h i List.mem_cons_self found hfound)]
          exact hrest
      · exact hrest

namespace Datatype

theorem accepts_count_of_conforms {d : Datatype} {count : Nat}
    (hd : d.arity? = some (.fixed count)) {i : Instance} (hi : d.Conforms i)
    {found : Nat} (hfound : i.count? = some found) :
    (Arity.fixed count).accepts found = true := by
  rw [Arity.accepts_fixed_iff]
  rcases d with ⟨name, shape, nullable, broadcast, nonEmpty⟩
  cases i with
  | null => cases hfound
  | struct values => cases hfound
  | elements data =>
      cases hfound
      cases shape with
      | primitive kind =>
          cases hd
          exact hi.2
      | fixedList kind arity =>
          cases hd
          exact hi.2
      | list kind => cases hd
      | enumeration variants =>
          cases hd
          rcases hi with ⟨v, _, rfl⟩
          rfl
      | struct fields => cases hd

theorem checkCounts_of_conforms {d : Datatype} {rows : List Instance}
    (h : forall row, row ∈ rows -> d.Conforms row) :
    d.checkCounts rows = .ok () := by
  unfold checkCounts
  split
  · next count hcount =>
      apply checkCountsFrom_eq_ok
      intro row hrow found hfound
      exact accepts_count_of_conforms hcount (h row hrow) hfound
  · rfl

end Datatype

/-- A batch of the datatype may have that many instances. -/
structure Config.Admits (config : Config) (d : Datatype) (length : Nat) :
    Prop where
  present : ¬ (length = 0 ∧ d.nonEmpty = true)
  within : forall limit, config.maxBatchLength = some limit ->
    length ≤ limit.toNat

namespace BatchBuilder

/-! ## The stages -/

theorem handle_eq_ok_iff {b : BatchBuilder} {name : String} {handle : Handle} :
    b.handle name = .ok handle ↔ b.registry.handle name = .ok handle := by
  rw [BatchBuilder.handle]
  cases b.registry.handle name with
  | error e => simp
  | ok found => simp

theorem checkSize_eq_ok_iff {b : BatchBuilder} {component : String}
    {d : Datatype} {length : Nat} :
    b.checkSize component d length = .ok () ↔ b.config.Admits d length := by
  unfold checkSize
  by_cases hempty : length = 0 ∧ d.nonEmpty = true
  · rw [if_pos hempty]
    constructor
    · intro h
      cases h
    · intro h
      exact absurd hempty h.present
  · rw [if_neg hempty]
    cases hlimit : b.config.maxBatchLength with
    | none =>
        constructor
        · intro _
          refine ⟨hempty, ?_⟩
          intro limit hsome
          rw [hlimit] at hsome
          cases hsome
        · intro _
          rfl
    | some limit =>
        dsimp only
        split
        · next hlt =>
            constructor
            · intro h
              cases h
            · intro h
              exact absurd (h.within limit hlimit) (Nat.not_le_of_lt hlt)
        · next hle =>
            constructor
            · intro _
              refine ⟨hempty, ?_⟩
              intro other hother
              rw [hlimit] at hother
              cases hother
              exact Nat.le_of_not_lt hle
            · intro _
              rfl

/--
For a valid datatype the arity check decides nothing that encoding does not
decide.
-/
theorem encodeChecked_eq_ok_iff {extension : Option Extension} {d : Datatype}
    (hvalid : d.validate = .ok ()) {rows : List Instance} {column : Column} :
    encodeChecked extension d rows = .ok column ↔
      (forall e, extension = some e -> e.validate rows = .ok ()) ∧
        d.encode rows = .ok column := by
  rw [encodeChecked, bind_eq_ok_iff]
  constructor
  · intro h
    rcases h with ⟨_, _, h⟩
    cases extension with
    | none => exact ⟨nofun, h⟩
    | some e =>
        rcases bind_eq_ok_iff.mp h with ⟨_, hvalidate, hencode⟩
        refine ⟨?_, hencode⟩
        intro other hother
        cases hother
        exact hvalidate
  · intro h
    rcases h with ⟨hvalidate, hencode⟩
    have hrows := Datatype.encodable_of_encode hvalid hencode
    refine ⟨(), Datatype.checkCounts_of_conforms hrows.conforms, ?_⟩
    cases extension with
    | none => exact hencode
    | some e => exact bind_eq_ok_iff.mpr ⟨(), hvalidate e rfl, hencode⟩

theorem convert_eq_ok_iff {b : BatchBuilder} {component : String} {d : Datatype}
    (hvalid : d.validate = .ok ()) {values : List NativeValue}
    {column : Column} :
    b.convert component d values = .ok column ↔
      b.config.Admits d values.length ∧ exists rows,
        List.Forall₂ (fun value row =>
          b.instanceOf (b.extension? component) d value = .ok row)
          values rows ∧
        (forall e, b.extension? component = some e ->
          e.validate rows = .ok ()) ∧
        d.encode rows = .ok column := by
  simp only [convert, bind_eq_ok_iff, converted_eq_ok_iff,
    convertEach_eq_ok_iff, encodeChecked_eq_ok_iff hvalid]
  constructor
  · intro h
    rcases h with ⟨_, hsize, hrows⟩
    exact ⟨checkSize_eq_ok_iff.mp hsize, hrows⟩
  · intro h
    rcases h with ⟨hsize, hrows⟩
    exact ⟨(), checkSize_eq_ok_iff.mpr hsize, hrows⟩

theorem convert_of_convertEach_error {b : BatchBuilder} {component : String}
    {d : Datatype} {values : List NativeValue} {fault : ConversionError}
    (hsize : b.config.Admits d values.length)
    (h : convertEach (b.instanceOf (b.extension? component) d) 0 values =
      .error fault) :
    b.convert component d values = .error (.conversion fault) := by
  rw [convert, checkSize_eq_ok_iff.mpr hsize]
  show (converted
    (convertEach (b.instanceOf (b.extension? component) d) 0 values) >>= _) = _
  rw [h]
  rfl

theorem convert_congr {b : BatchBuilder} {component : String} {d : Datatype}
    {values others : List NativeValue}
    (h : values.map (b.instanceOf (b.extension? component) d) =
      others.map (b.instanceOf (b.extension? component) d)) :
    b.convert component d values = b.convert component d others := by
  have hlength : values.length = others.length := by
    rw [← List.length_map (b.instanceOf (b.extension? component) d), h,
      List.length_map]
  have heach : convertEach (b.instanceOf (b.extension? component) d) 0 values =
      convertEach (b.instanceOf (b.extension? component) d) 0 others :=
    convertEach_congr h
  simp only [convert, hlength, heach]

section

variable {b : BatchBuilder} {descriptor : Descriptor} {handle : Handle}
  {input : BatchInput} {values : List NativeValue} {batch : Batch}

theorem build_eq_map_convert
    (hhandle : b.registry.handle descriptor.component.text = .ok handle)
    (hvalues : input.values? handle.datatype = some values) :
    b.build descriptor input =
      (b.convert descriptor.component.text handle.datatype values).map
        fun column => ⟨descriptor, column, handle.datatype.nullable⟩ := by
  rw [build, handle_eq_ok_iff.mpr hhandle]
  cases input with
  | single value =>
      cases hvalues
      rfl
  | many others =>
      cases hvalues
      rfl
  | loose value =>
      cases hvalues
      rfl
  | column column => cases hvalues

theorem build_eq_build_many
    (hhandle : b.registry.handle descriptor.component.text = .ok handle)
    (hvalues : input.values? handle.datatype = some values) :
    b.build descriptor input = b.build descriptor (.many values) := by
  rw [build_eq_map_convert hhandle hvalues, build_eq_map_convert hhandle rfl]

theorem build_eq_ok_iff (hreachable : b.registry.Reachable)
    (hhandle : b.registry.handle descriptor.component.text = .ok handle)
    (hvalues : input.values? handle.datatype = some values) :
    b.build descriptor input = .ok batch ↔
      b.config.Admits handle.datatype values.length ∧ exists rows,
        List.Forall₂ (fun value row =>
          b.instanceOf (b.extension? descriptor.component.text)
            handle.datatype value = .ok row) values rows ∧
        (forall e, b.extension? descriptor.component.text = some e ->
          e.validate rows = .ok ()) ∧
        handle.datatype.encode rows = .ok batch.column ∧
        ⟨descriptor, batch.column, handle.datatype.nullable⟩ = batch := by
  rw [build_eq_map_convert hhandle hvalues, map_eq_ok_iff]
  simp only [convert_eq_ok_iff (hreachable.validate_of_handle hhandle)]
  constructor
  · intro h
    rcases h with ⟨column, ⟨hsize, rows, hrows, hvalidate, hencode⟩, rfl⟩
    exact ⟨hsize, rows, hrows, hvalidate, hencode, rfl⟩
  · intro h
    rcases h with ⟨hsize, rows, hrows, hvalidate, hencode, hbatch⟩
    exact ⟨batch.column, ⟨hsize, rows, hrows, hvalidate, hencode⟩, hbatch⟩

end

theorem build_congr_registry {b : BatchBuilder} {r other : Registry}
    {descriptor : Descriptor}
    (h : r.handle descriptor.component.text =
      other.handle descriptor.component.text)
    (input : BatchInput) :
    { b with registry := r }.build descriptor input =
      { b with registry := other }.build descriptor input := by
  simp only [build, BatchBuilder.handle, h]
  rfl

/-! ## Without an extension -/

section

variable {b : BatchBuilder} {descriptor : Descriptor} {handle : Handle}
  {values : List NativeValue}

theorem build_many_eq_ok_iff {batch : Batch} (hreachable : b.registry.Reachable)
    (hhandle : b.registry.handle descriptor.component.text = .ok handle)
    (hextension : b.extension? descriptor.component.text = none) :
    b.build descriptor (.many values) = .ok batch ↔
      b.config.Admits handle.datatype values.length ∧ exists rows,
        handle.datatype.Normalized b.config values rows ∧
        handle.datatype.encode rows = .ok batch.column ∧
        ⟨descriptor, batch.column, handle.datatype.nullable⟩ = batch := by
  rw [build_eq_ok_iff hreachable hhandle rfl, hextension]
  constructor
  · intro h
    rcases h with ⟨hsize, rows, hrows, _, hencode, hbatch⟩
    exact ⟨hsize, rows, hrows, hencode, hbatch⟩
  · intro h
    rcases h with ⟨hsize, rows, hrows, hencode, hbatch⟩
    exact ⟨hsize, rows, hrows, nofun, hencode, hbatch⟩

theorem build_many_succeeds_iff (hreachable : b.registry.Reachable)
    (hhandle : b.registry.handle descriptor.component.text = .ok handle)
    (hextension : b.extension? descriptor.component.text = none) :
    (exists batch, b.build descriptor (.many values) = .ok batch) ↔
      b.config.Admits handle.datatype values.length ∧ exists rows,
        handle.datatype.Normalized b.config values rows ∧
        handle.datatype.AritiesFit ∧ handle.datatype.TotalsFit rows := by
  have hvalid := hreachable.validate_of_handle hhandle
  constructor
  · intro h
    rcases h with ⟨batch, hbatch⟩
    rcases (build_many_eq_ok_iff hreachable hhandle hextension).mp hbatch with
      ⟨hsize, rows, hrows, hencode, _⟩
    have hencodable := Datatype.encodable_of_encode hvalid hencode
    exact ⟨hsize, rows, hrows, hencodable.aritiesFit, hencodable.totalsFit⟩
  · intro h
    rcases h with ⟨hsize, rows, hrows, harities, htotals⟩
    have hencode :=
      Datatype.encode_of_encodable hvalid ⟨hrows.conforms, harities, htotals⟩
    refine ⟨⟨descriptor, handle.datatype.layout rows,
      handle.datatype.nullable⟩, ?_⟩
    exact (build_many_eq_ok_iff hreachable hhandle hextension).mpr
      ⟨hsize, rows, hrows, hencode, rfl⟩

theorem normalized_of_build {input : BatchInput} {batch : Batch}
    (hreachable : b.registry.Reachable)
    (hhandle : b.registry.handle descriptor.component.text = .ok handle)
    (hextension : b.extension? descriptor.component.text = none)
    (hvalues : input.values? handle.datatype = some values)
    (h : b.build descriptor input = .ok batch) :
    exists rows, handle.datatype.Normalized b.config values rows ∧
      batch.decode handle.datatype = .ok rows := by
  have hvalid := hreachable.validate_of_handle hhandle
  rcases (build_eq_ok_iff hreachable hhandle hvalues).mp h with
    ⟨_, rows, hrows, _, hencode, _⟩
  rw [hextension] at hrows
  exact ⟨rows, hrows, Datatype.decode_of_encode hvalid hencode⟩

theorem decode_of_build_many {batch : Batch} (hreachable : b.registry.Reachable)
    (hhandle : b.registry.handle descriptor.component.text = .ok handle)
    (hextension : b.extension? descriptor.component.text = none)
    (h : b.build descriptor (.many values) = .ok batch) :
    batch.length = values.length ∧ batch.descriptor = descriptor ∧ exists rows,
      handle.datatype.Normalized b.config values rows ∧
      batch.decode handle.datatype = .ok rows := by
  have hvalid := hreachable.validate_of_handle hhandle
  rcases (build_many_eq_ok_iff hreachable hhandle hextension).mp h with
    ⟨_, rows, hrows, hencode, hbatch⟩
  refine ⟨?_, ?_, rows, hrows, Datatype.decode_of_encode hvalid hencode⟩
  · exact (Datatype.length_of_encode hvalid hencode).trans
      (List.Forall₂.length_eq hrows).symm
  · rw [← hbatch]

theorem build_many_of_fault
    (hhandle : b.registry.handle descriptor.component.text = .ok handle)
    (hextension : b.extension? descriptor.component.text = none)
    (hsize : b.config.Admits handle.datatype values.length)
    (h : exists value, value ∈ values ∧
      exists e, handle.datatype.normalize b.config value = .error e) :
    exists position fault,
      FirstFault (handle.datatype.normalize b.config) values position fault ∧
      b.build descriptor (.many values) =
        .error (.conversion (.atIndex position fault)) := by
  rcases exists_firstFault 0 h with ⟨position, fault, hfirst, heach⟩
  rw [Nat.zero_add] at heach
  refine ⟨position, fault, hfirst, ?_⟩
  have hconvert : b.convert descriptor.component.text handle.datatype values =
      .error (.conversion (.atIndex position fault)) := by
    apply convert_of_convertEach_error hsize
    rw [hextension]
    exact heach
  rw [build_eq_map_convert hhandle rfl, hconvert]
  rfl

/--
Without an extension a batch is what normalization makes of the values: it is
built exactly when the number of values is admitted, every value is normalized
and the sizes fit; it reads back as the normalized values; and the first value
that cannot be normalized is the one reported.
-/
theorem build_many_refines_normalize (hreachable : b.registry.Reachable)
    (hhandle : b.registry.handle descriptor.component.text = .ok handle)
    (hextension : b.extension? descriptor.component.text = none)
    (values : List NativeValue) :
    ((exists batch, b.build descriptor (.many values) = .ok batch) ↔
      b.config.Admits handle.datatype values.length ∧ exists rows,
        handle.datatype.Normalized b.config values rows ∧
        handle.datatype.AritiesFit ∧ handle.datatype.TotalsFit rows) ∧
    (forall batch, b.build descriptor (.many values) = .ok batch ->
      batch.length = values.length ∧ batch.descriptor = descriptor ∧
        exists rows, handle.datatype.Normalized b.config values rows ∧
          batch.decode handle.datatype = .ok rows) ∧
    (b.config.Admits handle.datatype values.length ->
      (exists value, value ∈ values ∧
        exists e, handle.datatype.normalize b.config value = .error e) ->
      exists position fault,
        FirstFault (handle.datatype.normalize b.config) values position fault ∧
        b.build descriptor (.many values) =
          .error (.conversion (.atIndex position fault))) := by
  refine ⟨?_, ?_, ?_⟩
  · exact build_many_succeeds_iff hreachable hhandle hextension
  · intro batch hbatch
    exact decode_of_build_many hreachable hhandle hextension hbatch
  · intro hsize hfault
    exact build_many_of_fault hhandle hextension hsize hfault

end

namespace Sample

open Registry.Sample

def poseBuilder : BatchBuilder where
  registry := poseRegistry
  config := { maxBatchLength := some 4 }

def poseDescriptor : Descriptor :=
  (Descriptor.bare poseName).inSlot "sample.archetypes.Robot" "poses"

def poseValue (mode : String) : NativeValue :=
  .sequence [
    .sequence [.f32 ⟨0x80000000⟩, .f32 ⟨0x3f800000⟩],
      .sequence [.u64 7, .u64 8],
    .scalar (.text mode), .null]

def fastPose : Instance :=
  Datatype.Sample.poseOf [⟨0x80000000⟩, ⟨0x3f800000⟩]
    (.elements ⟨.u32, ([7, 8] : List UInt32)⟩) 1 .null

theorem admits_pose {length : Nat} (h : length ≤ 4) :
    poseBuilder.config.Admits Datatype.Sample.pose length where
  present := by
    intro hpresent
    cases hpresent.2
  within := by
    intro limit hlimit
    cases hlimit
    exact h

theorem build_fastPose :
    poseBuilder.build poseDescriptor (.single (poseValue "Fast")) =
      .ok ⟨poseDescriptor, Datatype.Sample.pose.layout [fastPose], true⟩ :=
  (build_eq_ok_iff reachable_poseRegistry handle_poseRegistry rfl).mpr
    ⟨admits_pose (by decide), [fastPose], .cons rfl .nil, nofun, rfl, rfl⟩

end Sample

open Sample in
theorem build_poseValues :
    (exists batch, poseBuilder.build poseDescriptor
      (.many [.null, poseValue "Fast"]) = .ok batch ∧
      batch.length = 2 ∧ batch.descriptor = poseDescriptor) ∧
    exists position fault,
      FirstFault (Datatype.Sample.pose.normalize poseBuilder.config)
        [poseValue "Fast", poseValue "Idle", .null] position fault ∧
      poseBuilder.build poseDescriptor
          (.many [poseValue "Fast", poseValue "Idle", .null]) =
        .error (.conversion (.atIndex position fault)) := by
  have hreachable : poseBuilder.registry.Reachable :=
    Registry.Sample.reachable_poseRegistry
  have hhandle : poseBuilder.registry.handle poseDescriptor.component.text =
      .ok (.of Registry.Sample.poseName Datatype.Sample.pose) :=
    Registry.Sample.handle_poseRegistry
  have hextension : poseBuilder.extension? poseDescriptor.component.text =
    none := rfl
  have hmany := build_many_refines_normalize hreachable hhandle hextension
  constructor
  · have hrows : Datatype.Sample.pose.Normalized poseBuilder.config
        [.null, poseValue "Fast"] [.null, fastPose] :=
      List.Forall₂.cons rfl (List.Forall₂.cons rfl List.Forall₂.nil)
    have hbuild := (hmany [.null, poseValue "Fast"]).1.mpr
      ⟨admits_pose (by decide), _, hrows, by decide, by decide⟩
    rcases hbuild with ⟨batch, hbatch⟩
    have hdecode := (hmany _).2.1 batch hbatch
    exact ⟨batch, hbatch, hdecode.1, hdecode.2.1⟩
  · exact (hmany _).2.2 (admits_pose (by decide))
      ⟨poseValue "Idle", by simp, _, rfl⟩

end BatchBuilder
end Columnar
