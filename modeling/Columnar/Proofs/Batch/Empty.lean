import Columnar.Proofs.Batch.Flat
import Columnar.Proofs.Column.WellFormed

/-!
# Batches without instances

A batch without instances can be asked for, or built out of no values.  Encoding
no instances checks nothing but sizes that the datatype itself brings along, so
the two give the same batch unless some fixed arity is more than the size of a
row can say.
-/

namespace Columnar
namespace Datatype

/-! ## No instances -/

mutual

theorem encode_nil : forall d : Datatype, d.AritiesFit ->
    d.encode [] = .ok (.empty d.columnType)
  | ⟨_, .primitive _, _, _, _⟩, _ => by
      rw [encode, columnType]
      rfl
  | ⟨_, .enumeration _, _, _, _⟩, _ => by
      rw [encode, columnType]
      rfl
  | ⟨_, .list _, _, _, _⟩, _ => by
      rw [encode, columnType, Column.empty]
      rfl
  | ⟨_, .fixedList kind arity, _, _, _⟩, hfit => by
      have hsize : arity.toNat ≤ maxRowSize :=
        le_maxRowSize_iff.mpr (aritiesFit_fixedList_iff.mp hfit)
      have hrows : Column.rowCount arity.toNat 0 none = 0 := by
        rw [Column.rowCount, Nat.zero_div]
        exact ite_self 0
      rw [encode, columnType, Column.empty, Nat.min_eq_left hsize]
      show (if arity.toNat ≤ maxRowSize then Except.ok
        (Column.fixedList .item arity.toNat
          (Column.rowCount arity.toNat 0 none) _ none) else _) = _
      rw [if_pos hsize, hrows]
      rfl
  | ⟨_, .struct [], _, _, _⟩, _ => by
      rw [encode, columnType, fieldTypes, Column.empty, Column.emptyFields]
      rfl
  | ⟨_, .struct (⟨name, datatype⟩ :: rest), _, _, _⟩, hfit => by
      have hfields := encodeFields_nil _ (aritiesFit_struct_iff.mp hfit)
      rw [encode, columnType, Column.empty]
      show (encodeFields (⟨name, datatype⟩ :: rest) [] >>= _) = _
      rw [hfields, fieldTypes, Column.emptyFields]
      show Except.ok
        (Column.struct (Column.empty datatype.columnType).length _ _) = _
      rw [Column.length_empty]

theorem encodeFields_nil : forall fields : List (Field Datatype),
    (forall arity, arity ∈ fieldArities fields -> arity < wordLimit) ->
      encodeFields fields [] = .ok (Column.emptyFields (fieldTypes fields))
  | [], _ => by
      rw [encodeFields, fieldTypes, Column.emptyFields]
  | ⟨name, datatype⟩ :: rest, hfit => by
      rw [fieldArities, List.forall_mem_append] at hfit
      rw [encodeFields, List.map_nil, List.map_nil, encode_nil datatype hfit.1,
        encodeFields_nil rest hfit.2, fieldTypes, Column.emptyFields]
      rfl

end

/-! ## Arities that are too great -/

mutual

/--
Where the first arity stands that the size of a row cannot say: the fields that
lead to it.
-/
inductive TooWide : Datatype -> List String -> Prop
  | here {name : String} {nullable broadcast nonEmpty : Bool}
      {kind : ElementKind} {arity : UInt32} : wordLimit ≤ arity.toNat ->
        TooWide ⟨name, .fixedList kind arity, nullable, broadcast, nonEmpty⟩ []
  | within {name : String} {nullable broadcast nonEmpty : Bool}
      {fields : List (Field Datatype)} {path : List String} :
      FieldTooWide fields path ->
        TooWide ⟨name, .struct fields, nullable, broadcast, nonEmpty⟩ path

inductive FieldTooWide : List (Field Datatype) -> List String -> Prop
  | head {field : Field Datatype} {rest : List (Field Datatype)}
      {path : List String} :
      TooWide field.datatype path ->
      FieldTooWide (field :: rest) (field.name :: path)
  | tail {field : Field Datatype} {rest : List (Field Datatype)}
      {path : List String} :
      field.datatype.AritiesFit -> FieldTooWide rest path ->
      FieldTooWide (field :: rest) path

end

def overflowAt (path : List String) : ConversionError :=
  path.foldr .inField .offsetOverflow

mutual

theorem encode_nil_of_not_fits : forall d : Datatype, ¬ d.AritiesFit ->
    exists path, d.TooWide path ∧ d.encode [] = .error (overflowAt path)
  | ⟨_, .primitive _, _, _, _⟩, hfit =>
      absurd (aritiesFit_of_nil (by rw [fixedArities])) hfit
  | ⟨_, .enumeration _, _, _, _⟩, hfit =>
      absurd (aritiesFit_of_nil (by rw [fixedArities])) hfit
  | ⟨_, .list _, _, _, _⟩, hfit =>
      absurd (aritiesFit_of_nil (by rw [fixedArities])) hfit
  | ⟨_, .fixedList kind arity, _, _, _⟩, hfit => by
      rw [aritiesFit_fixedList_iff] at hfit
      refine ⟨[], .here (Nat.le_of_not_lt hfit), ?_⟩
      rw [encode]
      exact if_neg fun hsize => hfit (le_maxRowSize_iff.mp hsize)
  | ⟨_, .struct [], _, _, _⟩, hfit =>
      absurd (aritiesFit_of_nil (by rw [fixedArities, fieldArities])) hfit
  | ⟨_, .struct (field :: rest), _, _, _⟩, hfit => by
      rw [aritiesFit_struct_iff] at hfit
      rcases encodeFields_nil_of_not_fits (field :: rest) hfit with
        ⟨path, hwide, hencode⟩
      refine ⟨path, .within hwide, ?_⟩
      rw [encode]
      show (encodeFields (field :: rest) [] >>= _) = _
      rw [hencode]
      rfl

theorem encodeFields_nil_of_not_fits : forall fields : List (Field Datatype),
    ¬ (forall arity, arity ∈ fieldArities fields -> arity < wordLimit) ->
      exists path, FieldTooWide fields path ∧
        encodeFields fields [] = .error (overflowAt path)
  | [], hfit => absurd (by rw [fieldArities]; exact nofun) hfit
  | ⟨name, datatype⟩ :: rest, hfit => by
      rw [fieldArities, List.forall_mem_append] at hfit
      rw [encodeFields, List.map_nil, List.map_nil]
      by_cases hhead : datatype.AritiesFit
      · rcases encodeFields_nil_of_not_fits rest fun hrest =>
          hfit ⟨hhead, hrest⟩ with ⟨path, hwide, hencode⟩
        refine ⟨path, .tail hhead hwide, ?_⟩
        rw [encode_nil datatype hhead, hencode]
        rfl
      · rcases encode_nil_of_not_fits datatype hhead with ⟨path, hwide, hencode⟩
        refine ⟨name :: path, .head hwide, ?_⟩
        rw [hencode]
        rfl

end

/-- The error says which field is too wide. -/
example : (struct "sample.Crate"
    [⟨"lid", primitive "sample.Lid" .u8⟩,
      ⟨"sides", fixedList "sample.Sides" .u8 2147483648⟩]).encode [] =
        .error (overflowAt ["sides"]) := by
  rfl

end Datatype

namespace BatchBuilder

open Datatype

variable {b : BatchBuilder} {descriptor : Descriptor} {handle : Handle}

theorem admits_nothing {config : Config} {d : Datatype}
    (h : d.nonEmpty = false) :
    config.Admits d 0 where
  present := by
    intro hpresent
    rw [h] at hpresent
    cases hpresent.2
  within := fun limit _ => Nat.zero_le limit.toNat

theorem encodeChecked_nil {extension : Option Extension} {d : Datatype}
    (h : forall e, extension = some e -> e.validate [] = .ok ()) :
    encodeChecked extension d [] = d.encode [] := by
  have hcounts : d.checkCounts [] = .ok () :=
    Datatype.checkCounts_of_conforms nofun
  rw [encodeChecked, hcounts]
  cases extension with
  | none => rfl
  | some e =>
      show (e.validate [] >>= fun _ => d.encode []) = _
      rw [h e rfl]
      rfl

theorem build_many_nil
    (hhandle : b.registry.handle descriptor.component.text = .ok handle)
    (hempty : handle.datatype.nonEmpty = false)
    (hextension : forall e, b.extension? descriptor.component.text = some e ->
      e.validate [] = .ok ()) :
    b.build descriptor (.many []) =
      (converted (handle.datatype.encode [])).map fun column =>
        ⟨descriptor, column, handle.datatype.nullable⟩ := by
  have hsize : b.checkSize descriptor.component.text handle.datatype 0 =
      .ok () :=
    checkSize_eq_ok_iff.mpr (admits_nothing hempty)
  rw [build_eq_map_convert hhandle rfl, convert, List.length_nil, hsize]
  show (converted (encodeChecked _ _ [])).map _ = _
  rw [encodeChecked_nil hextension]

theorem emptyBatch_eq
    (hhandle : b.registry.handle descriptor.component.text = .ok handle) :
    b.emptyBatch descriptor =
      .ok ⟨descriptor, .empty handle.datatype.columnType,
        handle.datatype.nullable⟩ := by
  rw [emptyBatch, handle_eq_ok_iff.mpr hhandle]
  rfl

/--
Out of no values the batch is built that is given on request as the empty one,
if each arity in the datatype is a signed 32-bit word.  If not, nothing is
built, and the error leads to the first arity that is not.
-/
theorem build_many_nil_eq_emptyBatch
    (hhandle : b.registry.handle descriptor.component.text = .ok handle)
    (hempty : handle.datatype.nonEmpty = false)
    (hextension : forall e, b.extension? descriptor.component.text = some e ->
      e.validate [] = .ok ()) :
    (handle.datatype.AritiesFit -> exists batch,
      b.build descriptor (.many []) = .ok batch ∧
        b.emptyBatch descriptor = .ok batch ∧
        batch.descriptor = descriptor ∧
        batch.type = handle.datatype.columnType ∧
        batch.nullable = handle.datatype.nullable ∧ batch.length = 0) ∧
    (¬ handle.datatype.AritiesFit -> exists path, handle.datatype.TooWide path ∧
      b.build descriptor (.many []) =
        .error (.conversion (overflowAt path))) := by
  rw [build_many_nil hhandle hempty hextension]
  constructor
  · intro hfits
    rw [encode_nil _ hfits]
    exact ⟨_, rfl, emptyBatch_eq hhandle, rfl, Column.type_empty _, rfl,
      Column.length_empty _⟩
  · intro hfits
    rcases encode_nil_of_not_fits _ hfits with ⟨path, hwide, hencode⟩
    rw [hencode]
    exact ⟨path, hwide, rfl⟩

open Sample Registry.Sample in
theorem build_no_poses :
    (exists batch, poseBuilder.build poseDescriptor (.many []) = .ok batch ∧
      poseBuilder.emptyBatch poseDescriptor = .ok batch ∧ batch.length = 0) ∧
    exists path, wide.TooWide path ∧
      wideBuilder.build (.bare wideName) (.many []) =
        .error (.conversion (overflowAt path)) := by
  have hpose : poseBuilder.registry.handle poseDescriptor.component.text =
      .ok (.of poseName Datatype.Sample.pose) := handle_poseRegistry
  have hwide :
      wideBuilder.registry.handle (Descriptor.bare wideName).component.text =
        .ok (.of wideName wide) := handle_wideBuilder
  constructor
  · rcases (build_many_nil_eq_emptyBatch hpose rfl nofun).1 (by decide) with
      ⟨batch, hbuild, hempty, _, _, _, hlength⟩
    exact ⟨batch, hbuild, hempty, hlength⟩
  · exact (build_many_nil_eq_emptyBatch hwide rfl nofun).2 (by decide)

open Sample in
/-- No values are not enough for a batch where rows are too wide. -/
theorem no_values_refused_wide :
    wideBuilder.registry.Reachable ∧
      wideBuilder.registry.handle wideName.text = .ok (.of wideName wide) ∧
      wide.nonEmpty = false ∧ wideBuilder.extensions.isNone ∧
      wideBuilder.build (.bare wideName) (.many []) =
        .error (.conversion .offsetOverflow) := by
  have hwide :
      wideBuilder.registry.handle (Descriptor.bare wideName).component.text =
        .ok (.of wideName wide) := handle_wideBuilder
  refine ⟨.register _ _ .empty, hwide, rfl, rfl, ?_⟩
  rw [build_many_nil hwide rfl nofun]
  rfl

end BatchBuilder
end Columnar
