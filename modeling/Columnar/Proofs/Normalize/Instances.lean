import Columnar.Proofs.Conformance
import Columnar.Proofs.Normalize.Named

/-!
# Normalization makes instances

Whatever a native value becomes conforms to the datatype it was normalized to.
No promise about the datatype is needed: arities are checked against the scalars
that were found, and variants are taken from those declared.
-/

namespace Columnar

theorem Scalar.coerceAll_eq_ok_iff {config : Config} {kind : ElementKind}
    {scalars : List Scalar} {values : List kind.Carrier} :
    coerceAll config kind scalars = .ok values ↔
      List.Forall₂ (fun s value => s.coerce config kind = .ok value)
        scalars values := by
  induction scalars generalizing values with
  | nil =>
      simp [coerceAll, eq_comm]
  | cons s rest ih =>
      simp only [coerceAll, bind_eq_ok_iff, pure_eq_ok_iff, ih,
        List.forall₂_cons_left_iff]
      constructor
      · intro h
        rcases h with ⟨value, hvalue, others, hothers, rfl⟩
        exact ⟨value, others, hvalue, hothers, rfl⟩
      · intro h
        rcases h with ⟨value, others, hvalue, hothers, rfl⟩
        exact ⟨value, hvalue, others, hothers, rfl⟩

namespace NativeValue

theorem elements_of_toElements {config : Config} {kind : ElementKind}
    {arity : Arity} {broadcast : Bool} {value : NativeValue} {i : Instance}
    (h : value.toElements config kind arity broadcast = .ok i) :
    exists values : List kind.Carrier,
      i = .elements ⟨kind, values⟩ ∧ arity.accepts values.length = true := by
  rw [toElements, bind_eq_ok_iff] at h
  rcases h with ⟨_, _, h⟩
  dsimp only at h
  split at h
  · next hcount =>
      rw [bind_eq_ok_iff] at h
      rcases h with ⟨values, hvalues, hi⟩
      have hlength := (Scalar.coerceAll_eq_ok_iff.mp hvalues).length_eq
      rw [hlength] at hcount
      exact ⟨values, pure_eq_ok_iff.mp hi, hcount⟩
  · cases h

theorem declared_of_variantOf {datatype : String} {variants : List Variant}
    {s : Scalar} {byte : UInt8} (h : variantOf datatype variants s = .ok byte) :
    exists v, v ∈ variants ∧ v.value = byte := by
  rw [variantOf.eq_def] at h
  split at h
  · split at h
    · next v hfind =>
        cases h
        exact ⟨v, List.mem_of_find?_eq_some hfind, rfl⟩
    · cases h
  · rw [bind_eq_ok_iff] at h
    rcases h with ⟨n, _, h⟩
    split at h
    · next v hfind =>
        cases h
        exact ⟨v, List.mem_of_find?_eq_some hfind, rfl⟩
    · cases h

theorem declared_of_toVariant {datatype : String} {variants : List Variant}
    {value : NativeValue} {i : Instance}
    (h : value.toVariant datatype variants = .ok i) :
    exists v, v ∈ variants ∧ i = .one .u8 v.value := by
  rw [toVariant, bind_eq_ok_iff] at h
  rcases h with ⟨s, _, h⟩
  rw [bind_eq_ok_iff] at h
  rcases h with ⟨byte, hbyte, hi⟩
  rcases declared_of_variantOf hbyte with ⟨v, hv, rfl⟩
  exact ⟨v, hv, pure_eq_ok_iff.mp hi⟩

end NativeValue

namespace Datatype

/-! ## Normalization by shape -/

section

variable {config : Config} {name : String} {nullable broadcast nonEmpty : Bool}
  {value : NativeValue} {i : Instance}

theorem eq_null_of_isNull (h : value.isNull = true) : value = .null := by
  cases value with
  | null => rfl
  | _ => cases h

theorem normalize_null (d : Datatype) :
    d.normalize config .null =
      if d.nullable then .ok .null else .error (.unexpectedNull d.name) := by
  rcases d with ⟨name, shape, nullable, broadcast, nonEmpty⟩
  rw [normalize]

theorem normalize_primitive {kind : ElementKind} (h : value.isNull = false) :
    normalize config
        ⟨name, .primitive kind, nullable, broadcast, nonEmpty⟩ value =
      value.toElements config kind (.fixed 1) false := by
  cases value with
  | null => cases h
  | _ => rfl

theorem normalize_fixedList {kind : ElementKind} {arity : UInt32}
    (h : value.isNull = false) :
    normalize config
        ⟨name, .fixedList kind arity, nullable, broadcast, nonEmpty⟩ value =
      value.toElements config kind (.fixed arity.toNat) broadcast := by
  cases value with
  | null => cases h
  | _ => rfl

theorem normalize_list {kind : ElementKind} (h : value.isNull = false) :
    normalize config ⟨name, .list kind, nullable, broadcast, nonEmpty⟩ value =
      value.toElements config kind .variable false := by
  cases value with
  | null => cases h
  | _ => rfl

theorem normalize_enumeration {variants : List Variant}
    (h : value.isNull = false) :
    normalize config
        ⟨name, .enumeration variants, nullable, broadcast, nonEmpty⟩ value =
      value.toVariant name variants := by
  cases value with
  | null => cases h
  | _ => rfl

theorem normalize_struct {fields : List (Field Datatype)}
    (h : value.isNull = false)
    (hi : normalize config
      ⟨name, .struct fields, nullable, broadcast, nonEmpty⟩ value = .ok i) :
    exists values, i = .struct values ∧
      ((exists pairs, value = .record pairs ∧
          normalizeNamed config name pairs fields = .ok values) ∨
        exists items, value = .sequence items ∧ items.length = fields.length ∧
          normalizePositional config fields items = .ok values) := by
  cases value with
  | null => cases h
  | scalar s => cases hi
  | array a => cases hi
  | record pairs =>
      rw [normalize] at hi
      split at hi
      · cases hi
      · rcases map_eq_ok_iff.mp hi with ⟨values, hvalues, rfl⟩
        exact ⟨values, rfl, Or.inl ⟨pairs, rfl, hvalues⟩⟩
  | sequence items =>
      rw [normalize] at hi
      split at hi
      · next hcount =>
          rcases map_eq_ok_iff.mp hi with ⟨values, hvalues, rfl⟩
          exact ⟨values, rfl, Or.inr ⟨items, rfl, hcount, hvalues⟩⟩
      · cases hi

end

/-! ## Conformance -/

mutual

theorem conforms_of_normalize {config : Config} :
    forall (d : Datatype) {value : NativeValue}
    {i : Instance}, d.normalize config value = .ok i -> d.Conforms i
  | ⟨name, shape, nullable, broadcast, nonEmpty⟩, value, i, h => by
      cases hvalue : value.isNull with
      | true =>
          rw [eq_null_of_isNull hvalue, normalize_null] at h
          split at h
          · next hnullable =>
              cases h
              exact conforms_null_iff.mpr hnullable
          · cases h
      | false =>
          match shape with
          | .primitive kind =>
              rw [normalize_primitive hvalue] at h
              rcases NativeValue.elements_of_toElements h with
                ⟨values, rfl, hcount⟩
              rw [Conforms]
              exact ⟨rfl, Arity.accepts_fixed_iff.mp hcount⟩
          | .fixedList kind arity =>
              rw [normalize_fixedList hvalue] at h
              rcases NativeValue.elements_of_toElements h with
                ⟨values, rfl, hcount⟩
              rw [Conforms]
              exact ⟨rfl, Arity.accepts_fixed_iff.mp hcount⟩
          | .list kind =>
              rw [normalize_list hvalue] at h
              rcases NativeValue.elements_of_toElements h with ⟨values, rfl, _⟩
              rw [Conforms]
          | .enumeration variants =>
              rw [normalize_enumeration hvalue] at h
              rcases NativeValue.declared_of_toVariant h with ⟨v, hv, rfl⟩
              exact ⟨v, hv, rfl⟩
          | .struct fields =>
              rcases normalize_struct hvalue h with ⟨values, rfl, hvalues⟩
              rw [Conforms]
              rcases hvalues with
                ⟨pairs, _, hvalues⟩ | ⟨items, _, hcount, hvalues⟩
              · exact conformEach_of_normalizeNamed fields hvalues
              · exact conformEach_of_normalizePositional fields hcount hvalues

theorem conformEach_of_normalizeNamed {config : Config} {owner : String}
    {pairs : List (String × NativeValue)} :
    forall (fields : List (Field Datatype))
      {values : List Instance}, normalizeNamed config owner pairs fields =
        .ok values ->
        ConformEach fields values
  | [], values, h => by
      rw [normalizeNamed] at h
      cases h
      rw [ConformEach]
      exact trivial
  | ⟨name, datatype⟩ :: rest, values, h => by
      rcases List.forall₂_cons_left_iff.mp (normalizeNamed_eq_ok_iff.mp h) with
        ⟨value, others, hvalue, hothers, rfl⟩
      rw [ConformEach]
      constructor
      · rcases readNamed_eq_ok_iff.mp hvalue with
          ⟨supplied, _, hsupplied⟩ | ⟨_, hnullable, rfl⟩
        · exact conforms_of_normalize datatype hsupplied
        · exact conforms_null_iff.mpr hnullable
      · exact conformEach_of_normalizeNamed rest
          (normalizeNamed_eq_ok_iff.mpr hothers)

theorem conformEach_of_normalizePositional {config : Config} :
    forall (fields : List (Field Datatype)) {items : List NativeValue}
      {values : List Instance},
      items.length = fields.length ->
      normalizePositional config fields items = .ok values ->
        ConformEach fields values
  | [], items, values, hcount, h => by
      cases h
      rw [ConformEach]
      exact trivial
  | ⟨name, datatype⟩ :: rest, items, values, hcount, h => by
      cases items with
      | nil => cases hcount
      | cons item items =>
          rw [normalizePositional, bind_eq_ok_iff] at h
          rcases h with ⟨value, hvalue, h⟩
          rw [bind_eq_ok_iff] at h
          rcases h with ⟨others, hothers, hvalues⟩
          rw [pure_eq_ok_iff.mp hvalues, ConformEach]
          constructor
          · exact conforms_of_normalize datatype (inField_eq_ok_iff.mp hvalue)
          · exact conformEach_of_normalizePositional rest
              (Nat.succ.inj hcount) hothers

end

/-- Every row is what the value in its place is normalized to. -/
def Normalized (config : Config) (d : Datatype) (values : List NativeValue)
    (rows : List Instance) : Prop :=
  List.Forall₂ (fun value row => d.normalize config value = .ok row) values rows

theorem Normalized.unique {config : Config} {d : Datatype}
    {values : List NativeValue} {rows others : List Instance}
    (h : d.Normalized config values rows)
    (hothers : d.Normalized config values others) : rows = others := by
  apply List.right_unique_forall₂' ?_ h hothers
  intro value row other hrow hother
  exact Except.ok.inj (hrow.symm.trans hother)

theorem exists_normalized_iff {config : Config} {d : Datatype}
    {values : List NativeValue} :
    (exists rows, d.Normalized config values rows) ↔
      forall value, value ∈ values ->
        exists row, d.normalize config value = .ok row :=
  exists_forall₂_iff

theorem Normalized.conforms {config : Config} {d : Datatype}
    {values : List NativeValue} {rows : List Instance}
    (h : d.Normalized config values rows) :
    forall row, row ∈ rows -> d.Conforms row := by
  induction h with
  | nil => exact nofun
  | cons hrow _ ih =>
      intro row hmem
      rcases List.mem_cons.mp hmem with rfl | hmem
      · exact conforms_of_normalize d hrow
      · exact ih row hmem

end Datatype
end Columnar
