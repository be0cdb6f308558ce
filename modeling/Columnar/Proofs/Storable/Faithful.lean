import Columnar.Component.Storable
import Columnar.Proofs.Codec.RoundTrip
import Columnar.Proofs.Normalize.Blame

/-!
# Faithful storage

A storable type has three views: its datatype, the native values it writes and
the instances it reads.  They are faithful to each other when every value has an
instance of its own and every instance of the datatype is that of a value.  What
is written then reads back, from instances and from columns.
-/

namespace Columnar
namespace Storable

/--
Values of the type and instances of its datatype stand for each other, one to
one.
-/
class Faithful (α : Type) [Storable α] where
  /-- The instance that stands for a value. -/
  instanceOf : α -> Instance
  validate_eq : (datatype α).validate = .ok ()
  aritiesFit : (datatype α).AritiesFit
  /-- No instance holds a list, whose length nothing would bound. -/
  listTotals_eq : forall rows, (datatype α).listTotals rows = []
  /-- By default every value can be written. -/
  normalize_eq : forall value : α,
    (datatype α).normalize {} (toNative value) = .ok (instanceOf value)
  /-- Other configurations may refuse a value, but make nothing else of it. -/
  eq_instanceOf : forall {config : Config} {value : α} {i : Instance},
    (datatype α).normalize config (toNative value) = .ok i ->
      i = instanceOf value
  ofInstance_eq : forall value : α, ofInstance (instanceOf value) = .ok value
  exists_value : forall {i : Instance}, (datatype α).Conforms i ->
    exists value : α, i = instanceOf value

section

variable {α : Type} [Storable α] [Faithful α]

open Faithful

theorem conforms_instanceOf (value : α) :
    (datatype α).Conforms (instanceOf value) :=
  Datatype.conforms_of_normalize _ (normalize_eq value)

theorem normalize_of_ofNative {native : NativeValue} {e : ConversionError}
    (h : ofNative α native = .error e) :
    (datatype α).normalize {} native = .error e := by
  cases hnormalize : (datatype α).normalize {} native with
  | error fault =>
      simp only [ofNative, hnormalize, bind, Except.bind] at h
      cases h
      rfl
  | ok i =>
      rcases exists_value (Datatype.conforms_of_normalize _ hnormalize) with
        ⟨value, rfl⟩
      simp only [ofNative, hnormalize, bind, Except.bind, ofInstance_eq] at h
      cases h

theorem eq_map_instanceOf {config : Config} {values : List α}
    {rows : List Instance}
    (h : (datatype α).Normalized config (values.map toNative) rows) :
    rows = values.map instanceOf := by
  rw [Datatype.Normalized, List.forall₂_map_left_iff] at h
  rw [eq_comm, ← List.forall₂_eq_eq_eq, List.forall₂_map_left_iff]
  exact h.imp fun _ _ hrow => (eq_instanceOf hrow).symm

/-! ## Columns -/

theorem encodable_instances (values : List α) :
    (datatype α).Encodable (values.map instanceOf) where
  conforms := by
    intro row hrow
    rcases List.mem_map.mp hrow with ⟨value, _, rfl⟩
    exact conforms_instanceOf value
  aritiesFit := aritiesFit
  totalsFit := Datatype.totalsFit_of_nil (listTotals_eq _)

theorem toColumn_eq (values : List α) :
    toColumn α values = .ok ((datatype α).layout (values.map instanceOf)) := by
  have hrows : convertEach
        (fun value => (datatype α).normalize {} (toNative value)) 0 values =
      .ok (values.map instanceOf) := by
    rw [convertEach_eq_ok_iff, List.forall₂_map_right_iff, List.forall₂_same]
    intro value _
    exact normalize_eq value
  rw [toColumn, hrows]
  exact Datatype.encode_of_encodable validate_eq (encodable_instances values)

theorem ofInstances_map (values : List α) :
    ofInstances α (values.map instanceOf) = .ok values := by
  induction values with
  | nil => rfl
  | cons value rest ih =>
      rw [List.map_cons, ofInstances, ofInstance_eq, ih]
      rfl

theorem ofColumn_of_decode {column : Column} {values : List α}
    (h : (datatype α).decode column = .ok (values.map instanceOf)) :
    ofColumn α column = .ok values := by
  rw [ofColumn, h]
  exact ofInstances_map values

theorem ofColumn_layout (values : List α) :
    ofColumn α ((datatype α).layout (values.map instanceOf)) = .ok values :=
  ofColumn_of_decode
    (Datatype.decode_layout validate_eq (encodable_instances values))

end

end Storable
end Columnar
