import Columnar.Builtin.Datatypes
import Columnar.Proofs.Array.Nested
import Columnar.Proofs.Normalize.Elements
import Columnar.Proofs.Storable.Faithful

/-!
# Values written element by element

Numbers, truth values and vectors hold a fixed number of elements of one kind
and write each of them as one scalar.  A type that does so is faithful as soon
as each of its scalars can be read as nothing but the element it was written
for.
-/

namespace Columnar

/-! ## Scalars -/

namespace Scalar

/-- By default the scalar is read as the element, and never as another one. -/
structure Spells (kind : ElementKind) (s : Scalar) (element : kind.Carrier) :
    Prop where
  coerce_eq : s.coerce {} kind = .ok element
  eq_of_coerce : forall {config : Config} {other : kind.Carrier},
    s.coerce config kind = .ok other -> other = element

theorem spells_f32 (value : Binary32) : Spells .f32 (.f32 value) value where
  coerce_eq := rfl
  eq_of_coerce := by
    intro config other h
    simp only [coerce, toF32, float?] at h
    split at h
    · cases h
    · cases h
      rfl

theorem spells_bool (value : Bool) : Spells .bool (.bool value) value where
  coerce_eq := rfl
  eq_of_coerce := by
    intro config other h
    cases h
    rfl

theorem coerce_u32 (config : Config) (value : UInt32) :
    (Scalar.u64 value.toUInt64).coerce config .u32 = .ok value := by
  have hlt : value.toUInt64.toNat < UInt32.size := by
    rw [UInt32.toNat_toUInt64]
    exact value.toNat_lt
  have hread : (Scalar.u64 value.toUInt64).toNatBelow .u32 UInt32.size =
      .ok value.toUInt64.toNat := if_pos hlt
  rw [coerce, hread, Except.map, UInt32.toNat_toUInt64, UInt32.ofNat_toNat]

theorem spells_u32 (value : UInt32) :
    Spells .u32 (.u64 value.toUInt64) value where
  coerce_eq := coerce_u32 {} value
  eq_of_coerce := by
    intro config other h
    rw [coerce_u32] at h
    cases h
    rfl

section

variable {kind : ElementKind} {scalars : List Scalar}
  {elements : List kind.Carrier}

theorem coerceAll_of_spells (h : List.Forall₂ (Spells kind) scalars elements) :
    coerceAll {} kind scalars = .ok elements :=
  coerceAll_eq_ok_iff.mpr (h.imp fun _ _ hs => hs.coerce_eq)

theorem eq_of_coerceAll (h : List.Forall₂ (Spells kind) scalars elements)
    {config : Config} {others : List kind.Carrier}
    (hothers : coerceAll config kind scalars = .ok others) :
    others = elements := by
  rw [coerceAll_eq_ok_iff] at hothers
  induction h generalizing others with
  | nil =>
      cases hothers
      rfl
  | cons hs _ ih =>
      cases hothers with
      | cons hother hrest => rw [hs.eq_of_coerce hother, ih hrest]

end

end Scalar

/-! ## Datatypes of a fixed number of elements -/

namespace Datatype.Plain

variable {kind : ElementKind} {count : Nat} {d : Datatype}

theorem aritiesFit (h : Plain kind (.fixed count) d)
    (hcount : count < wordLimit) :
    d.AritiesFit := by
  cases h with
  | primitive => exact aritiesFit_of_nil rfl
  | fixedList => exact aritiesFit_fixedList_iff.mpr hcount

theorem listTotals_eq (h : Plain kind (.fixed count) d) (rows : List Instance) :
    d.listTotals rows = [] := by
  cases h with
  | primitive => rw [listTotals]
  | fixedList => rw [listTotals]

theorem exists_run_of_conforms (h : Plain kind (.fixed count) d)
    (hpresent : d.nullable = false) {i : Instance} (hi : d.Conforms i) :
    exists values : List kind.Carrier, values.length = count ∧
      i = .elements ⟨kind, values⟩ := by
  have hfills : i.Fills kind (.fixed count) := by
    cases h with
    | primitive => exact (conforms_primitive_iff.mp hi).2
    | fixedList => exact (conforms_fixedList_iff.mp hi).2
  cases i with
  | null =>
      rw [conforms_null_iff, hpresent] at hi
      cases hi
  | elements data =>
      rcases data with ⟨stored, values⟩
      rcases hfills with ⟨rfl, hcount⟩
      exact ⟨values, Arity.accepts_fixed_iff.mp hcount, rfl⟩
  | struct values => exact hfills.elim

end Datatype.Plain

/-! ## Types -/

namespace Storable

/-- How a value is a run of elements, each written as one scalar. -/
structure Spelling (α : Type) [Storable α] (kind : ElementKind)
    (count : Nat) where
  run : α -> List kind.Carrier
  plain : Datatype.Plain kind (.fixed count) (datatype α)
  validate_eq : (datatype α).validate = .ok ()
  present : (datatype α).nullable = false
  count_lt : count < Datatype.wordLimit
  regular : forall value : α, exists shape,
    (toNative value).dimensions kind = .ok shape
  spells : forall value : α,
    List.Forall₂ (Scalar.Spells kind) (toNative value).scalars (run value)
  length_run : forall value : α, (run value).length = count
  ofInstance_eq : forall value :
    α, ofInstance (.elements ⟨kind, run value⟩) = .ok value
  exists_value : forall values : List kind.Carrier, values.length = count ->
    exists value : α, values = run value

namespace Spelling

variable {α : Type} [Storable α] {kind : ElementKind} {count : Nat}

theorem normalize_eq_toElements (h : Spelling α kind count) (config : Config)
    (value : α) :
    (datatype α).normalize config (toNative value) =
      (toNative value).toElements config kind (.fixed count) false := by
  apply h.plain.normalize_eq
  rcases h.regular value with ⟨shape, hshape⟩
  cases hnative : toNative value with
  | null =>
      rw [hnative, NativeValue.dimensions] at hshape
      cases hshape
  | _ => rfl

@[reducible] def faithful (h : Spelling α kind count) : Faithful α where
  instanceOf value := .elements ⟨kind, h.run value⟩
  validate_eq := h.validate_eq
  aritiesFit := h.plain.aritiesFit h.count_lt
  listTotals_eq := h.plain.listTotals_eq
  normalize_eq := by
    intro value
    have hlength : (toNative value).scalars.length = count :=
      (h.spells value).length_eq.trans (h.length_run value)
    rw [h.normalize_eq_toElements, NativeValue.toElements_eq_ok_iff]
    exact ⟨h.regular value, Arity.accepts_fixed_iff.mpr hlength, _,
      Scalar.coerceAll_of_spells (h.spells value), rfl⟩
  eq_instanceOf := by
    intro config value i hi
    rw [h.normalize_eq_toElements, NativeValue.toElements_eq_ok_iff] at hi
    rcases hi with ⟨_, _, values, hvalues, rfl⟩
    rw [Scalar.eq_of_coerceAll (h.spells value) hvalues]
  ofInstance_eq := h.ofInstance_eq
  exists_value := by
    intro i hi
    rcases h.plain.exists_run_of_conforms h.present hi with
      ⟨values, hlength, rfl⟩
    rcases h.exists_value values hlength with ⟨value, rfl⟩
    exact ⟨value, rfl⟩

def single (kind : ElementKind) (wrap : kind.Carrier -> α)
    (unwrap : α -> kind.Carrier) {name : String}
    {scalar : kind.Carrier -> Scalar}
    (hdatatype : datatype α = .primitive name kind)
    (hname : Text.isBlank name = false)
    (hnative : forall value : α, toNative value = .scalar
      (scalar (unwrap value)))
    (hspells : forall element, Scalar.Spells kind (scalar element) element)
    (hread : forall i : Instance, ofInstance i = (i.expectOne kind).map wrap)
    (hwrap : forall value, wrap (unwrap value) = value)
    (hunwrap : forall element, unwrap (wrap element) = element) :
    Spelling α kind 1 where
  run value := [unwrap value]
  plain := by
    rw [hdatatype]
    exact .primitive
  validate_eq := by
    rw [hdatatype]
    exact Datatype.validate_primitive hname
  present := by
    rw [hdatatype]
    rfl
  count_lt := by decide
  regular value := by
    rw [hnative, NativeValue.dimensions]
    exact ⟨[], rfl⟩
  spells value := by
    rw [hnative, NativeValue.scalars]
    exact .cons (hspells _) .nil
  length_run _ := rfl
  ofInstance_eq value := by
    have hone : (Instance.one kind (unwrap value)).expectOne kind =
        .ok (unwrap value) := by
      simp [Instance.expectOne, Instance.single?, Instance.values?,
        Instance.elements?, Instance.one, Elements.as?]
    have hmap := hread (.one kind (unwrap value))
    rw [hone, Except.map, hwrap] at hmap
    exact hmap
  exists_value values hlength := by
    rcases List.length_eq_one_iff.mp hlength with ⟨element, rfl⟩
    exact ⟨wrap element, by rw [hunwrap]⟩

end Spelling

/-! ## Built-in numbers and vectors -/

open Datatypes

private theorem expectOne_eq_map_id {kind : ElementKind} (i : Instance) :
    i.expectOne kind = (i.expectOne kind).map id := by
  rw [Except.map_id, id]

instance : Faithful Binary32 :=
  (Spelling.single .f32 id id rfl rfl (fun _ => rfl) Scalar.spells_f32
    expectOne_eq_map_id (fun _ => rfl) (fun _ => rfl)).faithful

instance : Faithful Bool :=
  (Spelling.single .bool id id rfl rfl (fun _ => rfl) Scalar.spells_bool
    expectOne_eq_map_id (fun _ => rfl) (fun _ => rfl)).faithful

instance : Faithful UInt32 :=
  (Spelling.single .u32 id id rfl rfl (fun _ => rfl) Scalar.spells_u32
    expectOne_eq_map_id (fun _ => rfl) (fun _ => rfl)).faithful

instance : Faithful Angle :=
  (Spelling.single .f32 Angle.mk Angle.radians rfl rfl (fun _ => rfl)
    Scalar.spells_f32 (fun _ => rfl) (fun _ => rfl) (fun _ => rfl)).faithful

namespace Vec

variable {n : Nat}

theorem toNat_arity (hn : n < Datatype.wordLimit) :
    (UInt32.ofNat n).toNat = n := by
  apply UInt32.toNat_ofNat_of_lt'
  exact Nat.lt_trans hn
    (Nat.pow_lt_pow_right Nat.one_lt_two (Nat.lt_succ_self 31))

theorem isBlank_name (n : Nat) :
    Text.isBlank ("rerun.datatypes.Vec" ++ toString n ++ "D") = false := by
  have hprefix : Text.isBlank "rerun.datatypes.Vec" = false := rfl
  rw [Text.isBlank] at hprefix ⊢
  rw [String.toList_append, String.toList_append, List.all_append,
    List.all_append, hprefix]
  rfl

def spelling (hpos : 0 < n) (hn : n < Datatype.wordLimit) :
    Spelling (Vec n) .f32 n where
  run := Vec.coords
  plain := by
    have hplain : Datatype.Plain .f32 (.fixed (UInt32.ofNat n).toNat)
        (datatype (Vec n)) :=
      .fixedList
    rw [toNat_arity hn] at hplain
    exact hplain
  validate_eq := by
    apply Datatype.validate_fixedList (isBlank_name n)
    intro hzero
    have harity := toNat_arity hn
    rw [hzero] at harity
    exact absurd harity (Nat.ne_of_lt hpos)
  present := rfl
  count_lt := hn
  regular value := by
    rcases value with ⟨coords, hlength⟩
    cases coords with
    | nil => exact absurd hlength (Nat.ne_of_lt hpos)
    | cons first rest =>
        have hitems : forall item, item ∈ (first :: rest).map NativeValue.f32 ->
            item.dimensions .f32 = .ok [] := by
          intro item hitem
          rcases List.mem_map.mp hitem with ⟨coord, _, rfl⟩
          rw [NativeValue.f32, NativeValue.dimensions]
        exact ⟨_, NativeValue.dimensions_sequence hitems⟩
  spells value := by
    have hscalars : (toNative value).scalars = value.coords.map Scalar.f32 := by
      show (NativeValue.sequence (value.coords.map NativeValue.f32)).scalars = _
      rw [NativeValue.scalars_sequence, List.flatMap_map]
      exact List.flatMap_pure_eq_map _ _
    rw [hscalars, List.forall₂_map_left_iff, List.forall₂_same]
    intro coord _
    exact Scalar.spells_f32 coord
  length_run := Vec.length_eq
  ofInstance_eq value := by
    simp [ofInstance, Instance.values?, Instance.elements?, Elements.as?,
      value.length_eq]
  exists_value values hlength := ⟨⟨values, hlength⟩, rfl⟩

instance : Faithful Vec2D := (spelling (by decide) (by decide)).faithful

instance : Faithful Vec3D := (spelling (by decide) (by decide)).faithful

instance : Faithful Vec4D := (spelling (by decide) (by decide)).faithful

end Vec

end Storable
end Columnar
