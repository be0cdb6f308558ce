import Columnar.Builtin.Components
import Columnar.Proofs.Storable.Runs

/-!
# Built-in types

The types that come with the library are faithful: numbers and vectors because
their elements are, the rotation because its two fields are, the colormap
variant by variant, and every type that wraps another one because that one is.
-/

namespace Columnar
namespace Storable

open Faithful Datatypes Components

/-! ## Rotations -/

theorem normalize_rotation_eq_ok_iff {config : Config} {r : RotationAxisAngle}
    {i : Instance} :
    (datatype RotationAxisAngle).normalize config (toNative r) = .ok i ↔
      exists axis angle, (datatype Vec3D).normalize config (toNative r.axis) =
        .ok axis ∧
        (datatype Angle).normalize config (toNative r.angle) = .ok angle ∧
          i = .struct [axis, angle] := by
  have hrecord : (datatype RotationAxisAngle).normalize config (toNative r) =
      (Datatype.normalizeNamed config "rerun.datatypes.RotationAxisAngle"
        [("axis", toNative r.axis), ("angle", toNative r.angle)]
        [⟨"axis", datatype Vec3D⟩, ⟨"angle", datatype Angle⟩]).map
          .struct := rfl
  have haxis : NativeValue.named?
    [("axis", toNative r.axis), ("angle", toNative r.angle)]
      "axis" = some (toNative r.axis) := rfl
  have hangle : NativeValue.named?
    [("axis", toNative r.axis), ("angle", toNative r.angle)]
      "angle" = some (toNative r.angle) := rfl
  rw [hrecord, map_eq_ok_iff]
  simp only [Datatype.normalizeNamed_eq_ok_iff, List.forall₂_cons_left_iff,
    List.forall₂_nil_left_iff, haxis, hangle, Datatype.readNamed,
    inField_eq_ok_iff]
  constructor
  · intro h
    rcases h with ⟨_, ⟨axis, _, haxis, ⟨angle, _, hangle, rfl, rfl⟩, rfl⟩, rfl⟩
    exact ⟨axis, angle, haxis, hangle, rfl⟩
  · intro h
    rcases h with ⟨axis, angle, haxis, hangle, rfl⟩
    exact ⟨_, ⟨axis, _, haxis, ⟨angle, [], hangle, rfl, rfl⟩, rfl⟩, rfl⟩

theorem conforms_rotation_iff {i : Instance} :
    (datatype RotationAxisAngle).Conforms i ↔
      exists axis angle, (datatype Vec3D).Conforms axis ∧
        (datatype Angle).Conforms angle ∧
        i = .struct [axis, angle] := by
  constructor
  · intro h
    cases i with
    | null => cases h
    | elements data => exact h.elim
    | struct values =>
        have heach : Datatype.ConformEach _ values :=
          Datatype.conforms_struct_iff.mp h
        match values with
        | [axis, angle] => exact ⟨axis, angle, heach.1, heach.2.1, rfl⟩
        | [] => exact heach.elim
        | [_] => exact heach.2.elim
        | _ :: _ :: _ :: _ => exact heach.2.2.elim
  · intro h
    rcases h with ⟨axis, angle, haxis, hangle, rfl⟩
    exact ⟨haxis, hangle, trivial⟩

instance : Faithful RotationAxisAngle where
  instanceOf r := .struct [instanceOf r.axis, instanceOf r.angle]
  validate_eq := by decide
  aritiesFit := by decide
  listTotals_eq rows := by
    rfl
  normalize_eq r := normalize_rotation_eq_ok_iff.mpr
    ⟨_, _, normalize_eq r.axis, normalize_eq r.angle, rfl⟩
  eq_instanceOf := by
    intro config r i h
    rcases normalize_rotation_eq_ok_iff.mp h with
      ⟨axis, angle, haxis, hangle, rfl⟩
    rw [eq_instanceOf haxis, eq_instanceOf hangle]
  ofInstance_eq r := by
    show (do
      let axis <- inContext "axis" (ofInstance (instanceOf r.axis))
      let angle <- inContext "angle" (ofInstance (instanceOf r.angle))
      return (⟨axis, angle⟩ : RotationAxisAngle)) = _
    rw [ofInstance_eq, ofInstance_eq]
    rfl
  exists_value := by
    intro i hi
    rcases conforms_rotation_iff.mp hi with ⟨axis, angle, haxis, hangle, rfl⟩
    rcases exists_value (α := Vec3D) haxis with ⟨axis, rfl⟩
    rcases exists_value (α := Angle) hangle with ⟨angle, rfl⟩
    exact ⟨⟨axis, angle⟩, rfl⟩

/-! ## Colormaps -/

instance : Faithful Colormap where
  instanceOf c := .one .u8 c.discriminant
  validate_eq := by decide
  aritiesFit := by decide
  listTotals_eq rows := rfl
  normalize_eq c := by
    cases c <;> rfl
  eq_instanceOf := by
    intro config c i h
    cases c <;> (cases h; rfl)
  ofInstance_eq c := by
    cases c <;> rfl
  exists_value := by
    intro i hi
    cases i with
    | null => cases hi
    | struct values => cases hi
    | elements data =>
        rcases hi with ⟨v, hv, rfl⟩
        rcases List.mem_map.mp hv with ⟨c, _, rfl⟩
        exact ⟨c, rfl⟩

/-! ## Types that wrap another one -/

@[reducible] def Faithful.wrapping {inner : Type} [Storable inner]
    [Faithful inner] {wrap : inner -> α} {unwrap : α -> inner} {name : String}
    (hwrap : forall value, wrap (unwrap value) = value)
    (hunwrap : forall value, unwrap (wrap value) = value) :
    @Faithful α (Components.wrapping inner wrap unwrap name).toStorable :=
  letI := (Components.wrapping inner wrap unwrap name).toStorable
  { instanceOf := fun value => instanceOf (unwrap value)
    validate_eq := validate_eq (α := inner)
    aritiesFit := aritiesFit (α := inner)
    listTotals_eq := listTotals_eq (α := inner)
    normalize_eq := fun value => normalize_eq (unwrap value)
    eq_instanceOf := fun h => eq_instanceOf (α := inner) h
    ofInstance_eq := by
      intro value
      show (ofInstance (instanceOf (unwrap value))).map wrap = .ok value
      rw [ofInstance_eq, Except.map, hwrap]
    exists_value := by
      intro i hi
      rcases exists_value (α := inner) hi with ⟨value, rfl⟩
      exact ⟨wrap value, by rw [hunwrap]⟩ }

instance : Faithful ForceStrength :=
  Faithful.wrapping (fun _ => rfl) (fun _ => rfl)

instance : Faithful ForceIterations :=
  Faithful.wrapping (fun _ => rfl) (fun _ => rfl)

instance : Faithful Enabled := Faithful.wrapping (fun _ => rfl) (fun _ => rfl)

instance : Faithful Length := Faithful.wrapping (fun _ => rfl) (fun _ => rfl)

instance : Faithful NearClipPlane :=
  Faithful.wrapping (fun _ => rfl) (fun _ => rfl)

instance : Faithful Displacement :=
  Faithful.wrapping (fun _ => rfl) (fun _ => rfl)

end Storable

/-! ## All of them -/

namespace Component

open Components

inductive Builtin : (α : Type) -> [Component α] -> Prop
  | forceStrength : Builtin ForceStrength
  | forceIterations : Builtin ForceIterations
  | enabled : Builtin Enabled
  | length : Builtin Length
  | nearClipPlane : Builtin NearClipPlane
  | displacement : Builtin Displacement
  | colormap : Builtin Colormap

end Component

namespace Storable

open Faithful Datatypes

inductive Builtin : (α : Type) -> [Storable α] -> Prop
  | float32 : Builtin Binary32
  | bool : Builtin Bool
  | uint32 : Builtin UInt32
  | vec2D : Builtin Vec2D
  | vec3D : Builtin Vec3D
  | vec4D : Builtin Vec4D
  | angle : Builtin Angle
  | rotation : Builtin RotationAxisAngle
  | component {α : Type} [Component α] : Component.Builtin α -> Builtin α

theorem Builtin.faithful {α : Type} [Storable α] (h : Builtin α) :
    Nonempty (Faithful α) := by
  cases h with
  | component hcomponent => cases hcomponent <;> exact ⟨inferInstance⟩
  | _ => exact ⟨inferInstance⟩

/--
Every instance of a built-in datatype is read, every value is written, and the
one undoes the other.  So no native value that is normalized fails to be read,
and columns give back the values they were made of.
-/
theorem builtin_views_agree {α : Type} [Storable α] (h : Builtin α) :
    (forall i, (datatype α).Conforms i -> exists value : α,
      ofInstance i = .ok value ∧
        (datatype α).normalize {} (toNative value) = .ok i) ∧
    (forall value : α, exists i,
      (datatype α).normalize {} (toNative value) = .ok i ∧
        ofInstance i = .ok value) ∧
    (forall native e, ofNative α native = .error e ->
      forall name source, e.root ≠ .decode name source) ∧
    (forall values : List α, exists column,
      toColumn α values = .ok column ∧ ofColumn α column = .ok values) := by
  rcases h.faithful with ⟨hfaithful⟩
  refine ⟨?_, ?_, ?_, ?_⟩
  · intro i hi
    rcases exists_value hi with ⟨value, rfl⟩
    exact ⟨value, ofInstance_eq value, normalize_eq value⟩
  · intro value
    exact ⟨instanceOf value, normalize_eq value, ofInstance_eq value⟩
  · intro native e hnative
    exact Datatype.root_ne_decode_of_normalize (normalize_of_ofNative hnative)
  · intro values
    exact ⟨_, toColumn_eq values, ofColumn_layout values⟩

namespace Sample

def quarterTurn : RotationAxisAngle where
  axis := .mk .zero .zero ⟨0x3f800000⟩
  angle := ⟨⟨0x3fc90fdb⟩⟩

def quarterTurnInstance : Instance :=
  .struct [.elements ⟨.f32, quarterTurn.axis.coords⟩,
    .one .f32 quarterTurn.angle.radians]

end Sample

open Sample in
theorem builtin_views_agree_quarterTurn :
    (exists value : RotationAxisAngle,
      ofInstance quarterTurnInstance = .ok value ∧
      (datatype RotationAxisAngle).normalize {}
        (toNative value) = .ok quarterTurnInstance) ∧
    exists column, toColumn RotationAxisAngle [quarterTurn, quarterTurn] =
      .ok column ∧
      ofColumn RotationAxisAngle column = .ok [quarterTurn, quarterTurn] := by
  rcases builtin_views_agree .rotation with ⟨hread, _, _, hcolumns⟩
  exact ⟨hread quarterTurnInstance (by decide), hcolumns _⟩

end Storable
end Columnar
