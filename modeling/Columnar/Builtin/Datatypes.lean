import Columnar.Component.Storable

/-!
# Built-in datatypes

Single numbers and truth values, vectors of floats, angles, and rotations about
an axis.
-/

namespace Columnar

def Instance.expectOne (kind : ElementKind) (i : Instance) :
    Except DecodeError kind.Carrier :=
  match i.single? kind with
  | some value => .ok value
  | none => .error (.unexpectedShape ("one " ++ kind.label ++ " element"))

namespace Datatypes

/-! ## Single values -/

instance : Storable Binary32 where
  datatype := .primitive "rerun.datatypes.Float32" .f32
  toNative := .f32
  ofInstance := Instance.expectOne .f32

instance : Storable Bool where
  datatype := .primitive "rerun.datatypes.Bool" .bool
  toNative := .bool
  ofInstance := Instance.expectOne .bool

instance : Storable UInt32 where
  datatype := .primitive "rerun.datatypes.UInt32" .u32
  toNative value := .u64 value.toUInt64
  ofInstance := Instance.expectOne .u32

/-! ## Vectors -/

structure Vec (n : Nat) where
  coords : List Binary32
  length_eq : coords.length = n
deriving DecidableEq

abbrev Vec2D := Vec 2
abbrev Vec3D := Vec 3
abbrev Vec4D := Vec 4

namespace Vec

def zero (n : Nat) : Vec n := ⟨List.replicate n .zero, List.length_replicate⟩

instance : Storable (Vec n) where
  datatype := .fixedList ("rerun.datatypes.Vec" ++ toString n ++ "D") .f32
    (UInt32.ofNat n)
  toNative v := .sequence (v.coords.map .f32)
  ofInstance i :=
    match i.values? .f32 with
    | some values =>
        if h : values.length = n then .ok ⟨values, h⟩
        else .error (.unexpectedShape "a fixed number of f32 elements")
    | none => .error (.unexpectedShape "a fixed number of f32 elements")

end Vec

def Vec2D.mk (x y : Binary32) : Vec2D := ⟨[x, y], rfl⟩

def Vec3D.mk (x y z : Binary32) : Vec3D := ⟨[x, y, z], rfl⟩

def Vec4D.mk (x y z w : Binary32) : Vec4D := ⟨[x, y, z, w], rfl⟩

namespace Vec4D

def x (v : Vec4D) : Binary32 := v.coords.get ⟨0, by simp [v.length_eq]⟩
def y (v : Vec4D) : Binary32 := v.coords.get ⟨1, by simp [v.length_eq]⟩
def z (v : Vec4D) : Binary32 := v.coords.get ⟨2, by simp [v.length_eq]⟩
def w (v : Vec4D) : Binary32 := v.coords.get ⟨3, by simp [v.length_eq]⟩

end Vec4D

/-! ## Angles and rotations -/

/-- An angle, kept in radians. -/
structure Angle where
  radians : Binary32
deriving DecidableEq

namespace Angle

/-- A 180th of the float nearest to pi. -/
def radiansPerDegree : Binary32 := ⟨0x3c8efa35⟩

/-- The float nearest to 180 divided by pi. -/
def degreesPerRadian : Binary32 := ⟨0x42652ee1⟩

def ofDegrees (degrees : Binary32) : Angle := ⟨degrees.mul radiansPerDegree⟩

def degrees (a : Angle) : Binary32 := a.radians.mul degreesPerRadian

instance : Storable Angle where
  datatype := .primitive "rerun.datatypes.Angle" .f32
  toNative a := .f32 a.radians
  ofInstance i := (i.expectOne .f32).map Angle.mk

end Angle

/--
A rotation about an axis, which need not have length one; a zero axis turns
nothing.
-/
structure RotationAxisAngle where
  axis : Vec3D
  angle : Angle
deriving DecidableEq

instance : Storable RotationAxisAngle where
  datatype :=
    .struct "rerun.datatypes.RotationAxisAngle"
      [⟨"axis", Storable.datatype Vec3D⟩, ⟨"angle", Storable.datatype Angle⟩]
  toNative r :=
    .record [("axis", Storable.toNative r.axis),
      ("angle", Storable.toNative r.angle)]
  ofInstance i :=
    match i.fields? with
    | some [axis, angle] => do
        let axis <- inContext "axis" (Storable.ofInstance axis)
        let angle <- inContext "angle" (Storable.ofInstance angle)
        return ⟨axis, angle⟩
    | _ => .error (.unexpectedShape "struct with axis and angle")

end Datatypes
end Columnar
