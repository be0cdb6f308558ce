import Columnar.Builtin.Colormap

/-!
# Built-in components

All but the colormap are named uses of a built-in datatype and convert exactly
as it does.
-/

namespace Columnar
namespace Components

open Datatypes

@[reducible] def wrapping (inner : Type) [Storable inner] (wrap : inner -> α)
    (unwrap : α -> inner) (name : String) : Component α where
  datatype := Storable.datatype inner
  toNative value := Storable.toNative (unwrap value)
  ofInstance i := (Storable.ofInstance i).map wrap
  name := name

structure ForceStrength where
  value : Binary32
deriving DecidableEq

instance : Component ForceStrength :=
  wrapping Binary32 .mk ForceStrength.value
    "rerun.blueprint.components.ForceStrength"

structure ForceIterations where
  value : UInt32
deriving DecidableEq

instance : Component ForceIterations :=
  wrapping UInt32 .mk ForceIterations.value
    "rerun.blueprint.components.ForceIterations"

structure Enabled where
  value : Bool
deriving DecidableEq

instance : Component Enabled :=
  wrapping Bool .mk Enabled.value "rerun.blueprint.components.Enabled"

structure Length where
  value : Binary32
deriving DecidableEq

instance : Component Length :=
  wrapping Binary32 .mk Length.value "rerun.components.Length"

structure NearClipPlane where
  value : Binary32
deriving DecidableEq

instance : Component NearClipPlane :=
  wrapping Binary32 .mk NearClipPlane.value
    "rerun.blueprint.components.NearClipPlane"

structure Displacement where
  value : Vec3D
deriving DecidableEq

instance : Component Displacement :=
  wrapping Vec3D .mk Displacement.value "rerun.components.Translation3D"

/-! ## All of them -/

def builtin : Provider where
  name := "strata-types"
  version := 1
  components :=
    [Component.definition ForceStrength, Component.definition ForceIterations,
      Component.definition Enabled, Component.definition Length,
      Component.definition NearClipPlane, Component.definition Displacement,
      Component.definition Colormap]

def registerBuiltin (r : Registry) :
    Except RegistryError (List Handle) × Registry :=
  r.load builtin

def extensions : Except DuplicateExtension ExtensionTable :=
  ExtensionTable.empty.register (Component.name Colormap) Colormap.extension

end Components
end Columnar
