import Columnar.Builtin.Components
import Columnar.Component.Archetype

/-!
# Built-in archetypes

A field holds one value for each row, and a field without values is unset.
-/

namespace Columnar
namespace Archetypes

open Components

structure ForceManyBody where
  enabled : List Enabled := []
  strength : List ForceStrength := []
deriving DecidableEq

namespace ForceManyBody

def archetypeName : String := "rerun.blueprint.archetypes.ForceManyBody"

instance : Archetype ForceManyBody where
  name := archetypeName
  slots := do
    let enabled <- Archetype.slot Enabled archetypeName "enabled"
    let strength <- Archetype.slot ForceStrength archetypeName "strength"
    return [enabled, strength]
  toBatches a b := do
    let enabled <- Archetype.fieldBatch archetypeName "enabled" a.enabled b
    let strength <- Archetype.fieldBatch archetypeName "strength" a.strength b
    return enabled ++ strength
  ofBatches batches := do
    let enabled <- Archetype.fieldValues Enabled archetypeName "enabled" batches
    let strength <- Archetype.fieldValues ForceStrength archetypeName
      "strength" batches
    return { enabled, strength }

end ForceManyBody

structure NearClipPlane where
  nearClipPlane : List Components.NearClipPlane := []
deriving DecidableEq

namespace NearClipPlane

def archetypeName : String := "rerun.blueprint.archetypes.NearClipPlane"

instance : Archetype NearClipPlane where
  name := archetypeName
  slots := do
    let slot <- Archetype.slot Components.NearClipPlane archetypeName
      "near_clip_plane"
    return [slot]
  toBatches a b :=
    Archetype.fieldBatch archetypeName "near_clip_plane" a.nearClipPlane b
  ofBatches batches := do
    let values <-
      Archetype.fieldValues Components.NearClipPlane archetypeName
        "near_clip_plane" batches
    return ⟨values⟩

end NearClipPlane
end Archetypes
end Columnar
