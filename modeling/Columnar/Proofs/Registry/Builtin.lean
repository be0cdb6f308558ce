import Columnar.Proofs.Registry.Providers
import Columnar.Proofs.Storable.Builtin

/-!
# Registries with the built-in components

Once the built-in components have been registered they stay under their names,
whatever the registry held before and whatever is registered later.
-/

namespace Columnar
namespace Registry

open Components

/--
The built-in components were registered at some time, and without an error.
-/
inductive WithBuiltin : Registry -> Prop
  | installed {before after : Registry} {handles : List Handle} :
      before.Reachable ->
      registerBuiltin before = (.ok handles, after) -> WithBuiltin after
  | register {r : Registry} (name : String) (datatype : Datatype) :
      WithBuiltin r -> WithBuiltin (r.register name datatype).2
  | load {r : Registry} (p : Provider) :
      WithBuiltin r -> WithBuiltin (r.load p).2

/-! ## What is registered stays -/

theorem find?_after_of_some {r : Registry} {name : String} {handle : Handle}
    (h : r.handles.find? name = some handle)
    (calls : List (ComponentDef Datatype)) :
    (r.after calls).handles.find? name = some handle := by
  rw [find?_after, h, Option.some_or]

theorem find?_registerEach_of_some {r : Registry} {name : String}
    {handle : Handle} (h : r.handles.find? name = some handle)
    (calls : List (ComponentDef Datatype)) :
    (r.registerEach calls).2.handles.find? name = some handle := by
  have hloaded := loaded_registerEach r calls
  generalize r.registerEach calls = outcome at hloaded ⊢
  cases hloaded with
  | all _ => exact find?_after_of_some h calls
  | @stops earlier _ _ _ _ _ _ _ => exact find?_after_of_some h earlier

/-! ## The built-in components -/

theorem descriptor_eq {α : Type} [Component α]
    (hname : ComponentName.fault? (Component.name α) = none) :
    Component.descriptor α = .ok (.bare ⟨Component.name α⟩) := by
  rw [Component.descriptor, Descriptor.parse,
    parseName_eq_ok_iff.mpr ⟨hname, rfl⟩]
  rfl

theorem definition_mem_builtin {α : Type} [Component α]
    (h : Component.Builtin α) :
    Component.definition α ∈ builtin.components := by
  cases h <;> simp [builtin]

theorem forall_mem_builtin {P : ComponentDef Datatype -> Prop}
    (h : forall (α : Type) [Component α], Component.Builtin α ->
      P (Component.definition α)) :
    forall component, component ∈ builtin.components -> P component := by
  simp only [builtin, List.forall_mem_cons, List.not_mem_nil, false_implies,
    implies_true, and_true]
  exact ⟨h _ .forceStrength, h _ .forceIterations, h _ .enabled, h _ .length,
    h _ .nearClipPlane, h _ .displacement, h _ .colormap⟩

theorem validate_builtin : forall component, component ∈ builtin.components ->
    component.datatype.validate = .ok () := by
  apply forall_mem_builtin
  intro α _ hα
  rcases (Storable.Builtin.component hα).faithful with ⟨hfaithful⟩
  exact Storable.Faithful.validate_eq

theorem admits_builtin : empty.Admits builtin.components where
  named := by
    intro component hcomponent
    apply ComponentName.exists_parse_iff.mpr
    revert component
    decide
  among := by
    intro component hcomponent other hother hname
    have hnames : (builtin.components.map ComponentDef.name).Nodup := by
      decide
    rw [List.inj_on_of_nodup_map hnames hcomponent hother hname]
  against := by
    intro component _ existing hexisting
    cases hexisting

theorem descriptor_builtin {α : Type} [Component α] (hα : Component.Builtin α) :
    Component.descriptor α = .ok (.bare ⟨Component.name α⟩) := by
  have hname : exists name, ComponentName.parse (Component.name α) = .ok name :=
    admits_builtin.named (Component.definition α) (definition_mem_builtin hα)
  exact descriptor_eq (ComponentName.exists_parse_iff.mp hname)

namespace WithBuiltin

variable {r : Registry}

theorem reachable (h : r.WithBuiltin) : r.Reachable := by
  induction h with
  | @installed before after _ hr hload =>
      have hafter : (before.load builtin).2 = after := congrArg Prod.snd hload
      rw [← hafter]
      exact .load builtin hr
  | register name datatype _ ih => exact .register name datatype ih
  | load p _ ih => exact .load p ih

theorem handle_eq (h : r.WithBuiltin) {α : Type} [Component α]
    (hα : Component.Builtin α) :
    r.handle (Component.name α) = .ok (handleOf (Component.definition α)) := by
  rw [handle_eq_ok_iff]
  induction h with
  | @installed before after handles hr hload =>
      have hall : before.registerEach builtin.components =
        (.ok handles, after) := hload
      have hfound := find?_registerEach hr (congrArg Prod.fst hall)
        (definition_mem_builtin hα)
      rw [hall] at hfound
      exact hfound
  | register name datatype _ ih =>
      exact find?_after_of_some ih [⟨name, datatype⟩]
  | load p _ ih => exact find?_registerEach_of_some ih p.components

end WithBuiltin

/-! ## A sample -/

namespace Sample

/--
The built-in components and nothing else; irreducible, lest identifiers be
computed.
-/
@[irreducible] def builtinRegistry : Registry := empty.after builtin.components

theorem withBuiltin_builtinRegistry : builtinRegistry.WithBuiltin := by
  have hload : (empty.registerEach builtin.components).1 =
      .ok (builtin.components.map handleOf) :=
    (registerEach_eq_ok_iff .empty validate_builtin).mpr ⟨admits_builtin, rfl⟩
  rw [builtinRegistry]
  exact .installed .empty
    (registerEach_of_answered (fst_registerEach_eq_ok_iff.mp hload))

end Sample

end Registry
end Columnar
