import Columnar.Proofs.Batch.Building
import Columnar.Proofs.Registry.Builtin

/-!
# Two ways to a column

The values of a component become a column in two ways: straight by its datatype,
or as a batch, by way of a registry, a configuration and an extension.  Where
these add nothing of their own, both ways end alike, with the same column or the
same error.
-/

namespace Columnar

theorem convertEach_map (convert : β -> Except ConversionError γ) (f : α -> β)
    (index : Nat) (xs : List α) :
    convertEach convert index (xs.map f) =
      convertEach (fun x => convert (f x)) index xs := by
  induction xs generalizing index with
  | nil => rfl
  | cons x rest ih => rw [List.map_cons, convertEach, convertEach, ih]

/-! ## Extensions that stand aside -/

/--
The extension leaves what the type writes to the default conversion, and takes
any batch.
-/
structure Extension.StandsAside (e : Extension) (α : Type) [Storable α] :
    Prop where
  normalize_eq : forall (config : Config) (d : Datatype) (value : α),
    e.normalize config d (Storable.toNative value) = none
  validate_eq : forall rows : List Instance, e.validate rows = .ok ()

theorem Components.Colormap.extension_standsAside :
    extension.StandsAside Colormap where
  normalize_eq _ _ _ := rfl
  validate_eq _ := rfl

namespace BatchBuilder

/-- Whatever extension there is for a component stands aside. -/
def Unextended (b : BatchBuilder) (α : Type) [Component α] : Prop :=
  forall e, b.extension? (Component.name α) = some e -> e.StandsAside α

variable {α : Type} [Component α] {b : BatchBuilder}

theorem unextended_of_none (h : b.extension? (Component.name α) = none) :
    b.Unextended α := by
  intro e he
  rw [h] at he
  cases he

theorem extension?_builtin {table : ExtensionTable}
    (htable : Components.extensions = .ok table)
    (hb : b.extensions = some table) (component : String) :
    b.extension? component =
      if component = Component.name Components.Colormap then
        some Components.Colormap.extension
      else none := by
  have hentries : table =
      ⟨NameMap.empty.insert (Component.name Components.Colormap)
        Components.Colormap.extension⟩ :=
    (Except.ok.inj htable).symm
  rw [extension?, hb, Option.bind_some, hentries, ExtensionTable.find?,
    NameMap.find?_insert, NameMap.find?_empty]

theorem unextended_of_builtin (hα : Component.Builtin α)
    {table : ExtensionTable} (htable : Components.extensions = .ok table)
    (hb : b.extensions = some table) :
    b.Unextended α := by
  intro e he
  rw [extension?_builtin htable hb] at he
  split at he
  · next hname =>
      cases he
      cases hα with
      | colormap => exact Components.Colormap.extension_standsAside
      | _ => exact absurd hname (by decide)
  · cases he

theorem instanceOf_of_unextended (h : b.Unextended α) (d : Datatype)
    (value : α) :
    b.instanceOf (b.extension? (Component.name α)) d (Storable.toNative value) =
      d.normalize b.config (Storable.toNative value) := by
  cases he : b.extension? (Component.name α) with
  | none => rfl
  | some e => rw [instanceOf, Option.bind_some, (h e he).normalize_eq]

theorem encodeChecked_of_unextended (h : b.Unextended α) {d : Datatype}
    {rows : List Instance} (hrows : forall row, row ∈ rows -> d.Conforms row) :
    encodeChecked (b.extension? (Component.name α)) d rows = d.encode rows := by
  rw [encodeChecked, Datatype.checkCounts_of_conforms hrows]
  cases he : b.extension? (Component.name α) with
  | none => rfl
  | some e =>
      simp only [(h e he).validate_eq]
      rfl

end BatchBuilder

/-! ## Both ways -/

namespace Component

open BatchBuilder (converted)

variable {α : Type} [Component α] {b : BatchBuilder}

theorem descriptor_of_handle (hreachable : b.registry.Reachable)
    {handle : Handle} (hhandle : b.registry.handle (name α) = .ok handle) :
    descriptor α = .ok (.bare ⟨name α⟩) := by
  have hsound := hreachable.sound _ _ (Registry.handle_eq_ok_iff.mp hhandle)
  exact Registry.descriptor_eq (Registry.candidate_eq_ok_iff.mp hsound).1

theorem convert_natives (hnonEmpty : (Storable.datatype α).nonEmpty = false)
    (hconfig : b.config = {}) (hextension : b.Unextended α) (values : List α) :
    b.convert (name α) (Storable.datatype α) (values.map Storable.toNative) =
      converted (Storable.toColumn α values) := by
  have hsize : b.checkSize (name α) (Storable.datatype α)
      (values.map (Storable.toNative (α := α))).length = .ok () := by
    rw [BatchBuilder.checkSize_eq_ok_iff, hconfig]
    exact ⟨by simp [hnonEmpty], nofun⟩
  have heach : convertEach
    (b.instanceOf (b.extension? (name α)) (Storable.datatype α)) 0
        (values.map Storable.toNative) =
      convertEach (fun value => (Storable.datatype α).normalize {}
        (Storable.toNative value)) 0
        values := by
    rw [convertEach_map]
    simp only [BatchBuilder.instanceOf_of_unextended hextension, hconfig]
  rw [BatchBuilder.convert, hsize, Storable.toColumn]
  show (converted (convertEach
    (b.instanceOf (b.extension? (name α)) (Storable.datatype α)) 0
    (values.map Storable.toNative)) >>= _) = _
  rw [heach]
  cases hrows :
      convertEach (fun value => (Storable.datatype α).normalize {}
        (Storable.toNative value)) 0 values with
  | error e => rfl
  | ok rows =>
      have hnormalized : (Storable.datatype α).Normalized {}
          (values.map Storable.toNative) rows :=
        List.forall₂_map_left_iff.mpr (convertEach_eq_ok_iff.mp hrows)
      show converted (BatchBuilder.encodeChecked _ _ rows) = converted
        (Datatype.encode _ rows)
      rw [BatchBuilder.encodeChecked_of_unextended hextension
          hnormalized.conforms]

theorem toBatch_eq (hreachable : b.registry.Reachable)
    (hheld : b.registry.resolve (name α) = .ok (Storable.datatype α))
    (hnonEmpty : (Storable.datatype α).nonEmpty = false)
    (hconfig : b.config = {}) (hextension : b.Unextended α) (values : List α) :
    toBatch α values b =
      (converted (Storable.toColumn α values)).map fun column =>
        ⟨.bare ⟨name α⟩, column, (Storable.datatype α).nullable⟩ := by
  rw [Registry.resolve, map_eq_ok_iff] at hheld
  rcases hheld with ⟨handle, hhandle, hdatatype⟩
  rw [toBatch, descriptor_of_handle hreachable hhandle]
  show b.build (.bare ⟨name α⟩) (.many (values.map Storable.toNative)) = _
  rw [BatchBuilder.build_eq_map_convert hhandle rfl, hdatatype]
  show (b.convert (name α) _ _).map _ = _
  rw [convert_natives hnonEmpty hconfig hextension]

/--
A component exports the same column straight and as a batch, where the builder
has the default configuration and no extension of its own for it; what fails one
way fails the other way with the same error.
-/
theorem export_ways_agree (hreachable : b.registry.Reachable)
    (hheld : b.registry.resolve (name α) = .ok (Storable.datatype α))
    (hnonEmpty : (Storable.datatype α).nonEmpty = false)
    (hconfig : b.config = {})
    (hextension : b.extension? (name α) = none ∨ Builtin α ∧
      exists table, Components.extensions = .ok table ∧
      b.extensions = some table)
    (values : List α) :
    ((exists batch, toBatch α values b = .ok batch) ↔
      exists column, Storable.toColumn α values = .ok column) ∧
    (forall batch, toBatch α values b = .ok batch ->
      Storable.toColumn α values = .ok batch.column ∧
        ofBatch α batch = Storable.ofColumn α batch.column) ∧
    (forall e, toBatch α values b = .error e ->
      exists fault, e = .conversion fault ∧
        Storable.toColumn α values = .error fault) := by
  have hunextended : b.Unextended α := by
    rcases hextension with hnone | ⟨hα, table, htable, hb⟩
    · exact BatchBuilder.unextended_of_none hnone
    · exact BatchBuilder.unextended_of_builtin hα htable hb
  rw [toBatch_eq hreachable hheld hnonEmpty hconfig hunextended]
  cases Storable.toColumn α values with
  | error fault =>
      refine ⟨⟨nofun, nofun⟩, nofun, ?_⟩
      intro e he
      cases he
      exact ⟨fault, rfl, rfl⟩
  | ok column =>
      refine ⟨⟨fun _ => ⟨column, rfl⟩, fun _ => ⟨_, rfl⟩⟩, ?_, nofun⟩
      intro batch hbatch
      cases hbatch
      exact ⟨rfl, rfl⟩

namespace Sample

open Components Registry.Sample

def colormapTable : ExtensionTable :=
  ⟨NameMap.empty.insert (name Colormap) Colormap.extension⟩

def colormapBuilder : BatchBuilder where
  registry := builtinRegistry
  extensions := some colormapTable

theorem resolve_colormap : colormapBuilder.registry.resolve (name Colormap) =
    .ok (Storable.datatype Colormap) := by
  have hhandle := withBuiltin_builtinRegistry.handle_eq .colormap
  rw [colormapBuilder, Registry.resolve, hhandle]
  rfl

end Sample

open Sample Components in
theorem export_ways_agree_colormaps :
    exists batch, toBatch Colormap [.viridis, .turbo] colormapBuilder =
      .ok batch ∧
      Storable.toColumn Colormap [.viridis, .turbo] = .ok batch.column ∧
      ofBatch Colormap batch = .ok [.viridis, .turbo] := by
  have hreachable : colormapBuilder.registry.Reachable :=
    Registry.Sample.withBuiltin_builtinRegistry.reachable
  have hextension : Components.extensions = .ok colormapTable := rfl
  rcases export_ways_agree hreachable resolve_colormap rfl rfl
    (Or.inr ⟨.colormap, colormapTable, hextension, rfl⟩) [.viridis, .turbo] with
    ⟨hsucceeds, hcolumn, _⟩
  rcases hsucceeds.mpr ⟨_, Storable.toColumn_eq _⟩ with ⟨batch, hbatch⟩
  rcases hcolumn batch hbatch with ⟨hcolumn, hread⟩
  refine ⟨batch, hbatch, hcolumn, ?_⟩
  rw [Storable.toColumn_eq] at hcolumn
  rw [hread, ← Except.ok.inj hcolumn, Storable.ofColumn_layout]

end Component
end Columnar
