import Columnar.Proofs.Registry.Providers
import Columnar.Proofs.Schema.Resolution

/-!
# Documents in a registry

A document that has been read holds valid datatypes only, so what can go wrong
when its components are registered has to do with their names.  If nothing does,
each name stands for the datatype that was declared for it.
-/

namespace Columnar
namespace Document

open Declaration (Resolved)
open Registry (handleOf)

variable {text : String} {document : Document} {r : Registry}
  {handles : List Handle}

theorem exists_draft_of_parse (h : parse text = .ok document) :
    exists draft meaning, Draft.parse? text = some draft ∧
      Resolved draft.datatypes meaning ∧
      draft.Complete ∧ draft.Holds meaning document := by
  unfold parse at h
  cases hdraft : Draft.parse? text with
  | none =>
      rw [hdraft] at h
      cases h
  | some draft =>
      rw [hdraft] at h
      rcases Draft.exists_of_resolve h with
        ⟨meaning, hresolved, hcomplete, hholds⟩
      exact ⟨draft, meaning, rfl, hresolved, hcomplete, hholds⟩

theorem validate_component (h : parse text = .ok document)
    {component : ComponentDef Datatype}
    (hcomponent : component ∈ document.components) :
    component.datatype.validate = .ok () := by
  rcases exists_draft_of_parse h with
    ⟨draft, meaning, _, hresolved, hcomplete, hholds⟩
  rw [hholds.components_eq] at hcomponent
  rcases List.mem_map.mp hcomponent with ⟨use, huse, rfl⟩
  rcases List.mem_map.mp (hcomplete use huse) with ⟨d, hd, hname⟩
  dsimp only
  rw [← hname]
  exact hresolved.valid d hd

/--
A document never fails for an invalid datatype, and it is loaded exactly when
the registry admits its components.  Their handles then stand in declared order,
and each name resolves to what the datatype it was declared with means.
-/
theorem load_as_declared (hparse : parse text = .ok document)
    (hr : r.Reachable) :
    (forall fault, (r.load document.provider).1 ≠
      .error (.invalidDatatype fault)) ∧
    ((exists handles, (r.load document.provider).1 = .ok handles) ↔
      r.Admits document.components) ∧
    (forall handles, (r.load document.provider).1 = .ok handles ->
      exists draft meaning, Draft.parse? text = some draft ∧
        Resolved draft.datatypes meaning ∧
        handles = (draft.components.map fun use =>
          .of ⟨use.name⟩ (meaning use.datatype)) ∧
        forall use, use ∈ draft.components ->
          document.datatype? use.datatype = some (meaning use.datatype) ∧
          (r.load document.provider).2.resolve use.name =
            .ok (meaning use.datatype)) := by
  have hvalid : forall component, component ∈ document.components ->
      component.datatype.validate = .ok () :=
    fun component hcomponent => validate_component hparse hcomponent
  refine ⟨?_, ?_, ?_⟩
  · intro fault hfault
    rcases Registry.exists_invalid_of_registerEach hfault with
      ⟨component, hmem, hinvalid⟩
    rw [hvalid component hmem] at hinvalid
    cases hinvalid
  · constructor
    · intro h
      rcases h with ⟨handles, hload⟩
      exact ((Registry.registerEach_eq_ok_iff hr hvalid).mp hload).1
    · intro h
      exact ⟨_, (Registry.registerEach_eq_ok_iff hr hvalid).mpr ⟨h, rfl⟩⟩
  · intro handles hload
    rcases exists_draft_of_parse hparse with
      ⟨draft, meaning, hdraft, hresolved, hcomplete, hholds⟩
    refine ⟨draft, meaning, hdraft, hresolved, ?_, ?_⟩
    · have hhandles : document.components.map handleOf = handles :=
        ((Registry.registerEach_eq_ok_iff hr hvalid).mp hload).2
      rw [← hhandles, hholds.components_eq, List.map_map]
      rfl
    · intro use huse
      have hmem : ⟨use.name, meaning use.datatype⟩ ∈ document.components := by
        rw [hholds.components_eq]
        exact List.mem_map_of_mem huse
      have hfound : (r.load document.provider).2.handle use.name =
          .ok (.of ⟨use.name⟩ (meaning use.datatype)) :=
        Registry.handle_eq_ok_iff.mpr
          (Registry.find?_registerEach hr hload hmem)
      refine ⟨(hholds.found use.datatype).trans
        (if_pos (hcomplete use huse)), ?_⟩
      rw [Registry.resolve, hfound]
      rfl

namespace Sample

open Registry.Sample
    (poseRegistry reachable_poseRegistry eq_of_handle_poseRegistry)

def strideText : String :=
  "\x7b\"name\":\"gait\",\"datatypes\":["
    ++ "\x7b\"name\":\"Speed\",\"shape\":\"primitive\",\"element\":\"f32\",\"nullable\":true\x7d,"
    ++ "\x7b\"name\":\"Stride\",\"shape\":\"struct\",\"fields\":[[\"v\",\"Speed\"]]\x7d],"
    ++ "\"components\":[[\"g.v.Stride\",\"Stride\"],[\"g.v.Speed\",\"Speed\"],"
    ++ "[\"g.v.Stride\",\"Stride\"]]\x7d"

def strideDraft : Draft where
  name := "gait"
  version := 1
  datatypes :=
    [⟨"Speed", .primitive .f32, true, false, false⟩,
      ⟨"Stride", .struct [⟨"v", "Speed"⟩], false, false, false⟩]
  components :=
    [⟨"g.v.Stride", "Stride"⟩, ⟨"g.v.Speed", "Speed"⟩, ⟨"g.v.Stride", "Stride"⟩]

def speed : Datatype :=
  { Datatype.primitive "Speed" .f32 with nullable := true }

def stride : Datatype := Datatype.struct "Stride" [⟨"v", speed⟩]

def strideDocument : Document where
  name := "gait"
  version := 1
  datatypes := (NameMap.empty.insert "Speed" speed).insert "Stride" stride
  components :=
    [⟨"g.v.Stride", stride⟩, ⟨"g.v.Speed", speed⟩, ⟨"g.v.Stride", stride⟩]

theorem draft_strideText : Draft.parse? strideText = some strideDraft := by
  decide +kernel

theorem parse_strideText : parse strideText = .ok strideDocument := by
  rw [parse, draft_strideText]
  rfl

theorem admits_strideDocument :
    poseRegistry.Admits strideDocument.components where
  named := by
    intro component hcomponent
    apply ComponentName.exists_parse_iff.mpr
    revert component
    decide
  among := by
    decide
  against := by
    intro component hcomponent existing hexisting
    have hother : forall component, component ∈ strideDocument.components ->
        component.name ≠ Registry.Sample.poseName.text := by
      decide
    exact absurd (eq_of_handle_poseRegistry hexisting).1
      (hother component hcomponent)

end Sample

open Sample Registry.Sample in
theorem load_strideDocument :
    (exists handles, (poseRegistry.load strideDocument.provider).1 =
      .ok handles) ∧
      (poseRegistry.load strideDocument.provider).2.resolve "g.v.Stride" =
        .ok stride := by
  rcases load_as_declared parse_strideText reachable_poseRegistry with
    ⟨_, hsucceeds, hdeclared⟩
  rcases hsucceeds.mpr admits_strideDocument with ⟨handles, hload⟩
  refine ⟨⟨handles, hload⟩, ?_⟩
  rcases hdeclared handles hload with ⟨draft, meaning, hdraft, _, _, huses⟩
  cases draft_strideText.symm.trans hdraft
  rcases huses ⟨"g.v.Stride", "Stride"⟩ List.mem_cons_self with
    ⟨hdeclaredAs, hresolve⟩
  have hstride : strideDocument.datatype? "Stride" = some stride := rfl
  rw [Option.some.inj (hstride.symm.trans hdeclaredAs)]
  exact hresolve

end Document
end Columnar
