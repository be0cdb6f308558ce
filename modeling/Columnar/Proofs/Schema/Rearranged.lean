import Columnar.Proofs.Schema.Resolution

/-!
# Documents whose declarations are rearranged

What the names of a document mean depends on which declarations there are, not
on where they stand: the order matters only for whether a reference is to
something declared further up.  Two orders that both resolve therefore give one
document, and an order resolves as soon as no reference points down.
-/

namespace Columnar

namespace Declaration

variable {declared rearranged : List (Declaration String)}
  {meaning : String -> Datatype}

theorem mem_names_iff (hperm : declared.Perm rearranged) {name : String} :
    name ∈ names rearranged ↔ name ∈ names declared :=
  (hperm.map Declaration.name).mem_iff.symm

theorem Assigns.perm (hperm : declared.Perm rearranged)
    (h : Assigns declared meaning) :
    Assigns rearranged meaning :=
  fun d hd => h d (hperm.mem_iff.mpr hd)

/--
Of all that makes declarations resolve, only their scope is lost when they are
rearranged.
-/
theorem Resolved.perm (hperm : declared.Perm rearranged)
    (h : Resolved declared meaning) (hscoped : Scoped rearranged) :
    Resolved rearranged meaning where
  distinct := (hperm.map Declaration.name).nodup_iff.mp h.distinct
  inScope := hscoped
  assigned := h.assigned.perm hperm
  valid := fun d hd => h.valid d (hperm.mem_iff.mpr hd)

end Declaration

namespace Draft

open Declaration (names Resolved Scoped)

variable {draft rearranged : Draft} {meaning other : String -> Datatype}
  {document found : Document}

/-! ## What a draft resolves to -/

theorem Holds.unique (hcomplete : draft.Complete)
    (hagree : forall name, name ∈ names draft.datatypes ->
      meaning name = other name)
    (h : draft.Holds meaning document) (hother : draft.Holds other found) :
    document = found := by
  have hdatatypes : document.datatypes = found.datatypes := by
    apply NameMap.ext_find?
    intro name
    have hname : document.datatype? name = found.datatype? name := by
      rw [h.found, hother.found]
      exact if_ctx_congr Iff.rfl
        (fun hdeclared => congrArg some (hagree name hdeclared)) fun _ => rfl
    exact hname
  have hcomponents : document.components = found.components := by
    rw [h.components_eq, hother.components_eq]
    apply List.map_congr_left
    intro component hcomponent
    rw [hagree _ (hcomplete component hcomponent)]
  have hname := h.name_eq.trans hother.name_eq.symm
  have hversion := h.version_eq.trans hother.version_eq.symm
  cases document
  cases found
  cases hname
  cases hversion
  cases hdatatypes
  cases hcomponents
  rfl

theorem resolve_of_holds (hresolved : Resolved draft.datatypes meaning)
    (hcomplete : draft.Complete) (hholds : draft.Holds meaning document) :
    draft.resolve = .ok document := by
  have houtcome := draft.outcome_resolve
  cases hresolve : draft.resolve with
  | error e =>
      rw [hresolve] at houtcome
      exact absurd houtcome (not_outcome_error hresolved hcomplete)
  | ok found =>
      rcases exists_of_resolve hresolve with ⟨other, hother, _, hfound⟩
      have hagree := hresolved.assigned.unique hresolved.inScope hother.assigned
      rw [hholds.unique hcomplete hagree hfound]

/-! ## Another order -/

/-- The same document but for the order of its declarations. -/
structure Rearranges (rearranged draft : Draft) : Prop where
  name_eq : rearranged.name = draft.name
  version_eq : rearranged.version = draft.version
  components_eq : rearranged.components = draft.components
  datatypes_perm : draft.datatypes.Perm rearranged.datatypes

namespace Rearranges

variable (h : rearranged.Rearranges draft)

include h

theorem complete (hcomplete : draft.Complete) : rearranged.Complete := by
  intro component hcomponent
  rw [h.components_eq] at hcomponent
  exact (Declaration.mem_names_iff h.datatypes_perm).mpr
    (hcomplete component hcomponent)

theorem holds (hholds : draft.Holds meaning document) :
    rearranged.Holds meaning document where
  name_eq := hholds.name_eq.trans h.name_eq.symm
  version_eq := hholds.version_eq.trans h.version_eq.symm
  listed := hholds.listed.trans (h.datatypes_perm.map _)
  sorted := hholds.sorted
  found := by
    intro name
    rw [hholds.found name]
    exact if_congr (Declaration.mem_names_iff h.datatypes_perm).symm rfl rfl
  parts := hholds.parts
  components_eq := by rw [hholds.components_eq, h.components_eq]

end Rearranges

/--
The order of the declarations does not matter to what a draft resolves to.
Another order resolves to the same document or not at all, and it resolves
exactly when each reference in it is still to a name declared further up.
-/
theorem resolve_rearranged (h : rearranged.Rearranges draft)
    (hresolve : draft.resolve = .ok document) :
    (forall found, rearranged.resolve = .ok found -> found = document) ∧
      (rearranged.resolve = .ok document ↔ Scoped rearranged.datatypes) := by
  rcases exists_of_resolve hresolve with ⟨meaning, hresolved, hcomplete, hholds⟩
  have hscope : Scoped rearranged.datatypes ->
      rearranged.resolve = .ok document := by
    intro hscoped
    exact resolve_of_holds (hresolved.perm h.datatypes_perm hscoped)
      (h.complete hcomplete) (h.holds hholds)
  have hscoped : forall found, rearranged.resolve = .ok found ->
      Scoped rearranged.datatypes := by
    intro found hfound
    rcases exists_of_resolve hfound with ⟨_, hother, _⟩
    exact hother.inScope
  refine ⟨?_, hscoped document, hscope⟩
  intro found hfound
  exact Except.ok.inj (hfound.symm.trans (hscope (hscoped found hfound)))

namespace Sample

def speedDeclaration : Declaration String :=
  ⟨"Speed", .primitive .f32, true, false, false⟩

def sideDeclaration : Declaration String :=
  ⟨"Side", .enumeration [⟨"Left", 1⟩, ⟨"Right", 2⟩], false, false, false⟩

def stepDeclaration : Declaration String :=
  ⟨"Step", .struct [⟨"v", "Speed"⟩, ⟨"side", "Side"⟩], false, false, false⟩

def stepDraft : Draft where
  name := "step"
  version := 1
  datatypes := [speedDeclaration, sideDeclaration, stepDeclaration]
  components := [⟨"g.v.Step", "Step"⟩]

def swappedDraft : Draft :=
  { stepDraft with datatypes := [sideDeclaration, speedDeclaration,
    stepDeclaration] }

def speed : Datatype :=
  { Datatype.primitive "Speed" .f32 with nullable := true }

def side : Datatype := Datatype.enumeration "Side" [⟨"Left", 1⟩, ⟨"Right", 2⟩]

def step : Datatype := Datatype.struct "Step" [⟨"v", speed⟩, ⟨"side", side⟩]

def stepDocument : Document where
  name := "step"
  version := 1
  datatypes :=
    ((NameMap.empty.insert "Speed" speed).insert "Side" side).insert "Step" step
  components := [⟨"g.v.Step", step⟩]

theorem rearranges_swappedDraft : swappedDraft.Rearranges stepDraft where
  name_eq := rfl
  version_eq := rfl
  components_eq := rfl
  datatypes_perm := List.Perm.swap _ _ _

theorem resolve_stepDraft : stepDraft.resolve = .ok stepDocument := rfl

end Sample

open Sample in
theorem resolve_swappedDraft :
    swappedDraft.resolve = .ok stepDocument ∧
      Scoped swappedDraft.datatypes := by
  rcases resolve_rearranged rearranges_swappedDraft resolve_stepDraft with
    ⟨hsame, hscoped⟩
  have hswapped : exists found, swappedDraft.resolve = .ok found := ⟨_, rfl⟩
  rcases hswapped with ⟨found, hfound⟩
  rw [hsame found hfound] at hfound
  exact ⟨hfound, hscoped.mp hfound⟩

end Draft
end Columnar
