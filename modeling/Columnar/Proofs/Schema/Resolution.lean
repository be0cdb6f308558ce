import Columnar.Proofs.NameMap
import Columnar.Proofs.Outcome
import Columnar.Proofs.Schema.Meaning
import Columnar.Proofs.Text.ByteOrder

/-!
# Resolution in one pass

While the declarations of a document are gone through, the map of what is known
follows the meaning of the names declared so far.  The pass stops at the first
declaration with a fault, and gets to the end exactly when the declarations
resolve.  Components are looked at only then.
-/

namespace Columnar
namespace Draft

open Declaration (names Resolved Fault)

variable {known : NameMap Datatype} {declared : List String}
  {meaning : String -> Datatype}

/-! ## References -/

theorem lookup_eq (h : known.Follows declared meaning)
    (referencedBy name : String) :
    lookup known referencedBy name =
      if name ∈ declared then .ok (meaning name)
      else .error (.unknownDatatype name referencedBy) := by
  rw [lookup, h name]
  by_cases hname : name ∈ declared
  · rw [if_pos hname, if_pos hname]
  · rw [if_neg hname, if_neg hname]

theorem resolveFields_eq (h : known.Follows declared meaning) (owner : String)
    (fields : List (Field String)) :
    resolveFields known owner fields =
      match (fields.map Field.datatype).find?
          (fun ref => decide (ref ∉ declared)) with
      | some ref => .error (.unknownDatatype ref owner)
      | none =>
          .ok (fields.map fun field =>
            ⟨field.name, meaning field.datatype⟩) := by
  induction fields with
  | nil => rfl
  | cons field rest ih =>
      rw [resolveFields, lookup_eq h, ih, List.map_cons, List.find?_cons]
      by_cases hfield : field.datatype ∈ declared
      · rw [if_pos hfield, decide_eq_false (not_not_intro hfield)]
        cases (rest.map Field.datatype).find?
            (fun ref => decide (ref ∉ declared)) with
        | some ref => rfl
        | none => rfl
      · rw [if_neg hfield, decide_eq_true hfield]
        rfl

theorem resolveShape_eq (h : known.Follows declared meaning) (owner : String)
    (shape : Shape String) :
    resolveShape known owner shape =
      match shape.refs.find? (fun ref => decide (ref ∉ declared)) with
      | some ref => .error (.unknownDatatype ref owner)
      | none => .ok (shape.map meaning) := by
  cases shape with
  | struct fields =>
      rw [resolveShape, resolveFields_eq h, Shape.refs]
      cases (fields.map Field.datatype).find?
          (fun ref => decide (ref ∉ declared)) with
      | some ref => rfl
      | none => rfl
  | _ => rfl

theorem resolveComponents_eq (h : known.Follows declared meaning)
    (components : List (ComponentDef String)) :
    resolveComponents known components =
      match components.find?
          (fun component => decide (component.datatype ∉ declared)) with
      | some component =>
          .error (.unknownDatatype component.datatype component.name)
      | none =>
          .ok (components.map fun component =>
            ⟨component.name, meaning component.datatype⟩) := by
  induction components with
  | nil => rfl
  | cons component rest ih =>
      rw [resolveComponents, lookup_eq h, ih, List.find?_cons]
      by_cases hcomponent : component.datatype ∈ declared
      · rw [if_pos hcomponent, decide_eq_false (not_not_intro hcomponent)]
        cases rest.find?
            (fun component => decide (component.datatype ∉ declared)) with
        | some other => rfl
        | none => rfl
      · rw [if_neg hcomponent, decide_eq_true hcomponent]
        rfl

/-! ## Declarations -/

theorem declare_eq (h : known.Follows declared meaning)
    (d : Declaration String) :
    declare known d =
      if d.name ∈ declared then .error (.duplicateDatatype d.name)
      else
        match d.shape.refs.find? (fun ref => decide (ref ∉ declared)) with
        | some ref => .error (.unknownDatatype ref d.name)
        | none =>
            match (d.define meaning).validate with
            | .error fault => .error (.invalid fault)
            | .ok () => .ok (known.insert d.name (d.define meaning)) := by
  unfold declare
  by_cases hname : d.name ∈ declared
  · rw [if_pos hname, if_pos (h.contains_iff.mpr hname)]
  · rw [if_neg hname,
      if_neg fun hcontains => hname (h.contains_iff.mp hcontains),
      resolveShape_eq h]
    cases d.shape.refs.find? (fun ref => decide (ref ∉ declared)) with
    | some ref => rfl
    | none => rfl

/-- One declaration has its first fault reported, or becomes known. -/
theorem declare_cases {earlier : List (Declaration String)}
    (h : known.Follows (names earlier) meaning)
    (hearlier : Resolved earlier meaning) (d : Declaration String) :
    (exists e, declare known d = .error e ∧ Fault earlier meaning d e) ∨
      declare known d = .ok (known.insert d.name (d.define meaning)) ∧
        Resolved (earlier ++ [d])
          (Function.update meaning d.name (d.define meaning)) := by
  rw [declare_eq h]
  by_cases hname : d.name ∈ names earlier
  · rw [if_pos hname]
    exact Or.inl ⟨_, rfl, Fault.duplicate hname⟩
  · rw [if_neg hname]
    cases hrefs :
        d.shape.refs.find? (fun ref => decide (ref ∉ names earlier)) with
    | some ref => exact Or.inl ⟨_, rfl, Fault.unknown ref hname hrefs⟩
    | none =>
        have hknown : forall ref, ref ∈ d.shape.refs ->
            ref ∈ names earlier := by
          intro ref href
          simpa using List.find?_eq_none.mp hrefs ref href
        cases hvalid : (d.define meaning).validate with
        | error fault =>
            exact Or.inl ⟨_, rfl, Fault.invalid fault hname hknown hvalid⟩
        | ok _ => exact Or.inr ⟨rfl, hearlier.snoc hname hknown hvalid⟩

/-- The declaration at which the pass stops, with what is wrong with it. -/
def StopsAt (declared : List (Declaration String)) (e : SchemaError) : Prop :=
  exists earlier d later meaning,
    declared = earlier ++ d :: later ∧ Resolved earlier meaning ∧
      Fault earlier meaning d e

theorem declareAll_cases {earlier : List (Declaration String)}
    (h : known.Follows (names earlier) meaning)
    (hearlier : Resolved earlier meaning) (rest : List (Declaration String)) :
    (exists e, declareAll known rest = .error e ∧ StopsAt (earlier ++ rest) e) ∨
      exists result meaning, declareAll known rest = .ok result ∧
        result.Follows (names (earlier ++ rest)) meaning ∧
          Resolved (earlier ++ rest) meaning := by
  induction rest generalizing known earlier meaning with
  | nil =>
      right
      rw [List.append_nil]
      exact ⟨known, meaning, rfl, h, hearlier⟩
  | cons d rest ih =>
      rw [declareAll]
      rcases declare_cases h hearlier d with
        ⟨e, herror, hfault⟩ | ⟨hdeclare, hresolved⟩
      · left
        rw [herror]
        exact ⟨e, rfl, earlier, d, rest, meaning, rfl, hearlier, hfault⟩
      · have hfollows : (known.insert d.name (d.define meaning)).Follows
          (names (earlier ++ [d]))
            (Function.update meaning d.name (d.define meaning)) := by
          rw [Declaration.names_append]
          exact h.insert d.name (d.define meaning)
        have hnext := ih hfollows hresolved
        rw [List.append_assoc, List.singleton_append] at hnext
        rw [hdeclare]
        exact hnext

/-! ## Documents -/

def Complete (draft : Draft) : Prop :=
  forall component, component ∈ draft.components ->
    component.datatype ∈ names draft.datatypes

/-- A document that holds what the names of a draft mean. -/
structure Holds (draft : Draft) (meaning : String -> Datatype)
    (document : Document) : Prop where
  name_eq : document.name = draft.name
  version_eq : document.version = draft.version
  listed : document.datatypes.values.Perm
    (draft.datatypes.map fun d => meaning d.name)
  sorted : document.datatypes.values.Pairwise fun a b =>
    Text.bytes a.name < Text.bytes b.name
  found : forall name, document.datatype? name =
    if name ∈ names draft.datatypes then some (meaning name) else none
  parts : forall datatype, datatype ∈ document.datatypes.values ->
    forall part, part.Within datatype ->
      document.datatype? part.name = some part
  components_eq : document.components =
    draft.components.map fun component =>
      ⟨component.name, meaning component.datatype⟩

theorem values_sorted {datatypes : NameMap Datatype}
    (h : datatypes.Follows declared meaning)
    (hname : forall name, name ∈ declared -> (meaning name).name = name) :
    datatypes.values.Pairwise fun a b =>
      Text.bytes a.name < Text.bytes b.name := by
  have hnames : datatypes.names.Pairwise fun a b =>
    Text.bytes a < Text.bytes b :=
    List.pairwise_map.mpr (datatypes.sorted.imp Text.bytes_lt_bytes)
  rw [h.values_eq, List.pairwise_map]
  apply hnames.imp_of_mem
  intro a b ha hb hlt
  rw [hname a (h.mem_names_iff.mp ha), hname b (h.mem_names_iff.mp hb)]
  exact hlt

theorem holds_of_follows {draft : Draft} {datatypes : NameMap Datatype}
    (h : datatypes.Follows (names draft.datatypes) meaning)
    (hresolved : Resolved draft.datatypes meaning) :
    draft.Holds meaning
      { name := draft.name
        version := draft.version
        datatypes
        components := draft.components.map fun component =>
          ⟨component.name, meaning component.datatype⟩ } where
  name_eq := rfl
  version_eq := rfl
  listed := by
    have hperm := (h.perm_names hresolved.distinct).map meaning
    rw [names, List.map_map] at hperm
    rw [h.values_eq]
    exact hperm
  sorted := values_sorted h fun _ => hresolved.name_eq
  found := h
  parts := by
    intro datatype hdatatype part hwithin
    rw [h.values_eq] at hdatatype
    rcases List.mem_map.mp hdatatype with ⟨name, hname, hmeaning⟩
    rcases hresolved.within hwithin (h.mem_names_iff.mp hname) hmeaning.symm
      with ⟨hdeclared, hpart⟩
    have hfound := h part.name
    rw [if_pos hdeclared, ← hpart] at hfound
    exact hfound
  components_eq := rfl

def firstUnknown? (draft : Draft) : Option (ComponentDef String) :=
  draft.components.find? fun component =>
    decide (component.datatype ∉ names draft.datatypes)

theorem firstUnknown?_eq_none_iff {draft : Draft} :
    draft.firstUnknown? = none ↔ draft.Complete := by
  simp [firstUnknown?, Complete]

theorem resolve_of_declareAll {draft : Draft} {datatypes : NameMap Datatype}
    (hdeclared : declareAll .empty draft.datatypes = .ok datatypes)
    (h : datatypes.Follows (names draft.datatypes) meaning) :
    draft.resolve =
      match draft.firstUnknown? with
      | some component =>
          .error (.unknownDatatype component.datatype component.name)
      | none => .ok
          { name := draft.name
            version := draft.version
            datatypes
            components := draft.components.map fun component =>
              ⟨component.name, meaning component.datatype⟩ } := by
  rw [resolve, hdeclared]
  show (resolveComponents datatypes draft.components >>= _) = _
  rw [resolveComponents_eq h, firstUnknown?]
  cases draft.components.find? (fun component =>
      decide (component.datatype ∉ names draft.datatypes)) with
  | some component => rfl
  | none => rfl

/-- The three ways in which resolution ends. -/
inductive Outcome (draft : Draft) : Except SchemaError Document -> Prop
  | stops {e : SchemaError} :
      StopsAt draft.datatypes e -> Outcome draft (.error e)
  | unknown {meaning : String -> Datatype} {component : ComponentDef String} :
      Resolved draft.datatypes meaning ->
      draft.firstUnknown? = some component ->
        Outcome draft
          (.error (.unknownDatatype component.datatype component.name))
  | resolves {meaning : String -> Datatype} {document : Document} :
      Resolved draft.datatypes meaning -> draft.Complete ->
      draft.Holds meaning document ->
        Outcome draft (.ok document)

theorem outcome_resolve (draft : Draft) : draft.Outcome draft.resolve := by
  -- No name means anything before the first declaration, so any function
  -- serves.
  have hempty : (NameMap.empty : NameMap Datatype).Follows (names [])
      fun name => .primitive name .u8 := NameMap.follows_empty
  have hrun := declareAll_cases hempty Declaration.resolved_nil draft.datatypes
  rcases hrun with
    ⟨e, herror, hstops⟩ | ⟨datatypes, meaning, hdeclared, hfollows, hresolved⟩
  · have hresolve : draft.resolve = .error e := by
      rw [resolve, herror]
      rfl
    rw [hresolve]
    exact Outcome.stops hstops
  · rw [resolve_of_declareAll hdeclared hfollows]
    cases hunknown : draft.firstUnknown? with
    | some component => exact Outcome.unknown hresolved hunknown
    | none =>
        exact Outcome.resolves hresolved (firstUnknown?_eq_none_iff.mp hunknown)
          (holds_of_follows hfollows hresolved)

theorem exists_of_resolve {draft : Draft} {document : Document}
    (h : draft.resolve = .ok document) :
    exists meaning, Resolved draft.datatypes meaning ∧ draft.Complete ∧
      draft.Holds meaning document := by
  have houtcome := draft.outcome_resolve
  rw [h] at houtcome
  cases houtcome with
  | resolves hresolved hcomplete hholds =>
      exact ⟨_, hresolved, hcomplete, hholds⟩

theorem StopsAt.not_resolved {declared : List (Declaration String)}
    {e : SchemaError} (h : StopsAt declared e) :
    ¬ Resolved declared meaning := by
  rcases h with ⟨earlier, d, later, other, rfl, hother, hfault⟩
  intro hresolved
  exact hresolved.not_fault hother hfault

theorem not_outcome_error {draft : Draft} {e : SchemaError}
    (hresolved : Resolved draft.datatypes meaning)
    (hcomplete : draft.Complete) :
    ¬ draft.Outcome (.error e) := by
  intro houtcome
  cases houtcome with
  | stops hstops => exact hstops.not_resolved hresolved
  | unknown _ hunknown =>
      rw [firstUnknown?_eq_none_iff.mpr hcomplete] at hunknown
      cases hunknown

/--
A draft resolves exactly when its declarations and its components are in order.
The document then holds every declared datatype once and in the order of names;
an error is that of the first declaration with a fault, and where there is none
that of the first component without a declared datatype.
-/
theorem resolve_singlePass (draft : Draft) :
    ((exists document, draft.resolve = .ok document) ↔
      (exists meaning, Resolved draft.datatypes meaning) ∧ draft.Complete) ∧
    (forall document, draft.resolve = .ok document ->
      exists meaning, Resolved draft.datatypes meaning ∧
        draft.Holds meaning document) ∧
    (forall e, draft.resolve = .error e ->
      StopsAt draft.datatypes e ∨
        (exists meaning, Resolved draft.datatypes meaning) ∧
          exists component, draft.firstUnknown? = some component ∧
            e = .unknownDatatype component.datatype component.name) := by
  have houtcome := draft.outcome_resolve
  cases hresolve : draft.resolve with
  | ok document =>
      rw [hresolve] at houtcome
      cases houtcome with
      | @resolves meaning _ hresolved hcomplete hholds =>
          refine ⟨⟨fun _ => ⟨⟨meaning, hresolved⟩, hcomplete⟩,
            fun _ => ⟨document, rfl⟩⟩, ?_, ?_⟩
          · intro other h
            cases h
            exact ⟨meaning, hresolved, hholds⟩
          · intro e h
            cases h
  | error e =>
      rw [hresolve] at houtcome
      refine ⟨⟨?_, ?_⟩, ?_, ?_⟩
      · rintro ⟨document, h⟩
        cases h
      · rintro ⟨⟨meaning, hresolved⟩, hcomplete⟩
        exact absurd houtcome (not_outcome_error hresolved hcomplete)
      · intro document h
        cases h
      · intro other h
        cases h
        cases houtcome with
        | stops hstops => exact Or.inl hstops
        | @unknown meaning component hresolved hunknown =>
            exact Or.inr ⟨⟨meaning, hresolved⟩, component, hunknown, rfl⟩

/-- A name declared further down is not known yet. -/
example : resolve
    { name := "forward"
      version := 1
      datatypes :=
        [⟨"test.Pair", .struct [⟨"a", "test.Float32"⟩], false, false, false⟩,
          ⟨"test.Float32", .primitive .f32, false, false, false⟩]
      components :=
        [] } = .error (.unknownDatatype "test.Float32" "test.Pair") := rfl

end Draft
end Columnar
