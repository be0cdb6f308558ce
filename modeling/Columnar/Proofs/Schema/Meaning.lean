import Mathlib.Data.List.Induction
import Mathlib.Data.List.Nodup
import Mathlib.Logic.Function.Basic
import Columnar.Schema.Document

/-!
# What the names of a document mean

A declaration refers to datatypes by name, so what it defines depends on what
the names mean.  A meaning suits a list of declarations when each name means
what its own declaration defines under that same meaning.  Where every
reference is to a name declared further up there is one such meaning at most,
and a part of a datatype, however deep it stands, is again the datatype of its
name.
-/

namespace Columnar

/-! ## References -/

namespace Shape

def refs : Shape ref -> List ref
  | .struct fields => fields.map Field.datatype
  | _ => []

def map (meaning : ref -> α) : Shape ref -> Shape α
  | .primitive kind => .primitive kind
  | .fixedList kind arity => .fixedList kind arity
  | .list kind => .list kind
  | .enumeration variants => .enumeration variants
  | .struct fields =>
      .struct (fields.map fun field => ⟨field.name, meaning field.datatype⟩)

theorem map_congr {meaning other : ref -> α} {shape : Shape ref}
    (h : forall r, r ∈ shape.refs -> meaning r = other r) :
    shape.map meaning = shape.map other := by
  cases shape with
  | struct fields =>
      unfold map
      apply congrArg Shape.struct
      apply List.map_congr_left
      intro field hfield
      rw [h field.datatype (List.mem_map_of_mem hfield)]
  | _ => rfl

end Shape

namespace Declaration

variable {declared earlier later : List (Declaration String)}
  {d : Declaration String} {meaning other : String -> Datatype}

def define (meaning : String -> Datatype) (d : Declaration String) : Datatype :=
  ⟨d.name, d.shape.map meaning, d.nullable, d.broadcastScalar, d.nonEmpty⟩

theorem define_congr
    (h : forall ref, ref ∈ d.shape.refs -> meaning ref = other ref) :
    d.define meaning = d.define other := by
  rw [define, define, Shape.map_congr h]

/-! ## Lists of declarations -/

def names (declared : List (Declaration String)) : List String :=
  declared.map Declaration.name

theorem names_append :
    names (earlier ++ later) = names earlier ++ names later :=
  List.map_append

/-- Every reference is to a name declared further up. -/
def Scoped (declared : List (Declaration String)) : Prop :=
  forall (position : Nat) (d : Declaration String),
    declared[position]? = some d ->
    forall ref, ref ∈ d.shape.refs -> ref ∈ names (declared.take position)

/-- Every declared name means what its declaration defines. -/
def Assigns (declared : List (Declaration String))
    (meaning : String -> Datatype) : Prop :=
  forall d, d ∈ declared -> meaning d.name = d.define meaning

/--
Nothing is wrong with the declarations, and this is what their names mean.
-/
structure Resolved (declared : List (Declaration String))
    (meaning : String -> Datatype) :
    Prop where
  distinct : (names declared).Nodup
  inScope : Scoped declared
  assigned : Assigns declared meaning
  valid : forall d, d ∈ declared -> (meaning d.name).validate = .ok ()

/-- The first thing wrong with a declaration that stands below others. -/
inductive Fault (earlier : List (Declaration String))
    (meaning : String -> Datatype) (d : Declaration String) :
    SchemaError -> Prop
  | duplicate :
      d.name ∈ names earlier -> Fault earlier meaning d
        (.duplicateDatatype d.name)
  | unknown (ref : String) :
      d.name ∉ names earlier ->
      d.shape.refs.find? (fun ref => decide (ref ∉ names earlier)) = some ref ->
        Fault earlier meaning d (.unknownDatatype ref d.name)
  | invalid (fault : InvalidDatatype) :
      d.name ∉ names earlier ->
      (forall ref, ref ∈ d.shape.refs -> ref ∈ names earlier) ->
      (d.define meaning).validate = .error fault ->
        Fault earlier meaning d (.invalid fault)

/-! ## Scope -/

theorem scoped_nil : Scoped [] := by
  intro position d hd
  cases hd

theorem Scoped.mem_names (h : Scoped declared) (hd : d ∈ declared)
    {ref : String} (href : ref ∈ d.shape.refs) : ref ∈ names declared := by
  rcases List.getElem?_of_mem hd with ⟨position, hposition⟩
  exact List.map_subset _ (List.take_subset _ _)
    (h position d hposition ref href)

theorem Scoped.of_append (h : Scoped (earlier ++ later)) : Scoped earlier := by
  intro position d hd
  have hlt : position < earlier.length := (List.getElem?_eq_some_iff.mp hd).1
  have htake := h position d (by rw [List.getElem?_append_left hlt, hd])
  rwa [List.take_append_of_le_length (Nat.le_of_lt hlt)] at htake

theorem Scoped.head (h : Scoped (earlier ++ d :: later)) :
    forall ref, ref ∈ d.shape.refs -> ref ∈ names earlier := by
  have hd := h earlier.length d (by simp)
  rwa [List.take_left] at hd

theorem Scoped.snoc (h : Scoped earlier)
    (hd : forall ref, ref ∈ d.shape.refs -> ref ∈ names earlier) :
    Scoped (earlier ++ [d]) := by
  intro position e he
  rcases Nat.lt_or_ge position earlier.length with hlt | hge
  · rw [List.getElem?_append_left hlt] at he
    rw [List.take_append_of_le_length (Nat.le_of_lt hlt)]
    exact h position e he
  · rw [List.getElem?_append_right hge, List.getElem?_singleton] at he
    split at he
    · next hposition =>
        cases he
        have hlength : position = earlier.length := by omega
        rw [hlength, List.take_left]
        exact hd
    · cases he

/-! ## Meanings -/

theorem Assigns.unique (hscoped : Scoped declared)
    (h : Assigns declared meaning) (hother : Assigns declared other) :
    forall name, name ∈ names declared -> meaning name = other name := by
  induction declared using List.reverseRecOn with
  | nil =>
      intro name hname
      cases hname
  | append_singleton earlier d ih =>
      have hearlier := ih hscoped.of_append
        (fun e he => h e (List.mem_append_left _ he))
        (fun e he => hother e (List.mem_append_left _ he))
      have hlast : d ∈ earlier ++ [d] :=
        List.mem_append_right _ (List.mem_singleton_self d)
      intro name hname
      rw [names_append] at hname
      rcases List.mem_append.mp hname with hname | hname
      · exact hearlier name hname
      · rw [List.mem_singleton.mp hname, h d hlast, hother d hlast]
        exact define_congr fun ref href => hearlier ref (hscoped.head ref href)

theorem resolved_nil : Resolved [] meaning where
  distinct := List.nodup_nil
  inScope := scoped_nil
  assigned := by
    intro d hd
    cases hd
  valid := by
    intro d hd
    cases hd

theorem Resolved.of_append (h : Resolved (earlier ++ later) meaning) :
    Resolved earlier meaning where
  distinct := by
    have hnames := h.distinct
    rw [names_append] at hnames
    exact hnames.of_append_left
  inScope := h.inScope.of_append
  assigned := fun d hd => h.assigned d (List.mem_append_left _ hd)
  valid := fun d hd => h.valid d (List.mem_append_left _ hd)

theorem Resolved.snoc (h : Resolved earlier meaning)
    (hfresh : d.name ∉ names earlier)
    (hrefs : forall ref, ref ∈ d.shape.refs -> ref ∈ names earlier)
    (hvalid : (d.define meaning).validate = .ok ()) :
    Resolved (earlier ++ [d])
      (Function.update meaning d.name (d.define meaning)) := by
  have hkept : forall name, name ∈ names earlier ->
      Function.update meaning d.name (d.define meaning) name =
        meaning name := by
    intro name hname
    apply Function.update_of_ne
    intro heq
    exact hfresh (heq ▸ hname)
  have hdefine : forall e : Declaration String,
      (forall ref, ref ∈ e.shape.refs -> ref ∈ names earlier) ->
        e.define meaning = e.define
          (Function.update meaning d.name (d.define meaning)) := by
    intro e he
    exact define_congr fun ref href => (hkept ref (he ref href)).symm
  have hname : forall e, e ∈ earlier -> e.name ∈ names earlier :=
    fun e he => List.mem_map_of_mem he
  constructor
  · rw [names_append]
    exact List.nodup_append.mpr ⟨h.distinct, List.nodup_singleton _, by
      intro name hname other hother heq
      exact hfresh (List.mem_singleton.mp hother ▸ heq ▸ hname)⟩
  · exact h.inScope.snoc hrefs
  · intro e he
    rcases List.mem_append.mp he with he | he
    · rw [hkept _ (hname e he), h.assigned e he]
      exact hdefine e fun ref href => h.inScope.mem_names he href
    · rw [List.mem_singleton.mp he, Function.update_self]
      exact hdefine d hrefs
  · intro e he
    rcases List.mem_append.mp he with he | he
    · rw [hkept _ (hname e he)]
      exact h.valid e he
    · rw [List.mem_singleton.mp he, Function.update_self]
      exact hvalid

theorem Resolved.not_fault (h : Resolved (earlier ++ d :: later) meaning)
    (hother : Resolved earlier other) {e : SchemaError} :
    ¬ Fault earlier other d e := by
  have hd : d ∈ earlier ++ d :: later :=
    List.mem_append_right _ List.mem_cons_self
  have hrefs := h.inScope.head
  have hfresh : d.name ∉ names earlier := by
    have hnames := h.distinct
    rw [names_append] at hnames
    intro hname
    exact (List.nodup_append.mp hnames).2.2 _ hname _ List.mem_cons_self rfl
  intro hfault
  cases hfault with
  | duplicate hname => exact hfresh hname
  | unknown ref _ hfind =>
      have hout := List.find?_some hfind
      exact of_decide_eq_true hout (hrefs ref (List.mem_of_find?_eq_some hfind))
  | invalid fault _ _ hinvalid =>
      have hagree :=
        Assigns.unique h.of_append.inScope h.of_append.assigned hother.assigned
      have hdefine : d.define other = meaning d.name := by
        rw [h.assigned d hd]
        exact define_congr fun ref href => (hagree ref (hrefs ref href)).symm
      rw [hdefine, h.valid d hd] at hinvalid
      cases hinvalid

end Declaration

/-! ## Parts -/

/-- A datatype and every datatype that stands in a field of it, at any depth. -/
inductive Datatype.Within : Datatype -> Datatype -> Prop
  | refl (d : Datatype) : Within d d
  | field {part d : Datatype} {fields : List (Field Datatype)}
      {field : Field Datatype} :
      d.shape = .struct fields -> field ∈ fields ->
      Within part field.datatype -> Within part d

theorem Shape.mem_refs_of_mem_map {meaning : ref -> α} {shape : Shape ref}
    {fields : List (Field α)} (h : shape.map meaning = .struct fields)
    {field : Field α} (hfield : field ∈ fields) :
    exists r, r ∈ shape.refs ∧ field.datatype = meaning r := by
  cases shape with
  | struct given =>
      cases h
      rcases List.mem_map.mp hfield with ⟨source, hsource, rfl⟩
      exact ⟨source.datatype, List.mem_map_of_mem hsource, rfl⟩
  | _ => cases h

namespace Declaration

variable {declared : List (Declaration String)} {meaning : String -> Datatype}

theorem Resolved.exists_declaration (h : Resolved declared meaning)
    {name : String} (hname : name ∈ names declared) :
    exists d, d ∈ declared ∧ d.name = name ∧
      meaning name = d.define meaning := by
  rcases List.mem_map.mp hname with ⟨d, hd, rfl⟩
  exact ⟨d, hd, rfl, h.assigned d hd⟩

theorem Resolved.name_eq (h : Resolved declared meaning) {name : String}
    (hname : name ∈ names declared) : (meaning name).name = name := by
  rcases h.exists_declaration hname with ⟨d, _, hd, hdefine⟩
  rw [hdefine]
  exact hd

/--
Every part of what a name means is what a declared name means, at any depth.
-/
theorem Resolved.within (h : Resolved declared meaning) {part whole : Datatype}
    (hwithin : part.Within whole) {name : String}
    (hname : name ∈ names declared) (hwhole : whole = meaning name) :
    part.name ∈ names declared ∧ part = meaning part.name := by
  induction hwithin generalizing name with
  | refl =>
      rw [hwhole, h.name_eq hname]
      exact ⟨hname, rfl⟩
  | field hshape hfield _ ih =>
      rcases h.exists_declaration hname with ⟨d, hd, _, hdefine⟩
      rw [hwhole, hdefine] at hshape
      rcases Shape.mem_refs_of_mem_map hshape hfield with ⟨ref, href, hdatatype⟩
      exact ih (h.inScope.mem_names hd href) hdatatype

end Declaration
end Columnar
