import Columnar.Codec.Layout
import Columnar.Proofs.Datatype.Validity

/-!
# Instances of a datatype

Which instances a datatype describes: an absent one only where it may be
absent, elements of the declared kind in the declared number, a declared byte,
or one value of its own datatype for each declared field.  Nothing here refers
to how instances are made or stored.
-/

namespace Columnar

@[simp] theorem Arity.accepts_fixed_iff {count found : Nat} :
    (Arity.fixed count).accepts found = true ↔ found = count := by
  rw [Arity.accepts, beq_iff_eq, eq_comm]

namespace Datatype

mutual

/-- The instance is one of the datatype. -/
def Conforms : Datatype -> Instance -> Prop
  | ⟨_, _, nullable, _, _⟩, .null => nullable = true
  | ⟨_, shape, _, _, _⟩, .elements data =>
      match shape with
      | .primitive kind => data.kind = kind ∧ data.length = 1
      | .fixedList kind arity => data.kind = kind ∧ data.length = arity.toNat
      | .list kind => data.kind = kind
      | .enumeration variants =>
          exists v, v ∈ variants ∧ data = ⟨.u8, [v.value]⟩
      | .struct _ => False
  | ⟨_, shape, _, _, _⟩, .struct values =>
      match shape with
      | .struct fields => ConformEach fields values
      | _ => False

def ConformEach : List (Field Datatype) -> List Instance -> Prop
  | [], [] => True
  | ⟨_, datatype⟩ :: fields, value :: values =>
      Conforms datatype value ∧ ConformEach fields values
  | _, _ => False

end

mutual

def decideConforms :
    (d : Datatype) -> (i : Instance) -> Decidable (d.Conforms i)
  | ⟨_, _, nullable, _, _⟩, .null =>
      inferInstanceAs (Decidable (nullable = true))
  | ⟨_, shape, _, _, _⟩, .elements data =>
      match shape with
      | .primitive kind =>
          inferInstanceAs (Decidable (data.kind = kind ∧ data.length = 1))
      | .fixedList kind arity =>
          inferInstanceAs
            (Decidable (data.kind = kind ∧ data.length = arity.toNat))
      | .list kind => inferInstanceAs (Decidable (data.kind = kind))
      | .enumeration variants =>
          inferInstanceAs
            (Decidable (exists v, v ∈ variants ∧ data = ⟨.u8, [v.value]⟩))
      | .struct _ => inferInstanceAs (Decidable False)
  | ⟨_, shape, _, _, _⟩, .struct values =>
      match shape with
      | .struct fields => decideConformEach fields values
      | .primitive _ | .fixedList _ _ | .list _ | .enumeration _ =>
          inferInstanceAs (Decidable False)

def decideConformEach :
    (fields : List (Field Datatype)) -> (values : List Instance) ->
    Decidable (ConformEach fields values)
  | [], [] => inferInstanceAs (Decidable True)
  | ⟨_, datatype⟩ :: fields, value :: values =>
      @instDecidableAnd _ _ (decideConforms datatype value)
        (decideConformEach fields values)
  | [], _ :: _ => inferInstanceAs (Decidable False)
  | _ :: _, [] => inferInstanceAs (Decidable False)

end

instance (d : Datatype) (i : Instance) : Decidable (d.Conforms i) :=
  decideConforms d i

theorem conforms_null_iff {d : Datatype} :
    d.Conforms .null ↔ d.nullable = true := by
  rcases d with ⟨_, _, nullable, _, _⟩
  rw [Conforms]

theorem conforms_struct_iff {name : String} {nullable broadcast nonEmpty : Bool}
    {fields : List (Field Datatype)} {values : List Instance} :
    Conforms ⟨name, .struct fields, nullable, broadcast, nonEmpty⟩
      (.struct values) ↔
      ConformEach fields values := by
  rw [Conforms]

theorem nullable_of_conforms {d : Datatype} {i : Instance} (h : d.Conforms i)
    (hnull : i.isNull = true) : d.nullable = true := by
  cases i with
  | null => exact conforms_null_iff.mp h
  | elements data => cases hnull
  | struct values => cases hnull

theorem length_eq_of_conformEach {fields : List (Field Datatype)}
    {values : List Instance} (h : ConformEach fields values) :
    values.length = fields.length := by
  induction fields generalizing values with
  | nil =>
      cases values with
      | nil => rfl
      | cons value values => exact h.elim
  | cons field rest ih =>
      cases values with
      | nil => exact h.elim
      | cons value values =>
          rw [ConformEach] at h
          rw [List.length_cons, List.length_cons, ih h.2]

/-! ## Fillers

The filler of a valid datatype is never absent, so it conforms whether the
datatype is nullable or not.
-/

mutual

theorem conforms_filler :
    forall d : Datatype, d.validate = .ok () -> d.Conforms d.filler
  | ⟨_, .primitive kind, _, _, _⟩, _ => by
      rw [filler, Conforms]
      exact ⟨rfl, rfl⟩
  | ⟨_, .fixedList kind arity, _, _, _⟩, _ => by
      rw [filler, Conforms]
      exact ⟨rfl, List.length_replicate⟩
  | ⟨_, .list kind, _, _, _⟩, _ => by
      rw [filler, Conforms]
      rfl
  | ⟨_, .enumeration variants, _, _, _⟩, hvalid => by
      cases variants with
      | nil => exact absurd rfl (variants_ne_nil_of_validate hvalid)
      | cons first rest =>
          rw [filler]
          exact ⟨first, List.mem_cons_self, rfl⟩
  | ⟨_, .struct fields, _, _, _⟩, hvalid => by
      rw [filler, conforms_struct_iff]
      exact conformEach_fieldFillers fields (validate_field_of_validate hvalid)

theorem conformEach_fieldFillers : forall fields : List (Field Datatype),
    (forall field, field ∈ fields -> field.datatype.validate = .ok ()) ->
      ConformEach fields (fieldFillers fields)
  | [], _ => by
      rw [fieldFillers, ConformEach]
      exact trivial
  | ⟨_, datatype⟩ :: rest, hvalid => by
      rw [fieldFillers, ConformEach]
      constructor
      · exact conforms_filler datatype (hvalid _ List.mem_cons_self)
      · exact conformEach_fieldFillers rest fun field hfield =>
          hvalid field (List.mem_cons_of_mem _ hfield)

end

/-! ## A sample

Every shape, nested, with absence at each level.
-/

namespace Sample

def pose : Datatype where
  name := "sample.Pose"
  nullable := true
  shape := .struct [
    ⟨"axis", fixedList "sample.Vec2D" .f32 2⟩,
    ⟨"tags", { list "sample.Tags" .u32 with nullable := true }⟩,
    ⟨"mode", enumeration "sample.Mode" [⟨"Fast", 1⟩, ⟨"Slow", 2⟩]⟩,
    ⟨"panel", { struct "sample.Panel" [
      ⟨"lit", primitive "sample.Lit" .bool⟩,
      ⟨"switches", list "sample.Switches" .bool⟩] with nullable := true }⟩]

def poseOf (axis : List Binary32) (tags : Instance) (mode : UInt8)
    (panel : Instance) : Instance :=
  .struct [.elements ⟨.f32, axis⟩, tags, .one .u8 mode, panel]

def panelOf (lit : Bool) (switches : List Bool) : Instance :=
  .struct [.one .bool lit, .elements ⟨.bool, switches⟩]

def poses : List Instance := [
  poseOf [⟨0x7f800001⟩, ⟨0x80000000⟩] .null 2 .null,
  .null,
  poseOf [⟨0⟩, ⟨0x3f800000⟩] (.elements ⟨.u32, ([] : List UInt32)⟩) 1
    (panelOf true []),
  poseOf [⟨0⟩, ⟨0⟩] (.elements ⟨.u32, ([7, 8] : List UInt32)⟩) 1
    (panelOf false [true, false])]

end Sample

end Datatype
end Columnar
