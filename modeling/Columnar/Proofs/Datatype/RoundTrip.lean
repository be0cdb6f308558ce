import Columnar.Datatype.Json
import Columnar.Proofs.Json.Reading
import Columnar.Proofs.Outcome

/-!
# Datatypes read back from JSON

The printed form of a datatype is a record whose keys all differ, so each part
is found again under its key, and a nested datatype is read with at least one
level less than the one that holds it.  What is read back is the datatype
itself, valid or not, as long as its text nests no deeper than a reader goes.
-/

namespace Columnar

/-! ## The parts of a printed datatype -/

namespace Shape

def members : Shape Datatype -> List (String × Json)
  | .primitive kind =>
      [("shape", .text "primitive"), ("element", .text kind.label)]
  | .fixedList kind arity =>
      [("shape", .text "fixed_list"), ("element", .text kind.label),
        ("arity", .nat arity.toNat)]
  | .list kind => [("shape", .text "list"), ("element", .text kind.label)]
  | .enumeration variants =>
      [("shape", .text "enum"),
        ("variants", .array (variants.map Datatype.variantToJson))]
  | .struct fields =>
      [("shape", .text "struct"),
        ("fields", .array (Datatype.fieldsToJson fields))]

end Shape

namespace Datatype

def flagMembers (d : Datatype) : List (String × Json) :=
  [("nullable", .bool d.nullable),
    ("broadcast_scalar", .bool d.broadcastScalar),
    ("non_empty", .bool d.nonEmpty)]

def members (d : Datatype) : List (String × Json) :=
  ("name", .text d.name) :: (d.shape.members ++ d.flagMembers)

theorem toJson_eq (d : Datatype) : d.toJson = Json.record d.members := by
  rcases d with ⟨name, shape, nullable, broadcast, nonEmpty⟩
  cases shape with
  | primitive kind => rfl
  | fixedList kind arity => rfl
  | list kind => rfl
  | enumeration variants => rfl
  | struct fields => rfl

theorem nodup_members (d : Datatype) : (d.members.map Prod.fst).Nodup := by
  rcases d with ⟨name, shape, nullable, broadcast, nonEmpty⟩
  cases shape with
  | primitive kind => simp [members, Shape.members, flagMembers]
  | fixedList kind arity => simp [members, Shape.members, flagMembers]
  | list kind => simp [members, Shape.members, flagMembers]
  | enumeration variants => simp [members, Shape.members, flagMembers]
  | struct fields => simp [members, Shape.members, flagMembers]

end Datatype

/-! ## Reading the parts -/

theorem ElementKind.ofJson?_label (kind : ElementKind) :
    ElementKind.ofJson? (.text kind.label) = some kind := by
  cases kind <;> rfl

theorem Variant.ofJson?_toJson (v : Variant) :
    Variant.ofJson? (Datatype.variantToJson v) = some v := by
  have hvalue : Json.natBelow? UInt8.size (.nat v.value.toNat) =
      some v.value.toNat :=
    Json.natBelow?_nat v.value.toNat_lt
  show (Json.natBelow? UInt8.size (.nat v.value.toNat) >>= fun value =>
    pure ⟨v.name, UInt8.ofNat value⟩) = some v
  rw [hvalue]
  show some (Variant.mk v.name (UInt8.ofNat v.value.toNat)) = some v
  rw [UInt8.ofNat_toNat]

theorem mapM_map_eq_some {read? : β -> Option α} {write : α -> β} {xs : List α}
    (h : forall x, x ∈ xs -> read? (write x) = some x) :
    (xs.map write).mapM read? = some xs := by
  have hread : xs.mapM (read? ∘ write) = some (xs.map id) := mapM_eq_some_map h
  rw [List.mapM_map, hread, List.map_id]

namespace Datatype

def fieldToJson (field : Field Datatype) : Json :=
  Json.record [("name", .text field.name), ("datatype", field.datatype.toJson)]

theorem fieldsToJson_eq_map (fields : List (Field Datatype)) :
    fieldsToJson fields = fields.map fieldToJson := by
  induction fields with
  | nil => rfl
  | cons field rest ih =>
      rw [List.map_cons, ← ih]
      rfl

theorem fieldOfJson?_toJson {ref? : Json -> Option Datatype}
    {field : Field Datatype}
    (h : ref? field.datatype.toJson = some field.datatype) :
    Field.ofJson? ref? (fieldToJson field) = some field := by
  show (ref? field.datatype.toJson >>= fun datatype => pure
    ⟨field.name, datatype⟩) = some field
  rw [h]
  rfl

theorem required?_bind {d : Datatype} {key : String} {item : Json}
    {read? : Json -> Option α} {value : α} (hitem : (key, item) ∈ d.members)
    (hread : read? item = some value) :
    (Shape.required? d.members key).bind read? = some value := by
  rw [Shape.required?, Json.unique?_of_mem d.nodup_members hitem]
  exact hread

theorem flag?_members {d : Datatype} {key : String} {b : Bool}
    (h : (key, .bool b) ∈ d.members) :
    Declaration.flag? d.members key = some b := by
  rw [Declaration.flag?, Json.unique?_of_mem d.nodup_members h]
  rfl

theorem shape_subset_members (d : Datatype) : d.shape.members ⊆ d.members := by
  intro member hmember
  exact List.mem_cons_of_mem _ (List.mem_append_left _ hmember)

theorem tag_mem_members (shape : Shape Datatype) :
    ("shape", Json.text shape.tag) ∈ shape.members := by
  cases shape <;> exact List.mem_cons_self

theorem required?_tag (d : Datatype) :
    (Shape.required? d.members "shape").bind Shape.tagOfJson? =
      some d.shape.tag :=
  required?_bind (d.shape_subset_members (tag_mem_members d.shape)) rfl

theorem required?_element {d : Datatype} {kind : ElementKind}
    (h : ("element", Json.text kind.label) ∈ d.members) :
    (Shape.required? d.members "element").bind ElementKind.ofJson? =
      some kind :=
  required?_bind h (ElementKind.ofJson?_label kind)

theorem ofMembers?_shape {ref? : Json -> Option Datatype} {d : Datatype}
    (h : forall fields, d.shape = .struct fields ->
      forall field, field ∈ fields ->
      ref? field.datatype.toJson = some field.datatype) :
    Shape.ofMembers? ref? d.members = some d.shape := by
  have hsubset := d.shape_subset_members
  rw [Shape.ofMembers?, required?_tag]
  cases hshape : d.shape with
  | primitive kind =>
      rw [hshape] at hsubset
      have helement := required?_element
        (hsubset (List.mem_cons_of_mem _ List.mem_cons_self))
      rw [helement]
      rfl
  | fixedList kind arity =>
      rw [hshape] at hsubset
      have helement := required?_element
        (hsubset (List.mem_cons_of_mem _ List.mem_cons_self))
      have harity : (Shape.required? d.members "arity").bind
            (Json.natBelow? UInt32.size) =
          some arity.toNat :=
        required?_bind
          (hsubset (List.mem_cons_of_mem
            _ (List.mem_cons_of_mem _ List.mem_cons_self)))
          (Json.natBelow?_nat arity.toNat_lt)
      rw [helement, harity]
      show some (Shape.fixedList kind (UInt32.ofNat arity.toNat)) = _
      rw [UInt32.ofNat_toNat]
  | list kind =>
      rw [hshape] at hsubset
      have helement := required?_element
        (hsubset (List.mem_cons_of_mem _ List.mem_cons_self))
      rw [helement]
      rfl
  | enumeration variants =>
      rw [hshape] at hsubset
      have hitems : (Shape.required? d.members "variants").bind Json.items? =
          some (variants.map variantToJson) :=
        required?_bind (hsubset (List.mem_cons_of_mem _ List.mem_cons_self)) rfl
      have hvariants : (variants.map variantToJson).mapM Variant.ofJson? =
          some variants :=
        mapM_map_eq_some fun v _ => v.ofJson?_toJson
      rw [hitems]
      show ((variants.map variantToJson).mapM Variant.ofJson? >>= _) = _
      rw [hvariants]
      rfl
  | struct fields =>
      rw [hshape] at hsubset
      have hitems : (Shape.required? d.members "fields").bind Json.items? =
          some (fields.map fieldToJson) := by
        rw [← fieldsToJson_eq_map]
        exact required?_bind
          (hsubset (List.mem_cons_of_mem _ List.mem_cons_self)) rfl
      have hfields : (fields.map fieldToJson).mapM (Field.ofJson? ref?) =
          some fields :=
        mapM_map_eq_some fun field hfield =>
          fieldOfJson?_toJson (h fields hshape field hfield)
      rw [hitems]
      show ((fields.map fieldToJson).mapM (Field.ofJson? ref?) >>= _) = _
      rw [hfields]
      rfl

theorem ofMembers?_members {ref? : Json -> Option Datatype} {d : Datatype}
    (h : forall fields, d.shape = .struct fields ->
      forall field, field ∈ fields ->
      ref? field.datatype.toJson = some field.datatype) :
    (Declaration.ofMembers? ref? d.members).map ofDeclaration = some d := by
  have hflags : d.flagMembers ⊆ d.members := by
    intro member hmember
    exact List.mem_cons_of_mem _ (List.mem_append_right _ hmember)
  have hname : (Shape.required? d.members "name").bind Json.text? =
      some d.name :=
    required?_bind List.mem_cons_self rfl
  have hnullable := flag?_members (hflags List.mem_cons_self)
  have hbroadcast :=
    flag?_members (hflags (List.mem_cons_of_mem _ List.mem_cons_self))
  have hnonEmpty :=
    flag?_members (hflags
      (List.mem_cons_of_mem _ (List.mem_cons_of_mem _ List.mem_cons_self)))
  rw [Declaration.ofMembers?, hname, hnullable, hbroadcast, hnonEmpty,
    ofMembers?_shape h]
  cases d
  rfl

/-! ## Nested datatypes -/

theorem depth_field_lt {d : Datatype} {fields : List (Field Datatype)}
    (hshape : d.shape = .struct fields) {field : Field Datatype}
    (hfield : field ∈ fields) :
    field.datatype.toJson.depth < d.toJson.depth := by
  have hsubset := d.shape_subset_members
  rw [hshape] at hsubset
  have hdatatype : field.datatype.toJson.depth < (fieldToJson field).depth :=
    Json.depth_lt_record (List.mem_cons_of_mem _ List.mem_cons_self)
  have hitem : (fieldToJson field).depth <
      (Json.array (fieldsToJson fields)).depth := by
    apply Json.depth_lt_array
    rw [fieldsToJson_eq_map]
    exact List.mem_map_of_mem hfield
  have hfields : (Json.array (fieldsToJson fields)).depth < d.toJson.depth := by
    rw [toJson_eq]
    exact Json.depth_lt_record
      (hsubset (List.mem_cons_of_mem _ List.mem_cons_self))
  omega

theorem nested?_toJson {levels : Nat} {d : Datatype}
    (h : d.toJson.depth ≤ levels) :
    nested? levels d.toJson = some d := by
  induction levels generalizing d with
  | zero =>
      rw [toJson_eq, Json.depth_record] at h
      cases h
  | succ levels ih =>
      rw [nested?, toJson_eq]
      show ((Json.textMembers? (Json.keyed d.members)).bind _).map _ = _
      rw [Json.textMembers?_keyed, Option.bind_some]
      apply ofMembers?_members
      intro fields hshape field hfield
      apply ih
      have hlt := depth_field_lt hshape hfield
      omega

/-! ## Limits -/

theorem exists_bool_of_mem_flags {d : Datatype} {member : String × Json}
    (h : member ∈ d.flagMembers) : exists b, member.2 = .bool b := by
  simp only [flagMembers, List.mem_cons, List.not_mem_nil, or_false] at h
  rcases h with rfl | rfl | rfl
  · exact ⟨_, rfl⟩
  · exact ⟨_, rfl⟩
  · exact ⟨_, rfl⟩

theorem plain_variantToJson (v : Variant) : (variantToJson v).Plain := by
  have hvalue : (Json.nat v.value.toNat).Plain :=
    Json.Plain.nat (Nat.lt_trans v.value.toNat_lt (by decide))
  apply Json.Plain.record
  simp [Json.Plain.text, hvalue]

mutual

theorem plain_members : forall d : Datatype, forall member,
    member ∈ d.members -> member.2.Plain
  | ⟨name, shape, nullable, broadcast, nonEmpty⟩ => by
      intro member hmember
      rcases List.mem_cons.mp hmember with rfl | hmember
      · exact Json.Plain.text name
      · rcases List.mem_append.mp hmember with hmember | hmember
        · exact plain_shapeMembers shape member hmember
        · rcases exists_bool_of_mem_flags hmember with ⟨b, hb⟩
          rw [hb]
          exact Json.Plain.bool b

theorem plain_shapeMembers : forall shape : Shape Datatype, forall member,
    member ∈ shape.members -> member.2.Plain
  | .primitive kind => by
      simp [Shape.members, Json.Plain.text]
  | .fixedList kind arity => by
      have harity : (Json.nat arity.toNat).Plain :=
        Json.Plain.nat (Nat.lt_trans arity.toNat_lt (by decide))
      simp [Shape.members, Json.Plain.text, harity]
  | .list kind => by
      simp [Shape.members, Json.Plain.text]
  | .enumeration variants => by
      have hvariants : (Json.array (variants.map variantToJson)).Plain := by
        apply Json.Plain.array
        intro item hitem
        rcases List.mem_map.mp hitem with ⟨v, _, rfl⟩
        exact plain_variantToJson v
      simp [Shape.members, Json.Plain.text, hvariants]
  | .struct fields => by
      have hfields : (Json.array (fieldsToJson fields)).Plain :=
        Json.Plain.array (plain_fieldsToJson fields)
      simp [Shape.members, Json.Plain.text, hfields]

theorem plain_fieldsToJson : forall fields : List (Field Datatype), forall item,
    item ∈ fieldsToJson fields -> item.Plain
  | [] => by
      intro item hitem
      cases hitem
  | ⟨name, datatype⟩ :: rest => by
      intro item hitem
      rcases List.mem_cons.mp hitem with rfl | hitem
      · have hdatatype : datatype.toJson.Plain := by
          rw [toJson_eq]
          exact Json.Plain.record (plain_members datatype)
        apply Json.Plain.record
        simp [Json.Plain.text, hdatatype]
      · exact plain_fieldsToJson rest item hitem

end

theorem plain_toJson (d : Datatype) : d.toJson.Plain := by
  rw [toJson_eq]
  exact Json.Plain.record d.plain_members

theorem depth_of_ownKey {d : Datatype} {member : String × Json}
    (hmember : member ∈ d.members)
    (hown : Declaration.ownKeys.contains member.1 = true) :
    member.2.depth = 0 := by
  rcases List.mem_cons.mp hmember with rfl | hmember
  · rfl
  · rcases List.mem_append.mp hmember with hmember | hmember
    · -- No key of a shape is among the others.
      have hnone : forall member, member ∈ d.shape.members ->
          Declaration.ownKeys.contains member.1 = false := by
        cases d.shape <;> simp [Shape.members, Declaration.ownKeys]
      rw [hnone member hmember] at hown
      cases hown
    · rcases exists_bool_of_mem_flags hmember with ⟨b, hb⟩
      rw [hb]
      rfl

theorem keepsLimits_members_iff (d : Datatype) :
    Declaration.keepsLimits 1 d.members = true ↔
      d.toJson.depth ≤ Json.nestingLimit := by
  have hall : Declaration.keepsLimits 1 d.members = true ↔
      forall member, member ∈ d.members ->
      (Declaration.ownKeys.contains member.1 ||
        member.2.isSound && decide (1 + member.2.depth ≤ Json.nestingLimit)) =
          true :=
    List.all_eq_true
  rw [hall, toJson_eq]
  constructor
  · intro h
    rw [Json.depth_record]
    apply Nat.succ_le_succ
    apply Json.depthOfMembers_le_iff.mpr
    intro member hmember
    cases hown : Declaration.ownKeys.contains member.1 with
    | true =>
        rw [depth_of_ownKey hmember hown]
        exact Nat.zero_le _
    | false =>
        have hlimits := h member hmember
        rw [hown, Bool.false_or, Bool.and_eq_true, decide_eq_true_eq,
          Nat.add_comm] at hlimits
        exact Nat.le_of_succ_le_succ hlimits.2
  · intro h member hmember
    have hlt : member.2.depth < (Json.record d.members).depth :=
      Json.depth_lt_record hmember
    have hlimit : 1 + member.2.depth ≤ Json.nestingLimit := by omega
    rw [(d.plain_members member hmember).isSound, decide_eq_true hlimit,
      Bool.and_true, Bool.or_true]

theorem read?_toJson (ref? : Json -> Option Datatype) (d : Datatype) :
    Declaration.read? ref? 1 d.toJson =
      if d.toJson.depth ≤ Json.nestingLimit then
        Declaration.ofMembers? ref? d.members
      else none := by
  simp only [← keepsLimits_members_iff]
  rw [toJson_eq]
  show (Json.textMembers? (Json.keyed d.members) >>= _) = _
  rw [Json.textMembers?_keyed]
  rfl

/--
A datatype is read back from its text exactly when that nests no deeper than a
reader goes.
-/
theorem parse?_print (d : Datatype) :
    parse? d.print = if d.toJson.depth ≤
      Json.nestingLimit then some d else none := by
  have hmembers :
      (Declaration.ofMembers? (nested? d.toJson.depth) d.members).map
        ofDeclaration =
      some d := by
    apply ofMembers?_members
    intro fields hshape field hfield
    exact nested?_toJson (Nat.le_of_lt (depth_field_lt hshape hfield))
  rw [parse?, print, Json.parse?_compact d.plain_toJson, Option.bind_some,
    ofJson?, read?_toJson]
  split
  · exact hmembers
  · rfl

end Datatype
end Columnar
