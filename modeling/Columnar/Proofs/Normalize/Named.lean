import Mathlib.Data.List.Nodup
import Columnar.Proofs.Outcome

/-!
# Values given by name

A struct refuses a record with a name that none of its fields has.  Otherwise
each field, in declared order, takes the first value of its name.
-/

namespace Columnar
namespace NativeValue

variable {pairs : List (String × NativeValue)} {name : String}
  {value : NativeValue}

/-- The value stands behind its name, and nothing before it has that name. -/
def First (pairs : List (String × NativeValue)) (name : String)
    (value : NativeValue) : Prop :=
  exists earlier later, pairs = earlier ++ (name, value) :: later ∧
    name ∉ earlier.map Prod.fst

def named? (pairs : List (String × NativeValue)) (name : String) :
    Option NativeValue :=
  (pairs.find? fun pair => pair.1 == name).map Prod.snd

theorem named?_eq_some_iff :
    named? pairs name = some value ↔ First pairs name value := by
  simp only [named?, First, Option.map_eq_some_iff,
    List.find?_eq_some_iff_append, beq_iff_eq, List.mem_map, not_exists,
    not_and]
  constructor
  · rintro ⟨⟨_, _⟩, ⟨rfl, earlier, later, rfl, hearlier⟩, rfl⟩
    exact ⟨earlier, later, rfl,
      fun pair hpair => by simpa using hearlier pair hpair⟩
  · rintro ⟨earlier, later, rfl, hearlier⟩
    exact ⟨(name, value), ⟨rfl, earlier, later, rfl,
      fun pair hpair => by simpa using hearlier pair hpair⟩, rfl⟩

theorem named?_eq_none_iff :
    named? pairs name = none ↔ name ∉ pairs.map Prod.fst := by
  rw [named?, Option.map_eq_none_iff, List.find?_eq_none, List.mem_map]
  constructor
  · rintro h ⟨pair, hpair, rfl⟩
    exact h pair hpair (beq_self_eq_true _)
  · intro h pair hpair hname
    exact h ⟨pair, hpair, beq_iff_eq.mp hname⟩

theorem named?_eq_some_iff_mem (hdistinct : (pairs.map Prod.fst).Nodup) :
    named? pairs name = some value ↔ (name, value) ∈ pairs := by
  constructor
  · intro h
    rcases named?_eq_some_iff.mp h with ⟨earlier, later, rfl, _⟩
    exact List.mem_append_right _ List.mem_cons_self
  · intro hmem
    cases hfound : named? pairs name with
    | none =>
        exact absurd (List.mem_map_of_mem hmem) (named?_eq_none_iff.mp hfound)
    | some other =>
        rcases named?_eq_some_iff.mp hfound with ⟨earlier, later, rfl, _⟩
        have hother : (name, other) ∈ earlier ++ (name, other) :: later :=
          List.mem_append_right _ List.mem_cons_self
        have heq := List.inj_on_of_nodup_map hdistinct hother hmem rfl
        rw [(Prod.mk.inj heq).2]

theorem named?_perm {others : List (String × NativeValue)}
    (hdistinct : (pairs.map Prod.fst).Nodup) (hperm : pairs.Perm others)
    (key : String) :
    named? pairs key = named? others key := by
  have hothers : (others.map Prod.fst).Nodup :=
    (hperm.map Prod.fst).nodup_iff.mp hdistinct
  apply Option.ext
  intro value
  rw [named?_eq_some_iff_mem hdistinct, named?_eq_some_iff_mem hothers,
    hperm.mem_iff]

theorem named?_append (earlier later : List (String × NativeValue))
    (key : String) :
    named? (earlier ++ later) key =
      (named? earlier key).or (named? later key) := by
  rw [named?, List.find?_append, Option.map_or]
  rfl

theorem named?_cons (name : String) (value : NativeValue)
    (later : List (String × NativeValue)) (key : String) :
    named? ((name, value) :: later) key =
      if name = key then some value else named? later key := by
  rw [named?, List.find?_cons]
  by_cases h : name = key
  · rw [if_pos h, beq_iff_eq.mpr h]
    rfl
  · rw [if_neg h, beq_false_of_ne h]
    rfl

theorem named?_append_cons_of_mem {earlier later : List (String × NativeValue)}
    {key : String} (hkey : key ∈ earlier.map Prod.fst) (supplied : NativeValue)
    (name : String) :
    named? (earlier ++ (key, supplied) :: later) name = named?
      (earlier ++ later) name := by
  rw [named?_append, named?_append, named?_cons]
  split
  · next heq =>
      cases hfound : named? earlier name with
      | some first => rfl
      | none => exact absurd (heq ▸ hkey) (named?_eq_none_iff.mp hfound)
  · rfl

end NativeValue

namespace Datatype

open NativeValue (named?)

def undeclared? (fields : List (Field Datatype)) (names : List String) :
    Option String :=
  names.find? fun name => !fields.any fun field => field.name == name

theorem undeclared?_eq_none_iff {fields : List (Field Datatype)}
    {names : List String} :
    undeclared? fields names = none ↔
      forall name, name ∈ names -> name ∈ fields.map Field.name := by
  simp [undeclared?]

theorem undeclared?_append_cons_of_mem {fields : List (Field Datatype)}
    {earlier later : List String} {key : String} (hkey : key ∈ earlier) :
    undeclared? fields (earlier ++ key :: later) = undeclared? fields
      (earlier ++ later) := by
  rw [undeclared?, List.find?_append, undeclared?, List.find?_append,
    List.find?_cons]
  split
  · next hundeclared =>
      cases hfound : earlier.find? fun name => !fields.any fun field =>
        field.name == name with
      | some first => rfl
      | none => exact absurd hundeclared (List.find?_eq_none.mp hfound key hkey)
  · rfl

theorem undeclared?_congr {fields others : List (Field Datatype)}
    (h : fields.map Field.name = others.map Field.name) (names : List String) :
    undeclared? fields names = undeclared? others names := by
  have hany : forall (fields : List (Field Datatype)) (name : String),
      (fields.any fun field => field.name == name) = (fields.map Field.name).any
        (· == name) := by
    intro fields name
    rw [List.any_map]
    rfl
  simp only [undeclared?, hany, h]

def readNamed (config : Config) (owner : String) (field : Field Datatype) :
    Option NativeValue -> Except ConversionError Instance
  | some value => inField field.name (field.datatype.normalize config value)
  | none =>
      if field.datatype.nullable then
        .ok .null
      else
        .error (.missingField owner field.name)

theorem readNamed_eq_ok_iff {config : Config} {owner : String}
    {field : Field Datatype} {supplied : Option NativeValue} {i : Instance} :
    readNamed config owner field supplied = .ok i ↔
      (exists value, supplied = some value ∧
        field.datatype.normalize config value = .ok i) ∨
        (supplied = none ∧ field.datatype.nullable = true ∧ i = .null) := by
  cases supplied with
  | some value => simp [readNamed, inField_eq_ok_iff]
  | none =>
      cases hnullable : field.datatype.nullable <;>
        simp [readNamed, hnullable, eq_comm]

section

variable {config : Config} {owner name : String}
  {nullable broadcast nonEmpty : Bool} {fields : List (Field Datatype)}
  {pairs others : List (String × NativeValue)}

theorem normalize_record :
    normalize config ⟨name, .struct fields, nullable, broadcast, nonEmpty⟩
        (.record pairs) =
      match undeclared? fields (pairs.map Prod.fst) with
      | some key => .error (.unknownField name key)
      | none => (normalizeNamed config name pairs fields).map .struct := by
  rw [normalize, undeclared?, List.find?_map]
  show _ = match Option.map Prod.fst
    (pairs.find? fun pair => !fields.any fun field => field.name == pair.1) with
    | some key => _
    | none => _
  cases pairs.find? fun pair => !fields.any fun field =>
    field.name == pair.1 <;> rfl

theorem normalizeNamed_cons (field : Field Datatype)
    (rest : List (Field Datatype)) :
    normalizeNamed config owner pairs (field :: rest) = do
      let value <- readNamed config owner field (named? pairs field.name)
      let values <- normalizeNamed config owner pairs rest
      return value :: values := by
  rcases field with ⟨name, datatype⟩
  rw [normalizeNamed, named?]
  cases pairs.find? fun pair => pair.1 == name with
  | some pair => rfl
  | none => cases hnullable : datatype.nullable <;> simp [readNamed, hnullable]

theorem normalizeNamed_eq_ok_iff {values : List Instance} :
    normalizeNamed config owner pairs fields = .ok values ↔
      List.Forall₂ (fun field value =>
        readNamed config owner field (named? pairs field.name) = .ok value)
          fields values := by
  induction fields generalizing values with
  | nil => simp [normalizeNamed, eq_comm]
  | cons field rest ih =>
      simp only [normalizeNamed_cons, bind_eq_ok_iff, pure_eq_ok_iff, ih,
        List.forall₂_cons_left_iff]
      constructor
      · rintro ⟨value, hvalue, others, hothers, rfl⟩
        exact ⟨value, others, hvalue, hothers, rfl⟩
      · rintro ⟨value, others, hvalue, hothers, rfl⟩
        exact ⟨value, hvalue, others, hothers, rfl⟩

theorem normalizeNamed_congr
    (h : forall field, field ∈ fields ->
      readNamed config owner field (named? pairs field.name) =
        readNamed config owner field (named? others field.name)) :
    normalizeNamed config owner pairs fields =
      normalizeNamed config owner others fields := by
  induction fields with
  | nil => rw [normalizeNamed, normalizeNamed]
  | cons field rest ih =>
      rw [List.forall_mem_cons] at h
      rw [normalizeNamed_cons, normalizeNamed_cons, h.1, ih h.2]

theorem normalizePositional_eq_ok_iff {items : List NativeValue}
    {values : List Instance} (hcount : items.length = fields.length) :
    normalizePositional config fields items = .ok values ↔
      List.Forall₂ (fun (field, item) value =>
        field.datatype.normalize config item = .ok value)
        (fields.zip items) values := by
  induction fields generalizing items values with
  | nil => simp [normalizePositional, eq_comm]
  | cons field rest ih =>
      cases items with
      | nil => cases hcount
      | cons item items =>
          simp only [normalizePositional, bind_eq_ok_iff, pure_eq_ok_iff,
            inField_eq_ok_iff, ih (Nat.succ.inj hcount), List.zip_cons_cons,
            List.forall₂_cons_left_iff]
          constructor
          · rintro ⟨value, hvalue, others, hothers, rfl⟩
            exact ⟨value, others, hvalue, hothers, rfl⟩
          · rintro ⟨value, others, hvalue, hothers, rfl⟩
            exact ⟨value, hvalue, others, hothers, rfl⟩

end
end Datatype
end Columnar
