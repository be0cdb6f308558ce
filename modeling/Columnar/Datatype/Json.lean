import Columnar.Datatype.Basic
import Columnar.Json.Fields
import Columnar.Json.Reader
import Columnar.Json.Printer

/-!
# Datatypes in JSON

A datatype is an object: its name, its flags, and beside them the keys of its
shape, one of which names the shape itself.  Keys that belong to neither are
passed over, but as any of them might have belonged to the shape their values
are held to the nesting limit, to finite numbers and to strings that are texts.

How a field refers to its datatype is left to the caller: a declaration names
it, a definition spells it out.
-/

namespace Columnar

/-- A datatype as written, its fields referring to datatypes by `ref`. -/
structure Declaration (ref : Type) where
  name : String
  shape : Shape ref
  nullable : Bool
  broadcastScalar : Bool
  nonEmpty : Bool
deriving DecidableEq, Repr

namespace ElementKind

def ofLabel? (label : String) : Option ElementKind :=
  [f32, u8, u32, bool].find? fun kind => kind.label == label

/--
A kind by its label; inside a datatype an empty object says as little about it
as null does.
-/
def ofJson? : Json -> Option ElementKind
  | .object [(some label, .object [])] => ofLabel? label
  | json => json.word?.bind ofLabel?

end ElementKind

/-! ## Reading -/

namespace Variant

def ofJson? (json : Json) : Option Variant :=
  match json.fields? ["name", "value"] with
  | some [some name, some value] => do
      return ⟨<- name.text?, UInt8.ofNat (<- value.natBelow? UInt8.size)⟩
  | _ => none

end Variant

namespace Field

def ofJson? (ref? : Json -> Option ref) (json : Json) : Option (Field ref) :=
  match json.fields? ["name", "datatype"] with
  | some [some name, some datatype] => do
      return ⟨<- name.text?, <- ref? datatype⟩
  | _ => none

end Field

namespace Shape

/-- The words for the shapes; a number stands for the word at that position. -/
def tags : List String := ["primitive", "fixed_list", "list", "enum", "struct"]

def tag : Shape ref -> String
  | .primitive _ => "primitive"
  | .fixedList _ _ => "fixed_list"
  | .list _ => "list"
  | .enumeration _ => "enum"
  | .struct _ => "struct"

def tagOfJson? : Json -> Option String
  | .string text => text
  | json => (json.natBelow? tags.length).bind fun index => tags[index]?

def required? (members : List (String × Json)) (key : String) : Option Json :=
  (Json.unique? members key).join

def ofMembers? (ref? : Json -> Option ref) (members : List (String × Json)) :
    Option (Shape ref) := do
  let element? := (required? members "element").bind ElementKind.ofJson?
  match <- (required? members "shape").bind tagOfJson? with
  | "primitive" => return .primitive (<- element?)
  | "fixed_list" =>
      let arity <- (required? members "arity").bind (Json.natBelow? UInt32.size)
      return .fixedList (<- element?) (UInt32.ofNat arity)
  | "list" => return .list (<- element?)
  | "enum" =>
      let items <- (required? members "variants").bind Json.items?
      return .enumeration (<- items.mapM Variant.ofJson?)
  | "struct" =>
      let items <- (required? members "fields").bind Json.items?
      return .struct (<- items.mapM (Field.ofJson? ref?))
  | _ => none

end Shape

namespace Declaration

def ownKeys : List String :=
  ["name", "nullable", "broadcast_scalar", "non_empty"]

def flag? (members : List (String × Json)) (key : String) : Option Bool :=
  match Json.unique? members key with
  | none => none
  | some none => some false
  | some (some json) => json.bool?

def ofMembers? (ref? : Json -> Option ref) (members : List (String × Json)) :
    Option (Declaration ref) := do
  let name <- (Shape.required? members "name").bind Json.text?
  let nullable <- flag? members "nullable"
  let broadcastScalar <- flag? members "broadcast_scalar"
  let nonEmpty <- flag? members "non_empty"
  let shape <- Shape.ofMembers? ref? members
  return { name, shape, nullable, broadcastScalar, nonEmpty }

def ofJson? (ref? : Json -> Option ref) : Json -> Option (Declaration ref)
  | .object members => (Json.textMembers? members).bind (ofMembers? ref?)
  | _ => none

/--
The values that may belong to the shape keep to the limits, at a number of
levels down.
-/
def keepsLimits (level : Nat) (members : List (String × Json)) : Bool :=
  members.all fun (key, item) =>
    ownKeys.contains key
      || item.isSound && decide (level + item.depth ≤ Json.nestingLimit)

def read? (ref? : Json -> Option ref) (level : Nat) :
    Json -> Option (Declaration ref)
  | .object members => do
      let members <- Json.textMembers? members
      if keepsLimits level members then ofMembers? ref? members else none
  | _ => none

end Declaration

namespace Datatype

def ofDeclaration (d : Declaration Datatype) : Datatype :=
  ⟨d.name, d.shape, d.nullable, d.broadcastScalar, d.nonEmpty⟩

/--
Reads a nested definition; a struct within a struct is at least one level
further down.
-/
def nested? : Nat -> Json -> Option Datatype
  | 0, _ => none
  | levels + 1, json =>
      (Declaration.ofJson? (nested? levels) json).map ofDeclaration

def ofJson? (json : Json) : Option Datatype :=
  (Declaration.read? (nested? json.depth) 1 json).map ofDeclaration

def parse? (text : String) : Option Datatype := (Json.parse? text).bind ofJson?

/-! ## Writing -/

def variantToJson (v : Variant) : Json :=
  Json.record [("name", .text v.name), ("value", .nat v.value.toNat)]

mutual

def toJson : Datatype -> Json
  | ⟨name, shape, nullable, broadcastScalar, nonEmpty⟩ =>
      let flags : List (String × Json) :=
        [("nullable", .bool nullable),
          ("broadcast_scalar", .bool broadcastScalar),
          ("non_empty", .bool nonEmpty)]
      let element (kind : ElementKind) : String × Json :=
        ("element", .text kind.label)
      let shapeMembers : List (String × Json) :=
        match shape with
        | .primitive kind => [("shape", .text "primitive"), element kind]
        | .fixedList kind arity =>
            [("shape", .text "fixed_list"), element kind,
              ("arity", .nat arity.toNat)]
        | .list kind => [("shape", .text "list"), element kind]
        | .enumeration variants =>
            [("shape", .text "enum"),
              ("variants", .array (variants.map variantToJson))]
        | .struct fields =>
            [("shape", .text "struct"),
              ("fields", .array (fieldsToJson fields))]
      Json.record (("name", .text name) :: (shapeMembers ++ flags))

def fieldsToJson : List (Field Datatype) -> List Json
  | [] => []
  | ⟨name, datatype⟩ :: rest =>
      Json.record [("name", .text name), ("datatype", toJson datatype)] ::
        fieldsToJson rest

end

def print (d : Datatype) : String := d.toJson.compact

end Datatype
end Columnar
