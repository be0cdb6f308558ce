import Columnar.Datatype.Json
import Columnar.Datatype.Validity
import Columnar.NameMap

/-!
# Schema documents

A document declares datatypes and the components that use them.  Fields and
components refer to datatypes by name, and a name means a datatype declared
earlier in the same document, so one pass resolves everything and no cycle can
be written.
-/

namespace Columnar

/-- A named use of a datatype; `ref` is what stands for the datatype. -/
structure ComponentDef (ref : Type) where
  name : String
  datatype : ref
deriving DecidableEq, Repr

structure Provider where
  name : String
  version : UInt32
  components : List (ComponentDef Datatype)
deriving DecidableEq

inductive SchemaError
  | missingFile
  | malformed
  | unknownDatatype (name referencedBy : String)
  | duplicateDatatype (name : String)
  | invalid (source : InvalidDatatype)
deriving DecidableEq, Repr

def SchemaError.message : SchemaError -> String
  | .missingFile => "io error: No such file or directory (os error 2)"
  | .malformed => "schema parse error"
  | .unknownDatatype name referencedBy =>
      "unknown datatype " ++ name ++ " referenced by " ++ referencedBy
  | .duplicateDatatype name => "datatype " ++ name ++ " declared more than once"
  | .invalid source => source.message

structure Draft where
  name : String
  version : UInt32
  datatypes : List (Declaration String)
  components : List (ComponentDef String)
deriving DecidableEq, Repr

structure Document where
  name : String
  version : UInt32
  datatypes : NameMap Datatype
  components : List (ComponentDef Datatype)

namespace Draft

/-! ## Reading -/

def componentOfJson? (json : Json) : Option (ComponentDef String) :=
  (Field.ofJson? Json.text? json).map fun field => ⟨field.name, field.datatype⟩

def listOf? (item? : Json -> Option α) : Option Json -> Option (List α)
  | none => some []
  | some json => json.items?.bind fun items => items.mapM item?

def versionOf? : Option Json -> Option UInt32
  | none => some 1
  | some json => (json.natBelow? UInt32.size).map UInt32.ofNat

/--
A declaration stands three levels down: in the document, in its list, in its own
object.
-/
def ofJson? (json : Json) : Option Draft :=
  match json.fields? ["name", "version", "datatypes", "components"] with
  | some [some name, version, datatypes, components] => do
      return {
        name := <- name.text?
        version := <- versionOf? version
        datatypes := <- listOf? (Declaration.read? Json.text? 3) datatypes
        components := <- listOf? componentOfJson? components }
  | _ => none

def parse? (text : String) : Option Draft := (Json.parse? text).bind ofJson?

/-! ## Resolving -/

def lookup (known : NameMap Datatype) (referencedBy name : String) :
    Except SchemaError Datatype :=
  match known.find? name with
  | some datatype => .ok datatype
  | none => .error (.unknownDatatype name referencedBy)

def resolveFields (known : NameMap Datatype) (owner : String) :
    List (Field String) -> Except SchemaError (List (Field Datatype))
  | [] => .ok []
  | field :: rest => do
      let datatype <- lookup known owner field.datatype
      let fields <- resolveFields known owner rest
      return ⟨field.name, datatype⟩ :: fields

def resolveShape (known : NameMap Datatype) (owner : String) :
    Shape String -> Except SchemaError (Shape Datatype)
  | .primitive element => .ok (.primitive element)
  | .fixedList element arity => .ok (.fixedList element arity)
  | .list element => .ok (.list element)
  | .enumeration variants => .ok (.enumeration variants)
  | .struct fields => (resolveFields known owner fields).map .struct

def declare (known : NameMap Datatype) (d : Declaration String) :
    Except SchemaError (NameMap Datatype) :=
  if known.contains d.name then .error (.duplicateDatatype d.name)
  else do
    let shape <- resolveShape known d.name d.shape
    let datatype : Datatype :=
      ⟨d.name, shape, d.nullable, d.broadcastScalar, d.nonEmpty⟩
    match datatype.validate with
    | .error fault => .error (.invalid fault)
    | .ok () => .ok (known.insert d.name datatype)

def declareAll (known : NameMap Datatype) :
    List (Declaration String) -> Except SchemaError (NameMap Datatype)
  | [] => .ok known
  | d :: rest => do
      let known <- declare known d
      declareAll known rest

def resolveComponents (known : NameMap Datatype) :
    List (ComponentDef String) ->
    Except SchemaError (List (ComponentDef Datatype))
  | [] => .ok []
  | component :: rest => do
      let datatype <- lookup known component.name component.datatype
      let components <- resolveComponents known rest
      return ⟨component.name, datatype⟩ :: components

def resolve (draft : Draft) : Except SchemaError Document := do
  let datatypes <- declareAll .empty draft.datatypes
  let components <- resolveComponents datatypes draft.components
  return { name := draft.name, version := draft.version, datatypes, components }

end Draft

namespace Document

def parse (text : String) : Except SchemaError Document :=
  match Draft.parse? text with
  | none => .error .malformed
  | some draft => draft.resolve

def load (contents? : String -> Option String) (path : String) :
    Except SchemaError Document :=
  match contents? path with
  | none => .error .missingFile
  | some text => parse text

def datatype? (d : Document) (name : String) : Option Datatype :=
  d.datatypes.find? name

def provider (d : Document) : Provider := ⟨d.name, d.version, d.components⟩

end Document
end Columnar
