import Columnar.Codec.Layout
import Columnar.Component.Descriptor
import Columnar.Schema.Document

/-!
# The component registry

A registry maps component names to their datatypes.  The first registration of
a name stands for good: registering the same datatype again changes nothing,
and another datatype under that name is refused.
-/

namespace Columnar

structure Handle where
  name : ComponentName
  id : Digest
  datatype : Datatype
deriving DecidableEq

def Handle.of (name : ComponentName) (datatype : Datatype) : Handle :=
  ⟨name, name.id, datatype⟩

inductive RegistryError
  | duplicate (name existing attempted : String)
  | invalidName (name : String) (fault : NameFault)
  | invalidDatatype (source : InvalidDatatype)
deriving DecidableEq, Repr

def RegistryError.message : RegistryError -> String
  | .duplicate name existing attempted =>
      "component " ++ name ++ " is already registered with datatype " ++
        existing
        ++ ", cannot re-register with " ++ attempted
  | .invalidName name fault =>
      "invalid component name " ++ Text.quoted name ++ ": " ++ fault.message
  | .invalidDatatype source => source.message

structure UnknownComponent where
  name : String
deriving DecidableEq, Repr

def UnknownComponent.message (e : UnknownComponent) : String :=
  "unknown component " ++ e.name

def parseName (text : String) : Except RegistryError ComponentName :=
  match ComponentName.parse text with
  | .ok name => .ok name
  | .error fault => .error (.invalidName text fault)

def Descriptor.parse (text : String) : Except RegistryError Descriptor :=
  (parseName text).map .bare

structure Registry where
  handles : NameMap Handle

namespace Registry

def empty : Registry := ⟨.empty⟩

instance : Inhabited Registry := ⟨empty⟩

def candidate (name : String) (datatype : Datatype) :
    Except RegistryError Handle := do
  let name <- parseName name
  match datatype.validate with
  | .error fault => .error (.invalidDatatype fault)
  | .ok () => .ok (.of name datatype)

def enter (r : Registry) (handle : Handle) :
    Except RegistryError Handle × Registry :=
  match r.handles.find? handle.name.text with
  | some existing =>
      if existing.datatype = handle.datatype then (.ok existing, r)
      else
        (.error (.duplicate handle.name.text existing.datatype.name
          handle.datatype.name), r)
  | none => (.ok handle, ⟨r.handles.insert handle.name.text handle⟩)

/-- Registers a component; the registry changes only when the name is new. -/
def register (r : Registry) (name : String) (datatype : Datatype) :
    Except RegistryError Handle × Registry :=
  match candidate name datatype with
  | .error e => (.error e, r)
  | .ok handle => r.enter handle

/--
Registers components in order up to the first failure; those before it stay
registered.
-/
def registerEach (r : Registry) :
    List (ComponentDef Datatype) ->
    Except RegistryError (List Handle) × Registry
  | [] => (.ok [], r)
  | component :: rest =>
      match r.register component.name component.datatype with
      | (.error e, r) => (.error e, r)
      | (.ok handle, r) =>
          let (handles, r) := r.registerEach rest
          (handles.map (handle :: ·), r)

def load (r : Registry) (p : Provider) :
    Except RegistryError (List Handle) × Registry :=
  r.registerEach p.components

def handle (r : Registry) (name : String) : Except UnknownComponent Handle :=
  match r.handles.find? name with
  | some handle => .ok handle
  | none => .error ⟨name⟩

def resolve (r : Registry) (name : String) : Except UnknownComponent Datatype :=
  (r.handle name).map Handle.datatype

def contains (r : Registry) (name : String) : Bool := r.handles.contains name

def size (r : Registry) : Nat := r.handles.size

def names (r : Registry) : List String := r.handles.names

end Registry
end Columnar
