import Columnar.Element

/-!
# Instances

The normal form of one value of a datatype: absent, a run of elements, or one
instance for each field of a struct.
-/

namespace Columnar

inductive Instance
  | null
  | elements (data : Elements)
  | struct (fields : List Instance)

namespace Instance

def isNull : Instance -> Bool
  | .null => true
  | _ => false

def elements? : Instance -> Option Elements
  | .elements data => some data
  | _ => none

def fields? : Instance -> Option (List Instance)
  | .struct fields => some fields
  | _ => none

def values? (kind : ElementKind) (i : Instance) : Option (List kind.Carrier) :=
  i.elements?.bind fun data => data.as? kind

def count? (i : Instance) : Option Nat :=
  i.elements?.map Elements.length

def single? (kind : ElementKind) (i : Instance) : Option kind.Carrier :=
  match i.values? kind with
  | some [value] => some value
  | _ => none

def one (kind : ElementKind) (value : kind.Carrier) : Instance :=
  .elements ⟨kind, [value]⟩

end Instance
end Columnar
