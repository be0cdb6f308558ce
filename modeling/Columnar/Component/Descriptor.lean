import Columnar.Component.Name

/-!
# Descriptors

A descriptor says which component a batch holds and, if the batch fills a slot
of an archetype, which archetype and which of its fields.
-/

namespace Columnar

structure Descriptor where
  archetype : Option String := none
  field : Option String := none
  component : ComponentName
deriving DecidableEq, Repr

namespace Descriptor

def bare (component : ComponentName) : Descriptor := { component }

def inSlot (d : Descriptor) (archetype field : String) : Descriptor :=
  { d with archetype := some archetype, field := some field }

def text (d : Descriptor) : String :=
  d.archetype.elim "" (fun archetype => archetype ++ ":") ++ d.component.text
    ++ d.field.elim "" fun field => "#" ++ field

/--
By archetype, then by field, then by component; what is not set comes first.
-/
instance : Ord Descriptor where
  compare a b :=
    (compare a.archetype b.archetype).then
      ((compare a.field b.field).then
        (compare a.component.text b.component.text))

def sort (ds : List Descriptor) : List Descriptor :=
  ds.mergeSort fun a b => (compare a b).isLE

end Descriptor
end Columnar
