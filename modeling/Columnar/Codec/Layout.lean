import Columnar.Column.Basic
import Columnar.Datatype.Basic
import Columnar.Instance

/-!
# Column layout of a datatype

An element is a leaf, a list of elements is a row of items, an enumeration is a
leaf of bytes, and a struct has one child for each field.  A struct that is
absent still has a slot in every child; a filler stands in it, so that no
child has a null of its own there.
-/

namespace Columnar
namespace Datatype

def maxRowSize : Nat := 2147483647

mutual

def columnType : Datatype -> ColumnType
  | ⟨_, shape, _, _, _⟩ =>
      match shape with
      | .primitive kind => .element kind
      | .fixedList kind arity =>
          .fixedList .item (.element kind) (min arity.toNat maxRowSize)
      | .list kind => .list .item (.element kind)
      | .enumeration _ => .element .u8
      | .struct fields => .struct (fieldTypes fields)

def fieldTypes : List (Field Datatype) -> List (Label × ColumnType)
  | [] => []
  | ⟨name, datatype⟩ :: rest =>
      ({ name, nullable := datatype.nullable }, columnType datatype) ::
        fieldTypes rest

end

mutual

def filler : Datatype -> Instance
  | ⟨_, shape, _, _, _⟩ =>
      match shape with
      | .primitive kind => .elements (.zeros kind 1)
      | .fixedList kind arity => .elements (.zeros kind arity.toNat)
      | .list kind => .elements (.zeros kind 0)
      | .enumeration variants =>
          .one .u8 (variants.head?.elim (0 : UInt8) Variant.value)
      | .struct fields => .struct (fieldFillers fields)

def fieldFillers : List (Field Datatype) -> List Instance
  | [] => []
  | ⟨_, datatype⟩ :: rest => filler datatype :: fieldFillers rest

end

def label (d : Datatype) (name : String) : Label :=
  { name, nullable := d.nullable }

end Datatype
end Columnar
