import Columnar.Codec.Layout
import Columnar.DecodeError

/-!
# Decoding

A column of the type a datatype asks for is read row by row.  Slots under a
null row are never looked at.
-/

namespace Columnar

def inContext (location : String) : Except DecodeError α -> Except DecodeError α
  | .error e => .error (.context location e)
  | .ok value => .ok value

namespace Column

def presentElements (kind : ElementKind) (c : Column) :
    Except DecodeError Instance :=
  if 0 < c.nullCount then .error .missingData
  else
    match c with
    | .leaf (.element stored) slots _ =>
        if stored = kind then .ok (.elements ⟨stored, slots⟩)
        else .error (.datatypeMismatch (.element kind) c.type)
    | _ => .error (.datatypeMismatch (.element kind) c.type)

end Column

namespace Datatype

def readVariant (name : String) (variants : List Variant) (byte : UInt8) :
    Except DecodeError Instance :=
  if variants.any fun v => v.value == byte then .ok (.one .u8 byte)
  else .error (.invalidEnumValue name byte)

mutual

def readRow : Datatype -> Column -> Nat -> Except DecodeError Instance
  | ⟨name, shape, nullable, broadcast, nonEmpty⟩, column, row =>
      if column.isNull row then
        if nullable then .ok .null else .error .missingData
      else
        match shape with
        | .primitive kind => (column.slice row 1).presentElements kind
        | .enumeration variants =>
            match column with
            | .leaf (.element .u8) slots _ =>
                match slots[row]? with
                | some byte => readVariant name variants byte
                | none => .error .missingData
            | _ => .error (.datatypeMismatch (.element .u8) column.type)
        | .fixedList kind arity =>
            match column with
            | .fixedList _ size _ child _ =>
                (child.slice (row * size) size).presentElements kind
            | _ =>
                .error (.datatypeMismatch
                  (columnType ⟨name, .fixedList kind arity, nullable,
                    broadcast, nonEmpty⟩)
                  column.type)
        | .list kind =>
            match column with
            | .list _ offsets child _ =>
                match offsets[row]?, offsets[row + 1]? with
                | some start, some stop =>
                    (child.slice start (stop - start)).presentElements kind
                | _, _ => .error .missingData
            | _ =>
                .error (.datatypeMismatch
                  (columnType ⟨name, .list kind, nullable, broadcast, nonEmpty⟩)
                    column.type)
        | .struct fields =>
            match column with
            | .struct _ children _ =>
                (readFields fields children row).map .struct
            | _ =>
                .error (.datatypeMismatch
                  (columnType
                    ⟨name, .struct fields, nullable, broadcast, nonEmpty⟩)
                    column.type)

def readFields :
    List (Field Datatype) -> List (Label × Column) -> Nat ->
    Except DecodeError (List Instance)
  | ⟨name, datatype⟩ :: fields, (_, child) :: children, row => do
      let value <- inContext name (readRow datatype child row)
      let values <- readFields fields children row
      return value :: values
  | _, _, _ => .ok []

end

/--
The rows from `row` on, `count` of them; the first that cannot be read decides
the error.
-/
def readRows (d : Datatype) (column : Column) (row : Nat) :
    Nat -> Except DecodeError (List Instance)
  | 0 => .ok []
  | count + 1 => do
      let value <- d.readRow column row
      let values <- readRows d column (row + 1) count
      return value :: values

def decode (d : Datatype) (column : Column) :
    Except DecodeError (List Instance) :=
  if column.type = d.columnType then
    inContext d.name (d.readRows column 0 column.length)
  else .error (.datatypeMismatch d.columnType column.type)

end Datatype
end Columnar
