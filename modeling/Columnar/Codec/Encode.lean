import Columnar.Codec.Layout
import Columnar.Normalize.Basic

/-!
# Encoding

All instances of a batch become one column at once.  Each instance is checked
against the datatype on the way, wherever it came from, so a column that could
be encoded holds instances of its datatype only.
-/

namespace Columnar

def atIndex (index : Nat) : Except ConversionError α -> Except ConversionError α
  | .error e => .error (.atIndex index e)
  | .ok value => .ok value

namespace Instance

def validityOf (datatype : String) (nullable : Bool) (rows : List Instance) :
    Except ConversionError Validity :=
  if rows.any isNull then
    if nullable then .ok (some (rows.map fun row => !row.isNull))
    else .error (.atIndex (rows.findIdx isNull) (.unexpectedNull datatype))
  else .ok none

/-- The elements of one row; the slot of an absent one is filled with zeros. -/
def rowElements (datatype : String) (kind : ElementKind) (arity : Arity) :
    Instance -> Except ConversionError (List kind.Carrier)
  | .null => .ok (List.replicate arity.slot kind.zero)
  | .elements data =>
      match data.as? kind with
      | none => .error (.shapeMismatch datatype (.elements kind))
      | some values =>
          if arity.accepts values.length then .ok values
          else .error (.arityMismatch arity values.length)
  | .struct _ => .error (.shapeMismatch datatype (.elements kind))

def flatten (datatype : String) (kind : ElementKind) (arity : Arity)
    (index : Nat) :
    List Instance -> Except ConversionError (List kind.Carrier)
  | [] => .ok []
  | row :: rest => do
      let values <- Columnar.atIndex index (row.rowElements datatype kind arity)
      let others <- flatten datatype kind arity (index + 1) rest
      return values ++ others

def checkVariants (datatype : String) (variants : List Variant) (index : Nat) :
    List Instance -> Except ConversionError Unit
  | [] => .ok ()
  | row :: rest =>
      match ((row.values? .u8).getD []).find? fun (byte : UInt8) =>
          !variants.any fun v => v.value == byte with
      | some byte =>
          .error (.atIndex index
            (.invalidEnumValue datatype (.number (UInt8.toNat byte))))
      | none => checkVariants datatype variants (index + 1) rest

def rowFields (datatype : String) (count : Nat) :
    Instance -> Except ConversionError (Option (List Instance))
  | .null => .ok none
  | .struct values =>
      if values.length = count then .ok (some values)
      else .error (.shapeMismatch datatype .fieldValues)
  | .elements _ => .error (.shapeMismatch datatype .fieldValues)

def fieldRows (datatype : String) (count : Nat) (index : Nat) :
    List Instance -> Except ConversionError (List (Option (List Instance)))
  | [] => .ok []
  | row :: rest => do
      let values <- Columnar.atIndex index (row.rowFields datatype count)
      let others <- fieldRows datatype count (index + 1) rest
      return values :: others

def firstOr (filler : Instance) : Option (List Instance) -> Instance
  | some (value :: _) => value
  | _ => filler

end Instance

namespace Column

/--
How many rows of one size the items make; rows without items are counted by
their bits.
-/
def rowCount (size items : Nat) (validity : Validity) : Nat :=
  if size = 0 then validity.elim 0 List.length else items / size

def rowsOfFirst : List (Label × Column) -> Nat
  | [] => 0
  | (_, child) :: _ => child.length

end Column

namespace Datatype

mutual

def encode : Datatype -> List Instance -> Except ConversionError Column
  | ⟨name, shape, nullable, _, _⟩, rows => do
      let validity <- Instance.validityOf name nullable rows
      match shape with
      | .primitive kind =>
          let slots <- Instance.flatten name kind (.fixed 1) 0 rows
          return .ofElements ⟨kind, slots⟩ validity
      | .enumeration variants =>
          let slots <- Instance.flatten name .u8 (.fixed 1) 0 rows
          Instance.checkVariants name variants 0 rows
          return .ofElements ⟨.u8, slots⟩ validity
      | .fixedList kind arity =>
          let slots <- Instance.flatten name kind (.fixed arity.toNat) 0 rows
          if arity.toNat ≤ maxRowSize then
            return .fixedList .item arity.toNat
              (Column.rowCount arity.toNat slots.length validity)
              (.ofElements ⟨kind, slots⟩ none) validity
          else
            .error .offsetOverflow
      | .list kind =>
          let offsets :=
            Column.offsetsFrom 0 (rows.map fun row => row.count?.getD 0)
          if offsets.all fun offset => decide (offset < Column.offsetLimit) then
            let slots <- Instance.flatten name kind .variable 0 rows
            return .list .item offsets (.ofElements ⟨kind, slots⟩ none) validity
          else
            .error .offsetOverflow
      | .struct [] => return .struct 0 [] validity
      | .struct (field :: rest) =>
          let values <- Instance.fieldRows name (rest.length + 1) 0 rows
          let children <- encodeFields (field :: rest) values
          return .struct (Column.rowsOfFirst children) children validity

def encodeFields :
    List (Field Datatype) -> List (Option (List Instance)) ->
      Except ConversionError (List (Label × Column))
  | [], _ => .ok []
  | ⟨name, datatype⟩ :: rest, rows => do
      let child <- inField name
        (encode datatype (rows.map (Instance.firstOr datatype.filler)))
      let children <- encodeFields rest (rows.map fun row => row.map List.tail)
      return (datatype.label name, child) :: children

end

end Datatype
end Columnar
