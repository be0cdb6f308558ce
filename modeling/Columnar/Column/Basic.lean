import Columnar.Column.Type

/-!
# Columns

A column is its slots, its children and, if any row may be null, one bit for
each row that says whether the row is present.  The slots under a null row hold
something all the same, so that rows keep their places.
-/

namespace Columnar

/--
One bit for each row, true when the row is present; without bits every row is.
-/
abbrev Validity := Option (List Bool)

inductive Column
  | leaf (kind : LeafKind) (slots : List kind.Carrier) (validity : Validity)
  /-- Rows of exactly `size` items. -/
  | fixedList (item : Label) (size rows : Nat) (child : Column)
      (validity : Validity)
  /-- Row `i` holds the items from `offsets[i]` up to `offsets[i + 1]`. -/
  | list (item : Label) (offsets : List Nat) (child : Column)
      (validity : Validity)
  | struct (rows : Nat) (fields : List (Label × Column)) (validity : Validity)

namespace Column

def ofElements (data : Elements) (validity : Validity) : Column :=
  .leaf (.element data.kind) data.values validity

def length : Column -> Nat
  | .leaf _ slots _ => slots.length
  | .fixedList _ _ rows _ _ => rows
  | .list _ offsets _ _ => offsets.length - 1
  | .struct rows _ _ => rows

def validity : Column -> Validity
  | .leaf _ _ validity => validity
  | .fixedList _ _ _ _ validity => validity
  | .list _ _ _ validity => validity
  | .struct _ _ validity => validity

def isNull (c : Column) (row : Nat) : Bool :=
  match c.validity with
  | none => false
  | some bits => bits[row]? == some false

def nullCount (c : Column) : Nat :=
  match c.validity with
  | none => 0
  | some bits => bits.count false

mutual

def type : Column -> ColumnType
  | .leaf kind _ _ => .leaf kind
  | .fixedList item size _ child _ => .fixedList item child.type size
  | .list item _ child _ => .list item child.type
  | .struct _ fields _ => .struct (fieldTypes fields)

def fieldTypes : List (Label × Column) -> List (Label × ColumnType)
  | [] => []
  | (label, child) :: rest => (label, child.type) :: fieldTypes rest

end

def window (xs : List α) (offset count : Nat) : List α :=
  (xs.drop offset).take count

mutual

/--
The rows from `offset` on, `count` of them.  A list keeps its whole child.
-/
def slice : Column -> Nat -> Nat -> Column
  | .leaf kind slots validity, offset, count =>
      .leaf kind (window slots offset count)
        (validity.map fun bits => window bits offset count)
  | .fixedList item size _ child validity, offset, count =>
      .fixedList item size count (slice child (offset * size) (count * size))
        (validity.map fun bits => window bits offset count)
  | .list item offsets child validity, offset, count =>
      .list item (window offsets offset (count + 1)) child
        (validity.map fun bits => window bits offset count)
  | .struct _ fields validity, offset, count =>
      .struct count (sliceFields fields offset count)
        (validity.map fun bits => window bits offset count)

def sliceFields : List (Label × Column) -> Nat -> Nat -> List (Label × Column)
  | [], _, _ => []
  | (label, child) :: rest, offset, count =>
      (label, slice child offset count) :: sliceFields rest offset count

end

mutual

def empty : ColumnType -> Column
  | .leaf kind => .leaf kind [] none
  | .fixedList item type size => .fixedList item size 0 (empty type) none
  | .list item type => .list item [0] (empty type) none
  | .struct fields => .struct 0 (emptyFields fields) none

def emptyFields : List (Label × ColumnType) -> List (Label × Column)
  | [] => []
  | (label, type) :: rest => (label, empty type) :: emptyFields rest

end

def total : List Nat -> Nat
  | [] => 0
  | length :: rest => length + total rest

/--
Where runs of the given lengths begin and end when the first begins at `start`.
-/
def offsetsFrom (start : Nat) : List Nat -> List Nat
  | [] => [start]
  | length :: rest => start :: offsetsFrom (start + length) rest

/-- An offset has to fit a signed 32-bit word. -/
def offsetLimit : Nat := 2147483648

end Column
end Columnar
