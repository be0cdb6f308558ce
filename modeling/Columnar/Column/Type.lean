import Columnar.Element
import Columnar.Text.Quoted

/-!
# Column types

The type of a column says how its slots are laid out: a leaf of one kind, rows
of a fixed or variable number of items, or one child for each field.  Items and
fields carry a label, and two types are the same only if all labels agree.
-/

namespace Columnar

/--
What the slots of a leaf hold: elements, or one of the kinds no datatype stores.
-/
inductive LeafKind
  | element (kind : ElementKind)
  | f64
  | i64
  | utf8
deriving DecidableEq, Repr

namespace LeafKind

abbrev Carrier : LeafKind -> Type
  | .element kind => kind.Carrier
  | .f64 => Binary64
  | .i64 => Int64
  | .utf8 => String

def text : LeafKind -> String
  | .element .f32 => "Float32"
  | .element .u8 => "UInt8"
  | .element .u32 => "UInt32"
  | .element .bool => "Boolean"
  | .f64 => "Float64"
  | .i64 => "Int64"
  | .utf8 => "Utf8"

end LeafKind

/--
What a nested column says about one of its children, besides the child's type.
-/
structure Label where
  name : String
  nullable : Bool
  metadata : List (String × String) := []
deriving DecidableEq, Repr

namespace Label

def item : Label := { name := "item", nullable := false }

def metadataText (metadata : List (String × String)) : String :=
  "\x7b"
    ++ ", ".intercalate (metadata.map fun (key, value) =>
      Text.quoted key ++ ": " ++ Text.quoted value)
    ++ "\x7d"

def text (l : Label) (type : String) : String :=
  "Field \x7b name: " ++ Text.quoted l.name ++ ", data_type: " ++ type
    ++ ", nullable: " ++ toString l.nullable
    ++ ", dict_id: 0, dict_is_ordered: false, metadata: " ++
      metadataText l.metadata ++ " \x7d"

end Label

inductive ColumnType
  | leaf (kind : LeafKind)
  | fixedList (item : Label) (type : ColumnType) (size : Nat)
  | list (item : Label) (type : ColumnType)
  | struct (fields : List (Label × ColumnType))
deriving Repr

namespace ColumnType

def element (kind : ElementKind) : ColumnType := .leaf (.element kind)

mutual

def text : ColumnType -> String
  | .leaf kind => kind.text
  | .fixedList item type size =>
      "FixedSizeList(" ++ item.text type.text ++ ", " ++ toString size ++ ")"
  | .list item type => "List(" ++ item.text type.text ++ ")"
  | .struct fields => "Struct([" ++ ", ".intercalate (fieldTexts fields) ++ "])"

def fieldTexts : List (Label × ColumnType) -> List String
  | [] => []
  | (label, type) :: rest => label.text type.text :: fieldTexts rest

end

/-! ## Equality -/

mutual

def same : ColumnType -> ColumnType -> Bool
  | .leaf kind, .leaf kind' => kind == kind'
  | .fixedList item type size, .fixedList item' type' size' =>
      item == item' && same type type' && size == size'
  | .list item type, .list item' type' => item == item' && same type type'
  | .struct fields, .struct fields' => sameFields fields fields'
  | _, _ => false

def sameFields : List (Label × ColumnType) -> List (Label × ColumnType) -> Bool
  | [], [] => true
  | (label, type) :: rest, (label', type') :: rest' =>
      label == label' && same type type' && sameFields rest rest'
  | _, _ => false

end

mutual

theorem same_iff : forall a b : ColumnType, same a b = true ↔ a = b
  | .leaf _, b => by
      cases b <;> simp [same]
  | .fixedList _ type _, b => by
      cases b with
      | fixedList _ type' _ =>
          simp [same, same_iff type type', and_assoc]
      | _ => simp [same]
  | .list _ type, b => by
      cases b with
      | list _ type' => simp [same, same_iff type type']
      | _ => simp [same]
  | .struct fields, b => by
      cases b with
      | struct fields' => simp [same, sameFields_iff fields fields']
      | _ => simp [same]

theorem sameFields_iff :
    forall as bs : List (Label × ColumnType), sameFields as bs = true ↔ as = bs
  | [], [] => by simp [sameFields]
  | [], _ :: _ => by simp [sameFields]
  | _ :: _, [] => by simp [sameFields]
  | (_, type) :: rest, (_, type') :: rest' => by
      simp [sameFields, same_iff type type', sameFields_iff rest rest']

end

instance instDecidableEq : DecidableEq ColumnType :=
  fun a b => decidable_of_iff (same a b = true) (same_iff a b)

end ColumnType
end Columnar
