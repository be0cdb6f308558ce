import Columnar.Datatype.Basic
import Columnar.Text.Blank
import Columnar.Text.Ascii

/-!
# Valid datatypes

A datatype is checked from the outside in: its own name, then its shape, and
for a struct each field in turn, the field's own rules before the datatype it
holds.  The first fault found is reported under the name of the datatype it is
in.
-/

namespace Columnar

inductive DatatypeFault
  | blankName
  | zeroArity
  | noVariants
  | sharedDiscriminant (first second : String) (value : UInt8)
  | duplicateVariant (name : String)
  | noFields
  | emptyFieldName (index : Nat)
  | duplicateField (name : String)
deriving DecidableEq, Repr

def DatatypeFault.message : DatatypeFault -> String
  | .blankName => "datatype name is empty"
  | .zeroArity => "fixed arity must be non-zero"
  | .noVariants => "enum declares no variants"
  | .sharedDiscriminant first second value =>
      "variants " ++ first ++ " and " ++ second ++ " share discriminant " ++
        toString value.toNat
  | .duplicateVariant name => "duplicate variant name " ++ name
  | .noFields => "struct declares no fields"
  | .emptyFieldName index => "field " ++ toString index ++ " has an empty name"
  | .duplicateField name => "duplicate field name " ++ name

structure InvalidDatatype where
  datatype : String
  fault : DatatypeFault
deriving DecidableEq, Repr

def InvalidDatatype.message (e : InvalidDatatype) : String :=
  "invalid datatype " ++ e.datatype ++ ": " ++ e.fault.message

namespace Variant

/-- How a variant clashes with the first later one it cannot stand beside. -/
def clash? (a : Variant) : List Variant -> Option DatatypeFault
  | [] => none
  | b :: rest =>
      if a.value = b.value then some (.sharedDiscriminant a.name b.name a.value)
      else if Text.sameUpToCase a.name b.name then
        some (.duplicateVariant a.name)
      else a.clash? rest

def firstClash? : List Variant -> Option DatatypeFault
  | [] => none
  | a :: rest =>
      match a.clash? rest with
      | some fault => some fault
      | none => firstClash? rest

end Variant

namespace Datatype

mutual

def validate : Datatype -> Except InvalidDatatype Unit
  | ⟨name, shape, _, _, _⟩ =>
      if Text.isBlank name then .error ⟨name, .blankName⟩
      else
        match shape with
        | .primitive _ => .ok ()
        | .list _ => .ok ()
        | .fixedList _ arity =>
            if arity = 0 then .error ⟨name, .zeroArity⟩ else .ok ()
        | .enumeration [] => .error ⟨name, .noVariants⟩
        | .enumeration (first :: rest) =>
            match Variant.firstClash? (first :: rest) with
            | some fault => .error ⟨name, fault⟩
            | none => .ok ()
        | .struct fields =>
            if fields.isEmpty then
              .error ⟨name, .noFields⟩
            else
              validateFields name 0 fields

/--
Checks the fields of a struct; `index` is the position of the first one given.
-/
def validateFields (owner : String) (index : Nat) :
    List (Field Datatype) -> Except InvalidDatatype Unit
  | [] => .ok ()
  | ⟨name, datatype⟩ :: rest =>
      if name.isEmpty then .error ⟨owner, .emptyFieldName index⟩
      else if rest.any (fun other => other.name == name) then
        .error ⟨owner, .duplicateField name⟩
      else
        match validate datatype with
        | .error fault => .error fault
        | .ok () => validateFields owner (index + 1) rest

end

end Datatype
end Columnar
