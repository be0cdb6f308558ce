import Columnar.Element

/-!
# Datatypes

A datatype describes the values of a component: one element, a fixed or
variable number of them, a choice among named bytes, or a record of named
fields.  A shape leaves open how a field refers to its datatype, so the same
shape serves a declaration, whose fields name datatypes, and a definition,
whose fields hold them.
-/

namespace Columnar

inductive Arity
  | fixed (count : Nat)
  | variable
deriving DecidableEq, Repr

namespace Arity

def accepts : Arity -> Nat -> Bool
  | .fixed n, count => n == count
  | .variable, _ => true

def slot : Arity -> Nat
  | .fixed n => n
  | .variable => 0

def text : Arity -> String
  | .fixed n => toString n
  | .variable => "variable"

end Arity

structure Variant where
  name : String
  value : UInt8
deriving DecidableEq, Repr

/-- A named field; `ref` is what stands for its datatype. -/
structure Field (ref : Type) where
  name : String
  datatype : ref
deriving DecidableEq, Repr

inductive Shape (ref : Type)
  | primitive (element : ElementKind)
  | fixedList (element : ElementKind) (arity : UInt32)
  | list (element : ElementKind)
  /-- One byte, restricted to the declared variants. -/
  | enumeration (variants : List Variant)
  /-- One value for each declared field, in order. -/
  | struct (fields : List (Field ref))
deriving DecidableEq, Repr

/-- A datatype; two are the same exactly when every part agrees. -/
structure Datatype where
  name : String
  shape : Shape Datatype
  /-- Whole instances may be absent. -/
  nullable : Bool := false
  /-- A lone scalar may be repeated to fill a fixed arity. -/
  broadcastScalar : Bool := false
  /-- A batch must hold at least one instance. -/
  nonEmpty : Bool := false
deriving Repr

namespace Datatype

def primitive (name : String) (element : ElementKind) : Datatype :=
  { name, shape := .primitive element }

def fixedList (name : String) (element : ElementKind) (arity : UInt32) :
    Datatype :=
  { name, shape := .fixedList element arity }

def list (name : String) (element : ElementKind) : Datatype :=
  { name, shape := .list element }

def enumeration (name : String) (variants : List Variant) : Datatype :=
  { name, shape := .enumeration variants }

def struct (name : String) (fields : List (Field Datatype)) : Datatype :=
  { name, shape := .struct fields }

def element? (d : Datatype) : Option ElementKind :=
  match d.shape with
  | .primitive element | .fixedList element _ | .list element => some element
  | .enumeration _ => some .u8
  | .struct _ => none

def arity? (d : Datatype) : Option Arity :=
  match d.shape with
  | .primitive _ | .enumeration _ => some (.fixed 1)
  | .fixedList _ arity => some (.fixed arity.toNat)
  | .list _ => some .variable
  | .struct _ => none

/-! ## Equality

Definitions are compared part by part; the comparison decides equality.
-/

mutual

def same : Datatype -> Datatype -> Bool
  | ⟨name, shape, nullable, broadcast, nonEmpty⟩,
      ⟨name', shape', nullable', broadcast', nonEmpty'⟩ =>
      name == name' && sameShape shape shape' && nullable == nullable'
        && broadcast == broadcast' && nonEmpty == nonEmpty'

def sameShape : Shape Datatype -> Shape Datatype -> Bool
  | .primitive kind, .primitive kind' => kind == kind'
  | .fixedList kind arity, .fixedList kind' arity' =>
      kind == kind' && arity == arity'
  | .list kind, .list kind' => kind == kind'
  | .enumeration variants, .enumeration variants' => variants == variants'
  | .struct fields, .struct fields' => sameFields fields fields'
  | _, _ => false

def sameFields : List (Field Datatype) -> List (Field Datatype) -> Bool
  | [], [] => true
  | ⟨name, d⟩ :: rest, ⟨name', d'⟩ :: rest' =>
      name == name' && same d d' && sameFields rest rest'
  | _, _ => false

end

mutual

theorem same_iff : forall a b : Datatype, same a b = true ↔ a = b
  | ⟨_, shape, _, _, _⟩, ⟨_, shape', _, _, _⟩ => by
      simp [same, sameShape_iff shape shape', and_assoc]

theorem sameShape_iff :
    forall a b : Shape Datatype, sameShape a b = true ↔ a = b
  | .primitive _, b => by
      cases b <;> simp [sameShape]
  | .fixedList _ _, b => by
      cases b <;> simp [sameShape]
  | .list _, b => by
      cases b <;> simp [sameShape]
  | .enumeration _, b => by
      cases b <;> simp [sameShape]
  | .struct fields, b => by
      cases b with
      | struct fields' => simp [sameShape, sameFields_iff fields fields']
      | _ => simp [sameShape]

theorem sameFields_iff :
    forall as bs : List (Field Datatype), sameFields as bs = true ↔ as = bs
  | [], [] => by simp [sameFields]
  | [], _ :: _ => by simp [sameFields]
  | _ :: _, [] => by simp [sameFields]
  | ⟨_, d⟩ :: rest, ⟨_, d'⟩ :: rest' => by
      simp [sameFields, same_iff d d', sameFields_iff rest rest']

end

instance instDecidableEq : DecidableEq Datatype :=
  fun a b => decidable_of_iff (same a b = true) (same_iff a b)

end Datatype
end Columnar
