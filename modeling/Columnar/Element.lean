import Columnar.Float.Binary

/-!
# Elements

All dense data is made of elements of four kinds.  A run of elements carries
its kind, and the kind says what type its values have.
-/

namespace Columnar

inductive ElementKind
  | f32
  | u8
  | u32
  | bool
deriving DecidableEq, Repr

namespace ElementKind

def label : ElementKind -> String
  | .f32 => "f32"
  | .u8 => "u8"
  | .u32 => "u32"
  | .bool => "bool"

abbrev Carrier : ElementKind -> Type
  | .f32 => Binary32
  | .u8 => UInt8
  | .u32 => UInt32
  | .bool => Bool

instance instDecidableEqCarrier :
    (kind : ElementKind) -> DecidableEq kind.Carrier
  | .f32 => inferInstanceAs (DecidableEq Binary32)
  | .u8 => inferInstanceAs (DecidableEq UInt8)
  | .u32 => inferInstanceAs (DecidableEq UInt32)
  | .bool => inferInstanceAs (DecidableEq Bool)

def zero : (kind : ElementKind) -> kind.Carrier
  | .f32 => Binary32.zero
  | .u8 => (0 : UInt8)
  | .u32 => (0 : UInt32)
  | .bool => false

end ElementKind

structure Elements where
  kind : ElementKind
  values : List kind.Carrier
deriving DecidableEq

namespace Elements

def length (e : Elements) : Nat := e.values.length

def isEmpty (e : Elements) : Bool := e.values.isEmpty

def as? (kind : ElementKind) (e : Elements) : Option (List kind.Carrier) :=
  if h : e.kind = kind then some (h ▸ e.values) else none

def zeros (kind : ElementKind) (count : Nat) : Elements :=
  ⟨kind, List.replicate count kind.zero⟩

end Elements
end Columnar
