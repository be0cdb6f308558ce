import Columnar.Float.Format

/-!
# Floats held as their bits

Two values are equal exactly when their bits are, so NaN payloads and the sign
of zero survive storage and comparison.  Arithmetic and conversion go through
the exact value and round once; what they make of a NaN has no payload.
-/

namespace Columnar

structure Binary32 where
  bits : UInt32
deriving DecidableEq, Repr, Inhabited

structure Binary64 where
  bits : UInt64
deriving DecidableEq, Repr, Inhabited

namespace Binary32

def value (x : Binary32) : FloatValue :=
  FloatFormat.single.decode x.bits.toNat

def isFinite (x : Binary32) : Bool := x.value.isFinite

def isNaN (x : Binary32) : Bool := x.value == .nan

def round (negative : Bool) (significand : Nat) (place : Int) : Binary32 :=
  ⟨UInt32.ofNat (FloatFormat.single.round negative significand place)⟩

def infinite (negative : Bool) : Binary32 :=
  ⟨UInt32.ofNat
    (FloatFormat.single.signBit negative + FloatFormat.single.infinity)⟩

def quietNaN : Binary32 := ⟨0x7fc00000⟩

def zero : Binary32 := ⟨0⟩

def ofInt (z : Int) : Binary32 := round (decide (z < 0)) z.natAbs 0

/-- The exact product, rounded once; an infinity times zero is NaN. -/
def mul (x y : Binary32) : Binary32 :=
  match x.value, y.value with
  | .finite s m p, .finite t n q => round (s != t) (m * n) (p + q)
  | .infinite s, .infinite t => infinite (s != t)
  | .infinite s, .finite t n _ => if n = 0 then quietNaN else infinite (s != t)
  | .finite s m _, .infinite t => if m = 0 then quietNaN else infinite (s != t)
  | _, _ => quietNaN

end Binary32

namespace Binary64

def value (x : Binary64) : FloatValue :=
  FloatFormat.double.decode x.bits.toNat

def isFinite (x : Binary64) : Bool := x.value.isFinite

def isNaN (x : Binary64) : Bool := x.value == .nan

def quietNaN : Binary64 := ⟨0x7ff8000000000000⟩

/-- The nearest four-byte float; a NaN loses its payload. -/
def narrow (x : Binary64) : Binary32 :=
  match x.value with
  | .finite negative significand place => .round negative significand place
  | .infinite negative => .infinite negative
  | .nan => .quietNaN

end Binary64

def Binary32.widen (x : Binary32) : Binary64 :=
  match x.value with
  | .finite negative significand place =>
      ⟨UInt64.ofNat (FloatFormat.double.round negative significand place)⟩
  | .infinite negative =>
      ⟨UInt64.ofNat
        (FloatFormat.double.signBit negative + FloatFormat.double.infinity)⟩
  | .nan => .quietNaN

end Columnar
