import Columnar.Float.Binary

/-!
# Shortest decimal text of a float

A decimal `digits * 10 ^ scale` reads back as a float when it lies in the
interval of reals that round to it.  The shortest such decimal is the one with
the greatest scale, and among those of one scale the nearest to the float is
taken, the upper one on a tie.

The text is positional: no exponent, no point after a whole number.
-/

namespace Columnar

structure Decimal where
  digits : Nat
  scale : Int
deriving DecidableEq, Repr

namespace Decimal

/--
The reals that round to `significand * 2 ^ place`, in quarters of the last
place.  Below a power of two the neighbour is half as far, unless it is the
least one.
-/
structure Interval where
  lower : Nat
  centre : Nat
  upper : Nat
  quarter : Int
  closed : Bool
deriving Repr

def Interval.around (f : FloatFormat) (significand : Nat) (place : Int) :
    Interval where
  lower :=
    if significand = f.fractions ∧ f.leastPlace < place then 4 * significand - 1
    else 4 * significand - 2
  centre := 4 * significand
  upper := 4 * significand + 2
  quarter := place - 2
  closed := significand % 2 == 0

def Interval.nearest? (i : Interval) (scale : Int) : Option Decimal :=
  let top := Nat.pow 2 i.quarter.toNat * Nat.pow 10 (-scale).toNat
  let unit := Nat.pow 2 (-i.quarter).toNat * Nat.pow 10 scale.toNat
  let below := i.centre * top / unit
  let inside (digits : Nat) : Bool :=
    if i.closed then
      decide (i.lower * top ≤ digits * unit) &&
        decide (digits * unit ≤ i.upper * top)
    else
      decide (i.lower * top < digits * unit) &&
        decide (digits * unit < i.upper * top)
  let upperNearer := decide (unit ≤ 2 * (i.centre * top % unit))
  match inside below, inside (below + 1) with
  | false, false => none
  | true, false => some ⟨below, scale⟩
  | false, true => some ⟨below + 1, scale⟩
  | true, true => some ⟨if upperNearer then below + 1 else below, scale⟩

def Interval.shortestFrom (i : Interval) : Nat -> Int -> Decimal
  | 0, scale => ⟨0, scale⟩
  | steps + 1, scale =>
      match i.nearest? scale with
      | some decimal => decimal
      | none => i.shortestFrom steps (scale - 1)

/--
The shortest decimal that reads back as the eight-byte float `significand * 2 ^
place`.
-/
def shortest (significand : Nat) (place : Int) : Decimal :=
  (Interval.around .double significand place).shortestFrom 640 310

def text (d : Decimal) : String :=
  let digits := Nat.toDigits 10 d.digits
  if 0 ≤ d.scale then
    String.ofList (digits ++ List.replicate d.scale.toNat '0')
  else
    let places := (-d.scale).toNat
    let padded := List.replicate (places + 1 - digits.length) '0' ++ digits
    let whole := padded.length - places
    String.ofList (padded.take whole ++ '.' :: padded.drop whole)

end Decimal

def Binary64.text (x : Binary64) : String :=
  let sign (negative : Bool) : String := if negative then "-" else ""
  match x.value with
  | .nan => "NaN"
  | .infinite negative => sign negative ++ "inf"
  | .finite negative significand place =>
      sign negative ++
        if significand = 0 then
          "0"
        else
          (Decimal.shortest significand place).text

end Columnar
