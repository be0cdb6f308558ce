/-!
# Binary floating-point formats

A format says how many bits hold the fraction and how many the exponent; the
sign takes one more.  A bit pattern is a natural number, and every question
about a pattern is answered by integer arithmetic on the value it stands for:
a sign, a significand and the power of two of its last place.

Rounding goes to the nearest pattern and a tie goes to the even one.
-/

namespace Columnar

structure FloatFormat where
  fractionBits : Nat
  exponentBits : Nat
deriving DecidableEq, Repr

/--
What a bit pattern stands for; a finite value is `± significand * 2 ^ place`.
-/
inductive FloatValue
  | nan
  | infinite (negative : Bool)
  | finite (negative : Bool) (significand : Nat) (place : Int)
deriving DecidableEq, Repr

namespace FloatFormat

def single : FloatFormat := ⟨23, 8⟩

def double : FloatFormat := ⟨52, 11⟩

/--
How many fractions there are, which is also what the leading bit of a
significand counts for.
-/
def fractions (f : FloatFormat) : Nat := Nat.pow 2 f.fractionBits

def exponents (f : FloatFormat) : Nat := Nat.pow 2 f.exponentBits

def topExponent (f : FloatFormat) : Nat := f.exponents - 1

def leastPlace (f : FloatFormat) : Int :=
  2 - (f.exponents / 2 : Nat) - f.fractionBits

/--
The pattern of positive infinity; smaller patterns are the finite magnitudes in
order.
-/
def infinity (f : FloatFormat) : Nat := f.topExponent * f.fractions

def signBit (f : FloatFormat) (negative : Bool) : Nat :=
  if negative then f.exponents * f.fractions else 0

def decode (f : FloatFormat) (bits : Nat) : FloatValue :=
  let negative := decide (bits / (f.exponents * f.fractions) % 2 = 1)
  let exponent := bits / f.fractions % f.exponents
  let fraction := bits % f.fractions
  if exponent = f.topExponent then
    if fraction = 0 then .infinite negative else .nan
  else if exponent = 0 then
    .finite negative fraction f.leastPlace
  else
    .finite negative (f.fractions + fraction) (f.leastPlace + exponent - 1)

/--
The integer nearest to `numerator / denominator`; a tie goes to the even one.
-/
def roundDiv (numerator denominator : Nat) : Nat :=
  let quotient := numerator / denominator
  let twice := 2 * (numerator % denominator)
  if twice < denominator then quotient
  else if denominator < twice then quotient + 1
  else quotient + quotient % 2

/--
The pattern nearest to `± significand * 2 ^ place`.

The last place kept is the lowest that leaves no more than the fraction and its
leading bit.  Patterns of one sign are ordered like the magnitudes they stand
for, so a carry out of the significand lands on the next exponent by itself,
and whatever reaches past the largest number is infinite.
-/
def round (f : FloatFormat) (negative : Bool) (significand : Nat)
    (place : Int) : Nat :=
  if significand = 0 then f.signBit negative
  else
    let kept := max (place + Nat.log2 significand - f.fractionBits) f.leastPlace
    let steps :=
      roundDiv (significand * Nat.pow 2 (place - kept).toNat)
        (Nat.pow 2 (kept - place).toNat)
    let magnitude := (kept - f.leastPlace).toNat * f.fractions + steps
    f.signBit negative + min magnitude f.infinity

end FloatFormat

namespace FloatValue

def isFinite : FloatValue -> Bool
  | .finite _ _ _ => true
  | _ => false

/--
The integer a value is equal to, if it is one; both zeros are the integer 0.
-/
def integer? : FloatValue -> Option Int
  | .finite negative significand place =>
      let unit := Nat.pow 2 (-place).toNat
      if significand % unit = 0 then
        let magnitude : Nat := significand * Nat.pow 2 place.toNat / unit
        some (if negative then -magnitude else magnitude)
      else
        none
  | _ => none

end FloatValue
end Columnar
