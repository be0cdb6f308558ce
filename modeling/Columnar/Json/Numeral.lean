import Columnar.Float.Format

/-!
# Numerals

A number in JSON text is kept as it was written.  Readers that want a natural
number take a plain run of digits and nothing else; a reader that takes any
number at all still refuses one that is too large for an eight-byte float.
-/

namespace Columnar

structure Numeral where
  negative : Bool := false
  whole : Nat
  fraction : List Char := []
  exponent : Option Int := none
deriving DecidableEq, Repr

namespace Numeral

/--
The value of a plain run of digits; a sign, a point or an exponent makes it no
natural number.
-/
def natural? (n : Numeral) : Option Nat :=
  if n.negative || !n.fraction.isEmpty || n.exponent.isSome then
    none
  else
    some n.whole

/-! ## Range -/

def digits (n : Numeral) : Nat :=
  n.whole * Nat.pow 10 n.fraction.length + Nat.ofDigitChars 10 n.fraction 0

/--
How many digits have to go from the end of a number for the rest to fit a 64-bit
word.
-/
def excess (digits : Nat) : Nat :=
  ((List.range (Nat.toDigits 10 digits).length).find? fun dropped =>
    decide (digits / Nat.pow 10 dropped < UInt64.size)).getD 0

def isFiniteProduct (a b : Nat) : Bool :=
  let format := FloatFormat.double
  match format.decode (format.round false a 0),
      format.decode (format.round false b 0) with
  | .finite _ m p, .finite _ n q =>
      decide (format.round false (m * n) (p + q) < format.infinity)
  | _, _ => false

/--
In range for an eight-byte float: the front digits that fit a word, scaled by a
power of ten.  Scaling down cannot leave the range, and no power of ten above
the 308th is in it.
-/
def isFinite (n : Numeral) : Bool :=
  let dropped := excess n.digits
  let significand := n.digits / Nat.pow 10 dropped
  let scale := n.exponent.getD 0 + dropped - n.fraction.length
  if significand = 0 ∨ scale ≤ 0 then true
  else if 308 < scale then false
  else isFiniteProduct significand (Nat.pow 10 scale.toNat)

end Numeral
end Columnar
