/-
Module: Abacus.Decimal.Double
Purpose: The numbers of double precision, and which of them is next to a decimal.
Main exports: Double, Double.ofFraction, Decimal.toDouble
-/
import Abacus.Decimal

namespace Abacus

/-!
A number of double precision has 53 bits, which a power of two scales.  Below the least scale
there is nothing, so small numbers have fewer bits and the smallest become zero; whatever needs
a scale above the greatest is beyond all numbers.
-/

/-- The size of a number of double precision: `mantissa * 2 ^ scale`, or greater than any of
these. -/
inductive Double where
  | finite (mantissa : Nat) (scale : Int)
  | infinite
deriving Repr, DecidableEq

namespace Double

/-- The number of bits of a mantissa. -/
def precision : Nat := 53

/-- The least scale. -/
def leastScale : Int := -1074

/-- The greatest scale. -/
def greatestScale : Int := 971

/-- The number zero. -/
def zero : Double := finite 0 leastScale

/-- The double next to a number.  In the middle between two, the even mantissa wins. -/
def ofFraction (x : Fraction) : Double :=
  if x.num = 0 then zero
  else
    let scale := max leastScale (x.log2 - (precision - 1))
    let mantissa := (x.shift 2 (-scale)).round
    let (mantissa, scale) :=
      if mantissa = Nat.pow 2 precision then (Nat.pow 2 (precision - 1), scale + 1)
      else (mantissa, scale)
    if greatestScale < scale then infinite else finite mantissa scale

/-- The value of a double that is not infinite. -/
def toFraction (mantissa : Nat) (scale : Int) : Fraction :=
  Fraction.shift { num := mantissa } 2 scale

end Double

namespace Decimal

/-- Whatever is less than ten to this power is next to zero. -/
def leastTop : Int := -330

/-- Whatever is not less than ten to this power is infinite. -/
def greatestTop : Int := 310

/-- The double next to a decimal, without its sign. -/
def toDouble (d : Decimal) : Double :=
  if d.digits = 0 ∨ d.top < leastTop then .zero
  else if greatestTop < d.top then .infinite
  else .ofFraction (Fraction.shift { num := d.digits } 10 d.exponent)

/-- The sign of a decimal does not matter to its size. -/
theorem toDouble_signed (d : Decimal) (negative : Bool) :
    toDouble { d with negative := negative } = d.toDouble := rfl

end Decimal

end Abacus
