/-
Module: Abacus.Decimal
Purpose: Numbers as they are written with decimal digits, and fractions to compare them by.
Main exports: Decimal, Fraction, Fraction.shift, Fraction.round
-/

namespace Abacus

/-- The number `digits * 10 ^ exponent`, or its negative.  Zero has a sign, too. -/
structure Decimal where
  negative : Bool := false
  digits : Nat
  exponent : Int := 0
deriving Repr, DecidableEq

namespace Decimal

/-- The power of ten just above the number: it is less than `10 ^ top`, and if it is not zero, at
least a tenth of that. -/
def top (d : Decimal) : Int :=
  (Nat.toDigits 10 d.digits).length + d.exponent

end Decimal

/-- A number that is not negative, as a quotient. -/
structure Fraction where
  num : Nat
  den : Nat := 1
deriving Repr, DecidableEq

namespace Fraction

/-- The number times a power of the base. -/
def shift (x : Fraction) (base : Nat) (power : Int) : Fraction :=
  { num := x.num * Nat.pow base power.toNat, den := x.den * Nat.pow base (-power).toNat }

/-- The whole number next to it.  A half goes to the even neighbour. -/
def round (x : Fraction) : Nat :=
  let below := x.num / x.den
  match compare (2 * (x.num % x.den)) x.den with
  | .lt => below
  | .eq => below + below % 2
  | .gt => below + 1

/-- The greatest `n` such that the number, which is not zero, is at least `2 ^ n`. -/
def log2 (x : Fraction) : Int :=
  let guess : Int := x.num.log2 - x.den.log2
  let scaled := x.shift 2 (-guess)
  if scaled.den ≤ scaled.num then guess else guess - 1

/-- The number is at most a half away from the whole number next to it. -/
theorem round_near (x : Fraction) (positive : 0 < x.den) :
    2 * (x.round * x.den) ≤ 2 * x.num + x.den ∧ 2 * x.num ≤ 2 * (x.round * x.den) + x.den := by
  have split := Nat.div_add_mod x.num x.den
  have small := Nat.mod_lt x.num positive
  have next : (x.num / x.den + 1) * x.den = x.den * (x.num / x.den) + x.den := by
    rw [Nat.succ_mul, Nat.mul_comm]
  unfold round
  rcases order : compare (2 * (x.num % x.den)) x.den with _ | _ | _
  · have below := Nat.compare_eq_lt.1 order
    simp only [Nat.mul_comm (x.num / x.den)]
    omega
  · have half := Nat.compare_eq_eq.1 order
    rcases Nat.mod_two_eq_zero_or_one (x.num / x.den) with even | odd
    · simp only [even, Nat.add_zero, Nat.mul_comm (x.num / x.den)]
      omega
    · simp only [odd, next]
      omega
  · have above := Nat.compare_eq_gt.1 order
    simp only [next]
    omega

end Fraction

end Abacus
