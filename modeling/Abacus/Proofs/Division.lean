/-
Module: Abacus.Proofs.Division
Purpose: Which integer a quotient is, on either side of zero.
Main exports: Truncated, Truncated.unique, divide?_eq_some_iff, divide_truncates
-/
import Abacus.Arithmetic

namespace Abacus

/-!
A quotient is known by its remainder, which is smaller than the divisor and never on the other side
of zero than the dividend.  Only one integer leaves such a remainder, so whatever leaves one is the
quotient: signs and multiples are then a matter of what remains.
-/

/-- The remainder is smaller than the divisor, and it is zero or has the sign of the dividend. -/
structure Truncated (dividend divisor quotient : Int) : Prop where
  small : (dividend - quotient * divisor).natAbs < divisor.natAbs
  sided : dividend - quotient * divisor = 0 ∨
    (dividend - quotient * divisor).sign = dividend.sign

namespace Truncated

variable {dividend divisor quotient other : Int}

/-- Two remainders on one side of zero are less than the divisor apart, and a multiple of it. -/
theorem unique (one : Truncated dividend divisor quotient)
    (two : Truncated dividend divisor other) : quotient = other := by
  have apart : ((quotient - other) * divisor).natAbs < divisor.natAbs := by
    have difference : (quotient - other) * divisor =
        (dividend - other * divisor) - (dividend - quotient * divisor) := by
      rw [Int.sub_mul]
      omega
    rw [difference]
    have smallOne := one.small
    have smallTwo := two.small
    have sidedOne := one.sided
    have sidedTwo := two.sided
    rcases Int.lt_trichotomy dividend 0 with negative | zero | positive
    · rw [Int.sign_eq_neg_one_of_neg negative, Int.sign_eq_neg_one_iff_neg] at sidedOne sidedTwo
      omega
    · rw [zero, Int.sign_zero, Int.sign_eq_zero_iff_zero] at sidedOne sidedTwo
      omega
    · rw [Int.sign_eq_one_of_pos positive, Int.sign_eq_one_iff_pos] at sidedOne sidedTwo
      omega
  rw [Int.natAbs_mul] at apart
  have equal : (quotient - other).natAbs = 0 := by
    apply Nat.eq_zero_of_not_pos
    intro positive
    exact Nat.not_lt.2 (Nat.le_mul_of_pos_left divisor.natAbs positive) apart
  exact Int.sub_eq_zero.1 (Int.natAbs_eq_zero.1 equal)

/-- The other side of zero is a mirror image. -/
theorem neg_dividend (truncated : Truncated dividend divisor quotient) :
    Truncated (-dividend) divisor (-quotient) := by
  have remainder : -dividend - -quotient * divisor = -(dividend - quotient * divisor) := by
    rw [Int.neg_mul]
    omega
  constructor
  · rw [remainder, Int.natAbs_neg]
    exact truncated.small
  · rw [remainder, Int.neg_eq_zero, Int.sign_neg, Int.sign_neg, Int.neg_inj]
    exact truncated.sided

/-- The sign of the divisor makes no difference to what remains. -/
theorem neg_divisor (truncated : Truncated dividend divisor quotient) :
    Truncated dividend (-divisor) (-quotient) := by
  constructor
  · rw [Int.neg_mul_neg, Int.natAbs_neg]
    exact truncated.small
  · rw [Int.neg_mul_neg]
    exact truncated.sided

/-- Nothing remains of a multiple. -/
theorem of_multiple (nonzero : divisor ≠ 0) (quotient : Int) :
    Truncated (quotient * divisor) divisor quotient := by
  constructor
  · rw [Int.sub_self]
    exact Int.natAbs_pos.2 nonzero
  · exact .inl (Int.sub_self _)

end Truncated

/-- Without its fraction the quotient leaves the remainder of the magnitudes, with the sign of the
dividend. -/
theorem truncated_tdiv {dividend divisor : Int} (nonzero : divisor ≠ 0) :
    Truncated dividend divisor (dividend.tdiv divisor) := by
  have remainder : dividend - dividend.tdiv divisor * divisor = dividend.tmod divisor := by
    rw [Int.tmod_def, Int.mul_comm]
  constructor
  · rw [remainder, Int.natAbs_tmod]
    exact Nat.mod_lt _ (Int.natAbs_pos.2 nonzero)
  · rw [remainder]
    by_cases multiple : divisor ∣ dividend
    · left
      exact Int.tmod_eq_zero_of_dvd multiple
    · right
      rw [Int.sign_tmod, if_neg multiple]

/-- The quotient is the one integer that leaves such a remainder. -/
theorem divide?_eq_some_iff {dividend divisor quotient : Int} (nonzero : divisor ≠ 0) :
    divide? dividend divisor = some quotient ↔ Truncated dividend divisor quotient := by
  rw [divide?_of_ne_zero nonzero, Option.some.injEq]
  constructor
  · rintro rfl
    exact truncated_tdiv nonzero
  · exact (truncated_tdiv nonzero).unique

/-- **Division drops the fraction.**  By anything but zero there is a quotient, and it is the only
integer whose remainder is smaller than the divisor and zero or of the sign of the dividend.  A
change of either sign changes the sign of the quotient, no quotient is farther from zero than the
dividend, and a multiple of the divisor is divided without a remainder. -/
theorem divide_truncates (dividend divisor : Int) (nonzero : divisor ≠ 0) :
    ∃ quotient, divide? dividend divisor = some quotient ∧
      (∀ other, Truncated dividend divisor other ↔ other = quotient) ∧
      divide? (-dividend) divisor = some (-quotient) ∧
      divide? dividend (-divisor) = some (-quotient) ∧
      quotient.natAbs ≤ dividend.natAbs ∧
      ∀ exact : Int, divide? (exact * divisor) divisor = some exact := by
  have truncated : Truncated dividend divisor (dividend.tdiv divisor) := truncated_tdiv nonzero
  refine ⟨dividend.tdiv divisor, divide?_of_ne_zero nonzero, fun other => ?_, ?_, ?_, ?_, ?_⟩
  · constructor
    · intro another
      exact another.unique truncated
    · rintro rfl
      exact truncated
  · exact (divide?_eq_some_iff nonzero).2 truncated.neg_dividend
  · exact (divide?_eq_some_iff (Int.neg_ne_zero.2 nonzero)).2 truncated.neg_divisor
  · exact Int.natAbs_tdiv_le_natAbs dividend divisor
  · intro exact
    exact (divide?_eq_some_iff nonzero).2 (.of_multiple nonzero exact)

/-- Seven parts of minus two, and of two: the sign of the fraction does not count. -/
theorem divide_truncates_seven :
    (-2 : Int) ≠ 0 ∧ divide? 7 (-2) = some (-3) ∧ divide? (-7) (-2) = some 3 ∧
      Truncated 7 (-2) (-3) ∧ ¬ Truncated 7 (-2) (-4) := by
  obtain ⟨quotient, found, only, mirrored, -, -, -⟩ := divide_truncates 7 (-2) (by decide)
  have computed : divide? 7 (-2) = some (-3) := by decide
  obtain rfl : -3 = quotient := by
    rw [computed] at found
    exact Option.some.inj found
  refine ⟨by decide, computed, mirrored, (only (-3)).2 rfl, fun another => ?_⟩
  exact absurd ((only (-4)).1 another) (by decide)

end Abacus
