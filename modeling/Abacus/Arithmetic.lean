/-
Module: Abacus.Arithmetic
Purpose: The four operations on integers.
Main exports: SumOp, ProductOp, divide?
-/

namespace Abacus

/-- Joins two terms. -/
inductive SumOp where
  | add
  | subtract
deriving Repr, DecidableEq

/-- Joins two factors. -/
inductive ProductOp where
  | multiply
  | divide
deriving Repr, DecidableEq

/-- The operator that a character writes. -/
def SumOp.ofChar? (c : Char) : Option SumOp :=
  if c = '+' then some add else if c = '-' then some subtract else none

/-- The operator that a character writes. -/
def ProductOp.ofChar? (c : Char) : Option ProductOp :=
  if c = '*' then some multiply else if c = '/' then some divide else none

/-- What joining two terms gives. -/
def SumOp.join : SumOp → Int → Int → Int
  | add, a, b => a + b
  | subtract, a, b => a - b

/-- The quotient of two integers, its fraction dropped: that of their magnitudes, with a minus sign
if just one of the two is negative.  There is none by zero. -/
def divide? (dividend divisor : Int) : Option Int :=
  if divisor = 0 then none
  else
    let quotient := Int.ofNat (dividend.natAbs / divisor.natAbs)
    some (if (dividend < 0 : Bool) ≠ (divisor < 0 : Bool) then -quotient else quotient)

/-- What joining two factors gives, unless it divides by zero. -/
def ProductOp.join? : ProductOp → Int → Int → Option Int
  | multiply, a, b => some (a * b)
  | divide, a, b => divide? a b

/-- The character that an operator is written as. -/
def SumOp.symbol : SumOp → Char
  | add => '+'
  | subtract => '-'

/-- The character that an operator is written as. -/
def ProductOp.symbol : ProductOp → Char
  | multiply => '*'
  | divide => '/'

theorem SumOp.ofChar?_symbol (op : SumOp) : ofChar? op.symbol = some op := by
  cases op <;> rfl

theorem SumOp.ofChar?_eq_some_iff {c : Char} {op : SumOp} :
    ofChar? c = some op ↔ c = op.symbol := by
  constructor
  · intro read
    unfold ofChar? at read
    split at read
    · cases read
      assumption
    · split at read
      · cases read
        assumption
      · cases read
  · rintro rfl
    exact ofChar?_symbol op

theorem ProductOp.ofChar?_symbol (op : ProductOp) : ofChar? op.symbol = some op := by
  cases op <;> rfl

theorem ProductOp.ofChar?_eq_some_iff {c : Char} {op : ProductOp} :
    ofChar? c = some op ↔ c = op.symbol := by
  constructor
  · intro read
    unfold ofChar? at read
    split at read
    · cases read
      assumption
    · split at read
      · cases read
        assumption
      · cases read
  · rintro rfl
    exact ofChar?_symbol op

theorem divide?_eq_none_iff {dividend divisor : Int} :
    divide? dividend divisor = none ↔ divisor = 0 := by
  simp [divide?]

/-- Dividing the magnitudes drops the fraction on either side of zero. -/
theorem divide?_of_ne_zero {dividend divisor : Int} (nonzero : divisor ≠ 0) :
    divide? dividend divisor = some (dividend.tdiv divisor) := by
  have natural (n : Nat) : decide (Int.ofNat n < 0) = false :=
    decide_eq_false (Int.not_lt.2 (Int.natCast_nonneg n))
  have negative (n : Nat) : decide (Int.negSucc n < 0) = true :=
    decide_eq_true (Int.negSucc_lt_zero n)
  rw [divide?, if_neg nonzero]
  cases dividend with
  | ofNat m =>
      cases divisor with
      | ofNat n => rw [natural, natural]; rfl
      | negSucc n => rw [natural, negative]; rfl
  | negSucc m =>
      cases divisor with
      | ofNat n => rw [negative, natural]; rfl
      | negSucc n => rw [negative, negative]; rfl

/-- Multiplying is that of the integers, and dividing drops the fraction. -/
theorem ProductOp.join?_eq (op : ProductOp) (a b : Int) :
    op.join? a b = match op with
      | multiply => some (a * b)
      | divide => if b = 0 then none else some (a.tdiv b) := by
  cases op with
  | multiply => rfl
  | divide =>
      by_cases zero : b = 0
      · simp only [join?, divide?, if_pos zero]
      · simp only [join?, divide?_of_ne_zero zero, if_neg zero]

end Abacus
