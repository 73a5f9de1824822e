/-
Module: Abacus.Limits
Purpose: The limits that one evaluation keeps to.
Main exports: Limits, Limits.exceeded, Limits.Writable
-/
import Abacus.Numeral

namespace Abacus

/-- What one evaluation accepts: the longest number literal and the deepest nesting of
parentheses.  Zero switches a limit off, and any literal or parenthesis exceeds a negative
limit.  A limit may have any number of digits, but see `Limits.Writable`. -/
structure Limits where
  digits : Int := 4300
  depth : Int := 200
deriving Repr, DecidableEq

namespace Limits

/-- Whether the amount is more than the limit allows. -/
def exceeded (limit : Int) (amount : Nat) : Bool :=
  limit ≠ 0 && limit < amount

theorem exceeded_iff {limit : Int} {amount : Nat} :
    exceeded limit amount = true ↔ limit ≠ 0 ∧ limit < amount := by
  simp [exceeded]

theorem exceeded_eq_false_iff {limit : Int} {amount : Nat} :
    exceeded limit amount = false ↔ limit = 0 ∨ (amount : Int) ≤ limit := by
  rw [Bool.eq_false_iff, ne_eq, exceeded_iff]
  omega

/-- A smaller amount stays within a limit that a larger one stays within. -/
theorem exceeded_mono {limit : Int} {small large : Nat} (le : small ≤ large)
    (smallExceeds : exceeded limit small = true) : exceeded limit large = true := by
  rw [exceeded_iff] at smallExceeds ⊢
  omega

/-- Both limits are short enough to be named in a message. -/
structure Writable (limits : Limits) : Prop where
  digits : Numeral.Writable limits.digits
  depth : Numeral.Writable limits.depth

instance (limits : Limits) : Decidable limits.Writable :=
  decidable_of_iff (Numeral.Writable limits.digits ∧ Numeral.Writable limits.depth)
    ⟨fun both => ⟨both.1, both.2⟩, fun both => ⟨both.digits, both.depth⟩⟩

end Limits

end Abacus
