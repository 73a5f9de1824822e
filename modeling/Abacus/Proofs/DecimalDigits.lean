/-
Module: Abacus.Proofs.DecimalDigits
Purpose: The digits that a number is printed with.
Main exports: toList_toString_nat, toList_toString_ofNat, toList_toString_negSucc,
  isDigit_of_mem_digits, exists_toDigits, toDigits_ne_leading_zero
-/

namespace Abacus

/-!
A number is printed in the same way wherever it stands: in a message, in JSON, or on its own.  What
holds of the text of a number comes from what holds of its digits.
-/

theorem toList_toString_nat (n : Nat) : (toString n).toList = Nat.toDigits 10 n := by
  rw [Nat.toString_eq_repr, Nat.toList_repr]

theorem toList_toString_ofNat (n : Nat) : (toString (Int.ofNat n)).toList = Nat.toDigits 10 n :=
  toList_toString_nat n

theorem toList_toString_negSucc (n : Nat) :
    (toString (Int.negSucc n)).toList = '-' :: Nat.toDigits 10 (n + 1) := by
  simp [Int.toString_eq_repr, Int.repr]

theorem isDigit_of_mem_digits (n : Nat) : ∀ c ∈ Nat.toDigits 10 n, c.isDigit = true :=
  fun _ mem => Nat.isDigit_of_mem_toDigits (by decide) (by decide) mem

/-- There is a first digit. -/
theorem exists_toDigits (n : Nat) : ∃ d ds, Nat.toDigits 10 n = d :: ds ∧ d.isDigit = true := by
  obtain ⟨d, ds, digits⟩ := List.exists_cons_of_ne_nil (@Nat.toDigits_ne_nil n 10)
  exact ⟨d, ds, digits, isDigit_of_mem_digits n d (by rw [digits]; exact List.mem_cons_self)⟩

/-- Only zero starts with the digit zero. -/
theorem head_toDigits_ne_zero {n : Nat} (positive : 0 < n) :
    (Nat.toDigits 10 n).head? ≠ some '0' := by
  induction n using Nat.strongRecOn with
  | ind n ih =>
      by_cases small : n < 10
      · have digits : ∀ d : Fin 10, 0 < d.val → Nat.digitChar d.val ≠ '0' := by decide
        rw [Nat.toDigits_of_lt_base small]
        simpa using digits ⟨n, small⟩ positive
      · have large : 10 ≤ n := Nat.not_lt.1 small
        have other := ih (n / 10) (by omega) (by omega)
        obtain ⟨d, ds, digits, _⟩ := exists_toDigits (n / 10)
        rw [Nat.toDigits_of_base_le (by decide) large, digits]
        rw [digits] at other
        exact other

/-- No digits follow a leading zero. -/
theorem toDigits_ne_leading_zero (n : Nat) (d : Char) (ds : List Char) :
    Nat.toDigits 10 n ≠ '0' :: d :: ds := by
  intro digits
  rcases Nat.eq_zero_or_pos n with rfl | positive
  · cases digits
  · apply head_toDigits_ne_zero positive
    rw [digits]
    rfl

end Abacus
