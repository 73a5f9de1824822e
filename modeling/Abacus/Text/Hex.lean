/-
Module: Abacus.Text.Hex
Purpose: Code points as hexadecimal numerals of a fixed width, the way escapes write them.
Main exports: hexDigits, hexValue?, charOfCode?, hexValue?_digitChar, read_hexDigits
-/

namespace Abacus.Text

/-- The last `width` hexadecimal digits of a number, in lower case. -/
def hexDigits : (width : Nat) → (n : Nat) → List Char
  | 0, _ => []
  | width + 1, n => hexDigits width (n / 16) ++ [Nat.digitChar (n % 16)]

/-- The value of a hexadecimal digit of either case. -/
def hexValue? (c : Char) : Option Nat :=
  if '0' ≤ c ∧ c ≤ '9' then some (c.toNat - '0'.toNat)
  else if 'a' ≤ c ∧ c ≤ 'f' then some (c.toNat - 'a'.toNat + 10)
  else if 'A' ≤ c ∧ c ≤ 'F' then some (c.toNat - 'A'.toNat + 10)
  else none

/-- The character with a code point, if there is one. -/
def charOfCode? (code : Nat) : Option Char :=
  if code.isValidChar then some (Char.ofNat code) else none

/-- A character is found again from its code point. -/
theorem charOfCode?_toNat (c : Char) : charOfCode? c.toNat = some c := by
  rw [charOfCode?, if_pos (show c.toNat.isValidChar from c.valid), Char.ofNat_toNat]

/-- There are seventeen planes of code points. -/
theorem toNat_lt (c : Char) : c.toNat < 0x110000 := by
  have valid : c.toNat.isValidChar := c.valid
  unfold Nat.isValidChar at valid
  omega

/-- The sixteen written digits have the values 0 to 15. -/
theorem hexValue?_digitChar {d : Nat} (small : d < 16) :
    hexValue? (Nat.digitChar d) = some d := by
  have all : ∀ d : Fin 16, hexValue? (Nat.digitChar d) = some d.val := by decide
  exact all ⟨d, small⟩

/-- One more digit is one more power, and the last digits are those in front and the last one. -/
theorem mod_pow_succ (width n : Nat) :
    n % Nat.pow 16 (width + 1) = 16 * (n / 16 % Nat.pow 16 width) + n % 16 := by
  have power : Nat.pow 16 (width + 1) = 16 * Nat.pow 16 width := Nat.mul_comm _ _
  rw [power, Nat.mod_mul, Nat.add_comm]

/-- A reader that takes digit after digit, the last one apart, has the value of those that it has
taken. -/
theorem read_hexDigits {α : Type} (read : (missing value : Nat) → List Char → α)
    (step : ∀ missing value d rest, d < 16 →
      read (missing + 1) value (Nat.digitChar d :: rest) = read missing (16 * value + d) rest)
    (width n missing : Nat) (rest : List Char) :
    read (missing + width) 0 (hexDigits width n ++ rest) =
      read missing (n % Nat.pow 16 width) rest := by
  induction width generalizing n missing rest with
  | zero =>
      have value : n % Nat.pow 16 0 = 0 := Nat.mod_one n
      rw [value]
      rfl
  | succ width ih =>
      have more : missing + (width + 1) = missing + 1 + width := by omega
      rw [hexDigits, List.append_assoc, more, ih, List.singleton_append,
        step missing _ _ rest (Nat.mod_lt n (by decide)), mod_pow_succ]

end Abacus.Text
