/-
Module: Abacus.Proofs.JsonNumbers
Purpose: Integers and decimals are read back from their JSON text.
Main exports: Json.EndsNumber, Json.readNumber?_integer, Json.readNumber?_decimal,
  Json.startsNumber_integer, Json.startsNumber_decimal
-/
import Abacus.Json.Reader
import Abacus.Json.Writer
import Abacus.Proofs.DecimalDigits

namespace Abacus.Json

/-!
A number is as long as it can be, so it is read back only where nothing follows that would prolong
it.  In JSON text that is no matter: a comma, a bracket or a line end comes next.
-/

/-! ### Digits -/

/-- Nothing comes next that would prolong a number. -/
def EndsNumber (rest : List Char) : Prop :=
  ∀ c ∈ rest.head?, c.isDigit = false ∧ c ≠ '.' ∧ c ≠ 'e' ∧ c ≠ 'E'

theorem spanDigits_append {digits rest : List Char} (allDigits : ∀ c ∈ digits, c.isDigit = true)
    (ends : ∀ c ∈ rest.head?, c.isDigit = false) :
    spanDigits (digits ++ rest) = (digits, rest) := by
  have stops : rest.takeWhile Char.isDigit = [] ∧ rest.dropWhile Char.isDigit = rest := by
    cases rest with
    | nil => exact ⟨rfl, rfl⟩
    | cons c rest =>
        have other := ends c rfl
        simp [other]
  rw [spanDigits, List.takeWhile_append_of_pos allDigits, List.dropWhile_append_of_pos allDigits,
    stops.1, stops.2, List.append_nil]

/-! ### Fractions and exponents -/

section Parts

variable {rest : List Char}

theorem readFraction?_of_no_point (ends : ∀ c ∈ rest.head?, c ≠ '.') :
    readFraction? rest = some ([], rest) := by
  unfold readFraction?
  split
  · exact absurd rfl (ends '.' rfl)
  · rfl

theorem readExponent?_of_no_mark (ends : ∀ c ∈ rest.head?, c ≠ 'e' ∧ c ≠ 'E') :
    readExponent? rest = some (none, rest) := by
  unfold readExponent?
  split
  · exact absurd rfl (ends 'e' rfl).1
  · exact absurd rfl (ends 'E' rfl).2
  · rfl

/-- The digits of an exponent are read back. -/
theorem readScale?_digits (negative : Bool) (n : Nat) (ends : ∀ c ∈ rest.head?, c.isDigit = false) :
    readScale? negative (Nat.toDigits 10 n ++ rest) =
      some (some (if negative then -(n : Int) else n), rest) := by
  have size : Nat.ofDigitChars 10 (Nat.toDigits 10 n) 0 = n := Nat.ofDigitChars_ten_toDigits
  obtain ⟨d, ds, digits, _⟩ := exists_toDigits n
  rw [readScale?, spanDigits_append (isDigit_of_mem_digits n) ends, digits]
  rw [digits] at size
  simp only [size]

/-- An exponent is read back with its sign. -/
theorem readMarked?_integer (n : Int) (ends : ∀ c ∈ rest.head?, c.isDigit = false) :
    readMarked? ((toString n).toList ++ rest) = some (some n, rest) := by
  cases n with
  | negSucc n =>
      rw [toList_toString_negSucc, List.cons_append, readMarked?, readScale?_digits true _ ends]
      rfl
  | ofNat n =>
      have unsigned : readMarked? (Nat.toDigits 10 n ++ rest) =
          readScale? false (Nat.toDigits 10 n ++ rest) := by
        obtain ⟨d, ds, digits, digit⟩ := exists_toDigits n
        rw [digits]
        unfold readMarked?
        split
        · rename_i same
          cases same
          cases digit
        · rename_i same
          cases same
          cases digit
        · rfl
      rw [toList_toString_ofNat, unsigned, readScale?_digits false n ends]
      rfl

end Parts

/-! ### Numbers -/

section Numbers

variable {rest : List Char}

/-- Digits that a number starts with are its whole part. -/
theorem readUnsigned?_toDigits (negative : Bool) (n : Nat)
    (ends : ∀ c ∈ rest.head?, c.isDigit = false ∧ c ≠ '.') :
    readUnsigned? negative (Nat.toDigits 10 n ++ rest) =
      (readExponent? rest).map fun exponent =>
        (match exponent.1 with
          | none => .int (if negative then -(n : Int) else n)
          | some exponent => .decimal { negative := negative, digits := n, exponent := exponent },
        exponent.2) := by
  have size : Nat.ofDigitChars 10 (Nat.toDigits 10 n) 0 = n := Nat.ofDigitChars_ten_toDigits
  have lead := toDigits_ne_leading_zero n
  have fraction : readFraction? rest = some ([], rest) :=
    readFraction?_of_no_point (fun c head => (ends c head).2)
  obtain ⟨d, ds, digits, _⟩ := exists_toDigits n
  rw [readUnsigned?, spanDigits_append (isDigit_of_mem_digits n) (fun c head => (ends c head).1)]
  rw [digits] at size lead ⊢
  split
  · rename_i none
    cases none
  · rename_i zero
    cases zero
    exact absurd rfl (lead _ _)
  · rename_i whole behind _ _ same
    cases same
    rw [fraction]
    simp only [Option.bind_eq_bind, Option.bind_some, List.append_nil, size]
    cases readExponent? rest with
    | none => rfl
    | some found =>
        obtain ⟨exponent?, behind⟩ := found
        cases exponent? with
        | none => rfl
        | some exponent => simp

theorem readNumber?_of_digit {d : Char} (digit : d.isDigit = true) (cs : List Char) :
    readNumber? (d :: cs) = readUnsigned? false (d :: cs) := by
  unfold readNumber?
  split
  · rename_i same
    cases same
    cases digit
  · rfl

/-- **Integers are read back.** -/
theorem readNumber?_integer (n : Int) (ends : EndsNumber rest) :
    readNumber? ((toString n).toList ++ rest) = some (.int n, rest) := by
  have noPoint : ∀ c ∈ rest.head?, c.isDigit = false ∧ c ≠ '.' :=
    fun c head => ⟨(ends c head).1, (ends c head).2.1⟩
  have noMark : readExponent? rest = some (none, rest) :=
    readExponent?_of_no_mark (fun c head => (ends c head).2.2)
  cases n with
  | negSucc n =>
      rw [toList_toString_negSucc, List.cons_append, readNumber?,
        readUnsigned?_toDigits true _ noPoint, noMark]
      rfl
  | ofNat n =>
      obtain ⟨d, ds, digits, digit⟩ := exists_toDigits n
      rw [toList_toString_ofNat, digits, List.cons_append, readNumber?_of_digit digit,
        ← List.cons_append, ← digits, readUnsigned?_toDigits false _ noPoint, noMark]
      rfl

/-- **Decimals are read back**, digit by digit and with the sign of a zero. -/
theorem readNumber?_decimal (d : Decimal) (ends : EndsNumber rest) :
    readNumber? (writeDecimal d ++ rest) = some (.decimal d, rest) := by
  have mark : ∀ c ∈ ('e' :: ((toString d.exponent).toList ++ rest)).head?,
      c.isDigit = false ∧ c ≠ '.' := by
    intro c head
    cases head
    decide
  have exponent : readExponent? ('e' :: ((toString d.exponent).toList ++ rest)) =
      some (some d.exponent, rest) := by
    rw [readExponent?, readMarked?_integer d.exponent (fun c head => (ends c head).1)]
  have unsigned : readUnsigned? d.negative
      (Nat.toDigits 10 d.digits ++ 'e' :: ((toString d.exponent).toList ++ rest)) =
        some (.decimal d, rest) := by
    rw [readUnsigned?_toDigits d.negative d.digits mark, exponent]
    rfl
  obtain ⟨first, others, digits, digit⟩ := exists_toDigits d.digits
  rw [writeDecimal, toList_toString_nat]
  rw [digits] at unsigned ⊢
  cases sign : d.negative with
  | true =>
      rw [sign] at unsigned
      simpa [readNumber?] using unsigned
  | false =>
      rw [sign] at unsigned
      simpa [readNumber?_of_digit digit] using unsigned

/-! ### How numbers start -/

/-- A number starts with a digit or a minus sign. -/
def StartsNumber (cs : List Char) : Prop :=
  ∃ c ds, cs = c :: ds ∧ (c = '-' ∨ c.isDigit = true)

theorem StartsNumber.append {cs : List Char} (starts : StartsNumber cs) (ds : List Char) :
    StartsNumber (cs ++ ds) := by
  obtain ⟨c, others, rfl, first⟩ := starts
  exact ⟨c, others ++ ds, rfl, first⟩

theorem startsNumber_toDigits (n : Nat) : StartsNumber (Nat.toDigits 10 n) := by
  obtain ⟨d, ds, digits, digit⟩ := exists_toDigits n
  exact ⟨d, ds, digits, .inr digit⟩

theorem startsNumber_integer (n : Int) : StartsNumber (toString n).toList := by
  cases n with
  | negSucc n => exact ⟨'-', _, toList_toString_negSucc n, .inl rfl⟩
  | ofNat n =>
      rw [toList_toString_ofNat]
      exact startsNumber_toDigits n

theorem startsNumber_decimal (d : Decimal) : StartsNumber (writeDecimal d) := by
  rw [writeDecimal, toList_toString_nat]
  cases d.negative with
  | true => exact ⟨'-', _, rfl, .inl rfl⟩
  | false => exact (startsNumber_toDigits d.digits).append _

end Numbers

end Abacus.Json
