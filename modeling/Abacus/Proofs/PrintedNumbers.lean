/-
Module: Abacus.Proofs.PrintedNumbers
Purpose: A number is evaluated again from the text that it is printed as.
Main exports: toList_display_int, literalValue_eq_ofDigitChars, means_digits, evaluate_of_means,
  evaluate_display
-/
import Mathlib.Data.Char
import Mathlib.Data.List.Basic
import Abacus.Json.Display
import Abacus.Proofs.DecimalDigits
import Abacus.Proofs.Language

namespace Abacus

/-!
A number is printed with the ten digits of ASCII, which are digits of a literal too, and with a
sign in front if it is negative.  An expression has no signs, but behind a zero the sign reads as a
subtraction.
-/

/-! ### Printed digits -/

theorem toList_display_int (value : Int) :
    (Json.int value).display.toList =
      (if value < 0 then ['-'] else []) ++ Nat.toDigits 10 value.natAbs := by
  rw [Json.display_int]
  cases value with
  | ofNat n => exact toList_toString_ofNat n
  | negSucc n =>
      rw [toList_toString_negSucc, if_pos (Int.negSucc_lt_zero n)]
      rfl

theorem digitValue?_of_isDigit {c : Char} (digit : c.isDigit = true) :
    Text.digitValue? c = some (c.toNat - '0'.toNat) := by
  obtain ⟨low, high⟩ := Char.isDigit_iff_toNat.1 digit
  have ascii : (⟨0x30, 0x39⟩ : Text.CodeRange).holds c = true :=
    Text.CodeRange.holds_iff.2 ⟨low, high⟩
  have first : Text.digitRanges.find? (·.holds c) = some ⟨0x30, 0x39⟩ :=
    List.find?_cons_of_pos ascii
  have small : c.toNat - '0'.toNat < 10 := Nat.sub_lt_left_of_lt_add low (Nat.lt_succ_of_le high)
  rw [Text.digitValue?, first]
  exact congrArg some (Nat.mod_eq_of_lt small)

theorem isDigit_of_isDigit {c : Char} (digit : c.isDigit = true) : Text.isDigit c = true := by
  rw [Text.isDigit, digitValue?_of_isDigit digit]
  rfl

/-- A literal in ASCII has the value that its digits have anywhere. -/
theorem literalValue_eq_ofDigitChars {digits : List Char}
    (allDigits : ∀ c ∈ digits, c.isDigit = true) :
    Phrase.literalValue digits = Nat.ofDigitChars 10 digits 0 := by
  rw [Phrase.literalValue, Nat.ofDigitChars_eq_foldl]
  refine List.foldl_ext _ _ 0 fun value c mem => ?_
  rw [digitValue?_of_isDigit (allDigits c mem), Option.getD_some]

/-! ### Literals on their own -/

section Literals

variable {limits : Limits}

/-- A text without parentheses opens none. -/
theorem shallow_of_not_mem {text : List Char} (none : '(' ∉ text) : limits.Shallow text := by
  refine .inr fun head start => ?_
  rw [List.count_eq_zero.2 fun mem => none (start.subset mem)]
  exact Nat.zero_le _

/-- A text that is written as an expression has its value. -/
theorem evaluate_of_means {text : String} {expression : Phrase .expression} {value : Int}
    (means : expression.Means limits 0 value) (written : text.toList = expression.text)
    (shallow : limits.Shallow text.toList) : evaluate text limits = .ok value := by
  rw [← List.append_nil expression.text] at written
  rcases evaluate_of_phrase means.legal means.fits allBlank_nil written shallow with
    ⟨_, found, valued, evaluated⟩ | ⟨divisor, others, some, _⟩
  · rw [means.valued] at valued
    cases valued
    exact evaluated
  · rw [expression.zeroDivisors_eq_nil_of_value? means.valued] at some
    cases some

/-- Digits in ASCII are a term with the value that they have anywhere. -/
theorem means_digits {digits : List Char} (nonempty : digits ≠ [])
    (allDigits : ∀ c ∈ digits, c.isDigit = true) (short : digits.length ≤ Numeral.capacity)
    (within : limits.digits = 0 ∨ (digits.length : Int) ≤ limits.digits) :
    (Phrase.ofFactor (.ofNumber (.number [] digits))).Means limits 0
      (Nat.ofDigitChars 10 digits 0) := by
  have legal : (Phrase.number [] digits).Legal :=
    ⟨allBlank_nil, nonempty, fun c mem => isDigit_of_isDigit (allDigits c mem)⟩
  rw [← literalValue_eq_ofDigitChars allDigits]
  exact .ofFactor (.ofNumber legal (literalRefusal?_eq_none_iff.2 ⟨short, within⟩))

/-- Digits on their own, in ASCII, evaluate to the value that they have anywhere. -/
theorem evaluate_digits {text : String} {digits : List Char} (written : text.toList = digits)
    (nonempty : digits ≠ []) (allDigits : ∀ c ∈ digits, c.isDigit = true)
    (short : digits.length ≤ Numeral.capacity)
    (within : limits.digits = 0 ∨ (digits.length : Int) ≤ limits.digits) :
    evaluate text limits = .ok (Nat.ofDigitChars 10 digits 0) := by
  refine evaluate_of_means (.ofTerm (means_digits nonempty allDigits short within)) written
    (shallow_of_not_mem ?_)
  rw [written]
  intro mem
  cases allDigits '(' mem

/-- Digits behind a zero and a sign are subtracted. -/
theorem evaluate_zero_minus_digits {text : String} {digits : List Char}
    (written : text.toList = '0' :: '-' :: digits) (nonempty : digits ≠ [])
    (allDigits : ∀ c ∈ digits, c.isDigit = true) (short : digits.length ≤ Numeral.capacity)
    (within : limits.digits = 0 ∨ (digits.length : Int) ≤ limits.digits) :
    evaluate text limits = .ok (-Nat.ofDigitChars 10 digits 0) := by
  have some : 0 < digits.length := List.length_pos_iff.2 nonempty
  have zero : (Phrase.ofFactor (.ofNumber (.number [] ['0']))).Means limits 0
      (Nat.ofDigitChars 10 ['0'] 0) :=
    means_digits (List.cons_ne_nil _ _) (List.forall_mem_singleton.2 rfl) (by decide)
      (within.imp_right fun within => by simp; omega)
  have difference := Phrase.Means.sum .subtract (.ofTerm zero)
    (means_digits nonempty allDigits short within) allBlank_nil
  have value : SumOp.subtract.join (Nat.ofDigitChars 10 ['0'] 0 : Nat)
      (Nat.ofDigitChars 10 digits 0 : Nat) = -Nat.ofDigitChars 10 digits 0 :=
    Int.zero_sub _
  rw [value] at difference
  refine evaluate_of_means difference written (shallow_of_not_mem ?_)
  rw [written, List.mem_cons, List.mem_cons]
  rintro (zero | minus | mem)
  · cases zero
  · cases minus
  · cases allDigits '(' mem

/-- A sign does not start an expression. -/
theorem evaluate_minus {text : String} {rest : List Char} (written : text.toList = '-' :: rest) :
    evaluate text limits = .error (.fault .numberExpected 0) := by
  apply evaluate_of_run_error
  have refused : State.first.step limits.task '-' = none := by rfl
  rw [written, run_cons_of_refused refused]
  rfl

end Literals

/-! ### Printed numbers -/

theorem toList_display_of_nonneg {value : Int} (natural : 0 ≤ value) :
    (Json.int value).display.toList = Nat.toDigits 10 value.natAbs := by
  rw [toList_display_int, if_neg (Int.not_lt.2 natural), List.nil_append]

theorem toList_display_of_neg {value : Int} (negative : value < 0) :
    (Json.int value).display.toList = '-' :: Nat.toDigits 10 value.natAbs := by
  rw [toList_display_int, if_pos negative, List.singleton_append]

section Printed

variable {limits : Limits} {value : Int}

/-- Zeros in front of a number leave its value. -/
theorem ofDigitChars_zeros_append (zeros n : Nat) :
    Nat.ofDigitChars 10 (List.replicate zeros '0' ++ Nat.toDigits 10 n) 0 = n := by
  rw [Nat.ofDigitChars_append, Nat.ofDigitChars_replicate_zero, Nat.mul_zero,
    Nat.ofDigitChars_ten_toDigits]

/-- A number that is not negative is read back, also behind zeros. -/
theorem evaluate_zeros_display (natural : 0 ≤ value) (zeros : Nat)
    (short : zeros + (Nat.toDigits 10 value.natAbs).length ≤ Numeral.capacity)
    (within : limits.digits = 0 ∨
      ((zeros + (Nat.toDigits 10 value.natAbs).length : Nat) : Int) ≤ limits.digits) :
    evaluate (String.ofList (List.replicate zeros '0') ++ (Json.int value).display) limits =
      .ok value := by
  have written : (String.ofList (List.replicate zeros '0') ++ (Json.int value).display).toList =
      List.replicate zeros '0' ++ Nat.toDigits 10 value.natAbs := by
    rw [String.toList_append, String.toList_ofList, toList_display_of_nonneg natural]
  have length : (List.replicate zeros '0' ++ Nat.toDigits 10 value.natAbs).length =
      zeros + (Nat.toDigits 10 value.natAbs).length := by
    rw [List.length_append, List.length_replicate]
  have nonempty : List.replicate zeros '0' ++ Nat.toDigits 10 value.natAbs ≠ [] :=
    List.append_ne_nil_of_right_ne_nil _ Nat.toDigits_ne_nil
  have allDigits : ∀ c ∈ List.replicate zeros '0' ++ Nat.toDigits 10 value.natAbs,
      c.isDigit = true := by
    refine List.forall_mem_append.2 ⟨fun c mem => ?_, isDigit_of_mem_digits _⟩
    rw [List.eq_of_mem_replicate mem]
    rfl
  rw [← length] at short within
  rw [evaluate_digits written nonempty allDigits short within, ofDigitChars_zeros_append,
    Int.natAbs_of_nonneg natural]

/-- A negative number is read back behind a zero. -/
theorem evaluate_zero_display (negative : value < 0)
    (short : (Nat.toDigits 10 value.natAbs).length ≤ Numeral.capacity)
    (within : limits.digits = 0 ∨
      ((Nat.toDigits 10 value.natAbs).length : Int) ≤ limits.digits) :
    evaluate ("0" ++ (Json.int value).display) limits = .ok value := by
  have written : ("0" ++ (Json.int value).display).toList =
      '0' :: '-' :: Nat.toDigits 10 value.natAbs := by
    rw [String.toList_append, toList_display_of_neg negative]
    rfl
  rw [evaluate_zero_minus_digits written Nat.toDigits_ne_nil (isDigit_of_mem_digits _) short
    within, Nat.ofDigitChars_ten_toDigits, Int.ofNat_natAbs_of_nonpos (Int.le_of_lt negative),
    Int.neg_neg]

end Printed

/-- **Printed numbers are read back.**  Where a literal with as many digits as the number is within
the limits, the text that a number is printed as evaluates to it if the number is not negative,
also behind zeros, as far as these are within the limits too.  A negative number is read back
behind one zero; its own text has no number where one is expected, at its very start. -/
theorem evaluate_display (value : Int) (limits : Limits) (size : Nat)
    (digits : (Nat.toDigits 10 value.natAbs).length = size) (short : size ≤ Numeral.capacity)
    (within : limits.digits = 0 ∨ (size : Int) ≤ limits.digits) :
    (0 ≤ value →
      evaluate (Json.int value).display limits = .ok value ∧
        ∀ zeros : Nat, zeros + size ≤ Numeral.capacity →
          (limits.digits = 0 ∨ ((zeros + size : Nat) : Int) ≤ limits.digits) →
            evaluate (String.ofList (List.replicate zeros '0') ++ (Json.int value).display) limits =
              .ok value) ∧
    (value < 0 →
      evaluate ("0" ++ (Json.int value).display) limits = .ok value ∧
        ∃ failure, evaluate (Json.int value).display limits = .error failure ∧
          failure.diagnostic =
            { category := .malformed, message := "expected number", position := some 0 }) := by
  subst digits
  constructor
  · intro natural
    have plain := evaluate_zeros_display natural 0 (by rwa [Nat.zero_add]) (by rwa [Nat.zero_add])
    rw [List.replicate_zero, String.ofList_nil, String.empty_append] at plain
    exact ⟨plain, evaluate_zeros_display natural⟩
  · intro negative
    exact ⟨evaluate_zero_display negative short within, _,
      evaluate_minus (toList_display_of_neg negative), rfl⟩

/-- A number of three digits behind two zeros, and a negative one, where five digits are allowed and
no parentheses. -/
theorem evaluate_display_of_three_digits :
    (Nat.toDigits 10 (907 : Int).natAbs).length = 3 ∧
      (Nat.toDigits 10 (-907 : Int).natAbs).length = 3 ∧
        3 ≤ Numeral.capacity ∧
          evaluate "00907" { digits := 5, depth := -1 } = .ok 907 ∧
            evaluate "0-907" { digits := 5, depth := -1 } = .ok (-907) ∧
              ∃ failure, evaluate "-907" { digits := 5, depth := -1 } = .error failure ∧
                failure.diagnostic =
                  { category := .malformed, message := "expected number", position := some 0 } := by
  have natural := (evaluate_display 907 { digits := 5, depth := -1 } 3 (by decide) (by decide)
    (by decide)).1 (by decide)
  have negative := (evaluate_display (-907) { digits := 5, depth := -1 } 3 (by decide) (by decide)
    (by decide)).2 (by decide)
  refine ⟨by decide, by decide, by decide, ?_, ?_⟩
  · exact natural.2 2 (by decide) (by decide)
  · exact negative

end Abacus
