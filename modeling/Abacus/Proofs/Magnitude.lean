/-
Module: Abacus.Proofs.Magnitude
Purpose: A value has no more digits than the text that it comes from.
Main exports: Phrase.literalValue_lt, Phrase.natAbs_lt, evaluate_natAbs_lt
-/
import Mathlib.Algebra.Group.Nat.Defs
import Abacus.Proofs.PrintedNumbers

namespace Abacus

/-!
A bound by powers of ten is made for this: a literal stays below the power that its digits name,
and whatever joins two operands stays below the product of their powers, which is the power that
the digits of both name.  A sum needs that both operands have a digit at all.
-/

/-! ### Operations -/

theorem SumOp.natAbs_join_le (op : SumOp) (left right : Int) :
    (op.join left right).natAbs ≤ left.natAbs + right.natAbs := by
  cases op with
  | add => exact Int.natAbs_add_le left right
  | subtract => exact Int.natAbs_sub_le left right

/-- A quotient is not larger than its dividend, hence not larger than a product would be. -/
theorem ProductOp.natAbs_le_of_applied {op : ProductOp} {left right value : Int}
    (applied : op.join? left right = some value) :
    value.natAbs ≤ left.natAbs * right.natAbs := by
  cases op with
  | multiply =>
      cases applied
      exact Nat.le_of_eq (Int.natAbs_mul left right)
  | divide =>
      have nonzero : right ≠ 0 := by
        rintro rfl
        cases applied
      rw [ProductOp.join?, divide?_of_ne_zero nonzero] at applied
      cases applied
      calc (left.tdiv right).natAbs = left.natAbs / right.natAbs := Int.natAbs_tdiv left right
        _ ≤ left.natAbs := Nat.div_le_self _ _
        _ ≤ left.natAbs * right.natAbs :=
            Nat.le_mul_of_pos_right _ (Int.natAbs_pos.2 nonzero)

section Powers

variable {a b m n : Nat}

theorem mul_lt_pow (left : a < 10 ^ m) (right : b < 10 ^ n) : a * b < 10 ^ (m + n) := by
  rw [Nat.pow_add]
  exact Nat.mul_lt_mul'' left right

theorem add_lt_pow (left : a < 10 ^ m) (right : b < 10 ^ n) (leftDigits : 0 < m)
    (rightDigits : 0 < n) : a + b < 10 ^ (m + n) := by
  have large : ∀ {k : Nat}, 0 < k → 2 ≤ 10 ^ k := fun positive =>
    Nat.le_trans (by decide) (Nat.pow_le_pow_right (by decide) positive)
  calc a + b < 10 ^ m + 10 ^ n := Nat.add_lt_add left right
    _ ≤ 10 ^ m * 10 ^ n := Nat.add_le_mul (large leftDigits) (large rightDigits)
    _ = 10 ^ (m + n) := (Nat.pow_add 10 m n).symm

end Powers

/-! ### Digits of a text -/

theorem countP_isDigit_of_allBlank {blanks : List Char} (blank : Phrase.AllBlank blanks) :
    blanks.countP Text.isDigit = 0 := by
  rw [List.countP_eq_zero]
  intro c mem
  rw [isDigit_eq_false_iff.2 (digitValue?_of_isBlank (blank c mem))]
  decide

theorem countP_isDigit_of_allDigit {digits : List Char}
    (allDigits : ∀ c ∈ digits, Text.isDigit c = true) :
    digits.countP Text.isDigit = digits.length :=
  List.countP_eq_length.2 allDigits

/-- Two operands with a symbol between them have the digits of both. -/
theorem countP_isDigit_joined {blanks : List Char} (blank : Phrase.AllBlank blanks) {c : Char}
    (plain : Plain c) (cs ds : List Char) :
    (cs ++ blanks ++ c :: ds).countP Text.isDigit =
      cs.countP Text.isDigit + ds.countP Text.isDigit := by
  have symbol : ¬ Text.isDigit c = true := by
    rw [isDigit_eq_false_iff.2 plain.2]
    decide
  rw [List.countP_append, List.countP_append, countP_isDigit_of_allBlank blank,
    List.countP_cons_of_neg symbol, Nat.add_zero]

namespace Phrase

theorem countP_isDigit_group {before after : List Char} (blankBefore : AllBlank before)
    (body : Phrase .expression) (blankAfter : AllBlank after) :
    (group before body after).text.countP Text.isDigit = body.text.countP Text.isDigit := by
  have closing := countP_isDigit_joined blankAfter plain_closing (before ++ '(' :: body.text) []
  have opening := countP_isDigit_joined blankBefore plain_opening [] body.text
  rw [text, closing]
  simpa using opening

/-- There is no phrase without a digit. -/
theorem countP_isDigit_pos {rule : Rule} (phrase : Phrase rule) (legal : phrase.Legal) :
    0 < phrase.text.countP Text.isDigit := by
  induction phrase with
  | number blanks digits =>
      obtain ⟨blank, nonempty, allDigits⟩ := legal
      rw [text, List.countP_append, countP_isDigit_of_allDigit allDigits]
      exact Nat.add_pos_right _ (List.length_pos_iff.2 nonempty)
  | ofNumber inner ih => exact ih legal
  | group before body after ih =>
      obtain ⟨blankBefore, legalBody, blankAfter⟩ := legal
      rw [countP_isDigit_group blankBefore body blankAfter]
      exact ih legalBody
  | ofFactor inner ih => exact ih legal
  | product left blanks op right ihLeft ihRight =>
      obtain ⟨legalLeft, blank, legalRight⟩ := legal
      rw [text, countP_isDigit_joined blank op.plain_symbol]
      exact Nat.add_pos_left (ihLeft legalLeft) _
  | ofTerm inner ih => exact ih legal
  | sum left blanks op right ihLeft ihRight =>
      obtain ⟨legalLeft, blank, legalRight⟩ := legal
      rw [text, countP_isDigit_joined blank op.plain_symbol]
      exact Nat.add_pos_left (ihLeft legalLeft) _

/-! ### Values of phrases -/

/-- A literal stays below the power of ten that its length names, whatever its digits are. -/
theorem literalValue_lt (digits : List Char) : literalValue digits < 10 ^ digits.length := by
  have digit_lt : ∀ c, (Text.digitValue? c).getD 0 < 10 := by
    intro c
    cases value : Text.digitValue? c with
    | none => decide
    | some d => exact Text.digitValue?_lt value
  -- Digits that follow a number move it to the left; the number is below its successor.
  have behind : ∀ value : Nat,
      digits.foldl (fun value c => 10 * value + (Text.digitValue? c).getD 0) value <
        (value + 1) * 10 ^ digits.length := by
    induction digits with
    | nil =>
        intro value
        simp
    | cons c digits ih =>
        intro value
        have last := digit_lt c
        calc _ < (10 * value + (Text.digitValue? c).getD 0 + 1) * 10 ^ digits.length :=
              ih (10 * value + (Text.digitValue? c).getD 0)
          _ ≤ ((value + 1) * 10) * 10 ^ digits.length :=
              Nat.mul_le_mul_right _ (by omega)
          _ = (value + 1) * 10 ^ (c :: digits).length := by
              rw [List.length_cons, Nat.pow_succ, Nat.mul_assoc, Nat.mul_comm 10]
  simpa [literalValue] using behind 0

/-- The value of a phrase stays below the power of ten that its digits name. -/
theorem natAbs_lt {rule : Rule} (phrase : Phrase rule) (legal : phrase.Legal) {value : Int}
    (valued : phrase.value? = some value) :
    value.natAbs < 10 ^ phrase.text.countP Text.isDigit := by
  induction phrase generalizing value with
  | number blanks digits =>
      obtain ⟨blank, _, allDigits⟩ := legal
      cases valued
      rw [text, List.countP_append, countP_isDigit_of_allBlank blank,
        countP_isDigit_of_allDigit allDigits, Nat.zero_add]
      exact literalValue_lt digits
  | ofNumber inner ih => exact ih legal valued
  | group before body after ih =>
      obtain ⟨blankBefore, legalBody, blankAfter⟩ := legal
      rw [countP_isDigit_group blankBefore body blankAfter]
      exact ih legalBody valued
  | ofFactor inner ih => exact ih legal valued
  | product left blanks op right ihLeft ihRight =>
      obtain ⟨legalLeft, blank, legalRight⟩ := legal
      obtain ⟨first, second, valuedLeft, valuedRight, applied⟩ :=
        value?_product_eq_some_iff.1 valued
      rw [text, countP_isDigit_joined blank op.plain_symbol]
      exact Nat.lt_of_le_of_lt (ProductOp.natAbs_le_of_applied applied)
        (mul_lt_pow (ihLeft legalLeft valuedLeft) (ihRight legalRight valuedRight))
  | ofTerm inner ih => exact ih legal valued
  | sum left blanks op right ihLeft ihRight =>
      obtain ⟨legalLeft, blank, legalRight⟩ := legal
      obtain ⟨first, second, valuedLeft, valuedRight, rfl⟩ := value?_sum_eq_some_iff.1 valued
      rw [text, countP_isDigit_joined blank op.plain_symbol]
      exact Nat.lt_of_le_of_lt (op.natAbs_join_le first second)
        (add_lt_pow (ihLeft legalLeft valuedLeft) (ihRight legalRight valuedRight)
          (left.countP_isDigit_pos legalLeft) (right.countP_isDigit_pos legalRight))

end Phrase

/-- **Values are no longer than their texts.**  What a text evaluates to stays below the power of
ten that the digits in the text name, so it is printed with no more digits than these, behind a
sign if it is negative. -/
theorem evaluate_natAbs_lt {text : String} {limits : Limits} {value : Int}
    (evaluated : evaluate text limits = .ok value) :
    value.natAbs < 10 ^ text.toList.countP Text.isDigit ∧
      ∃ digits : List Char,
        (Json.int value).display.toList = (if value < 0 then ['-'] else []) ++ digits ∧
          (∀ c ∈ digits, Text.isDigit c = true) ∧
            digits.length ≤ text.toList.countP Text.isDigit := by
  obtain ⟨expression, blanks, means, blank, written⟩ := exists_phrase_of_evaluate evaluated
  have count : text.toList.countP Text.isDigit = expression.text.countP Text.isDigit := by
    rw [written, List.countP_append, countP_isDigit_of_allBlank blank, Nat.add_zero]
  have bound := expression.natAbs_lt means.legal means.valued
  have positive := expression.countP_isDigit_pos means.legal
  rw [count]
  exact ⟨bound, Nat.toDigits 10 value.natAbs, toList_display_int value,
    fun c mem => isDigit_of_isDigit (isDigit_of_mem_digits _ c mem),
    (Nat.length_toDigits_le_iff (by decide) positive).2 bound⟩

/-- A difference of five digits in two scripts, whose value has four of them and a sign. -/
theorem evaluate_natAbs_lt_of_difference :
    evaluate "5 - ( ٩9*99)" {} = .ok (-9796) ∧
      "5 - ( ٩9*99)".toList.countP Text.isDigit = 5 ∧ (-9796 : Int).natAbs < 10 ^ 5 := by
  have evaluated : evaluate "5 - ( ٩9*99)" {} = .ok (-9796) := by rfl
  have count : "5 - ( ٩9*99)".toList.countP Text.isDigit = 5 := by decide
  have bound := (evaluate_natAbs_lt evaluated).1
  rw [count] at bound
  exact ⟨evaluated, count, bound⟩

end Abacus
