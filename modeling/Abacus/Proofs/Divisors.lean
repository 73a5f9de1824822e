/-
Module: Abacus.Proofs.Divisors
Purpose: The zero divisors of a phrase: when there are any, and in which order they end.
Main exports: Phrase.zeroDivisors_eq_nil_of_value?, Phrase.bounds_of_mem_zeroDivisors,
  Phrase.pairwise_zeroDivisors
-/
import Abacus.Phrase

namespace Abacus

theorem ProductOp.join?_eq_none_iff {op : ProductOp} {left right : Int} :
    op.join? left right = none ↔ op = .divide ∧ right = 0 := by
  cases op with
  | multiply => simp [ProductOp.join?]
  | divide => simp [ProductOp.join?, divide?_eq_none_iff]

/-- How many characters of a phrase stand behind each of its divisors: where a factor has a
division in it, it ends with a parenthesis. -/
def Rule.margin : Rule → Nat
  | number => 1
  | factor => 1
  | _ => 0

namespace Phrase

/-- The value of a product is what the machine's operation on its factors gives. -/
theorem value?_product (left : Phrase .term) (blanks : List Char) (op : ProductOp)
    (right : Phrase .factor) :
    (product left blanks op right).value? =
      left.value?.bind fun first => right.value?.bind fun second => op.join? first second := by
  simp only [ProductOp.join?_eq]
  cases op <;> rfl

/-- The value of a sum is what the machine's operation on its terms gives. -/
theorem value?_sum (left : Phrase .expression) (blanks : List Char) (op : SumOp)
    (right : Phrase .term) :
    (sum left blanks op right).value? =
      left.value?.bind fun first =>
        right.value?.bind fun second => some (op.join first second) := by
  cases op <;> rfl

theorem value?_product_eq_some_iff {left : Phrase .term} {blanks : List Char} {op : ProductOp}
    {right : Phrase .factor} {value : Int} :
    (product left blanks op right).value? = some value ↔
      ∃ first second, left.value? = some first ∧ right.value? = some second ∧
        op.join? first second = some value := by
  simp [value?_product, Option.bind_eq_some_iff]

theorem value?_sum_eq_some_iff {left : Phrase .expression} {blanks : List Char} {op : SumOp}
    {right : Phrase .term} {value : Int} :
    (sum left blanks op right).value? = some value ↔
      ∃ first second, left.value? = some first ∧ right.value? = some second ∧
        op.join first second = value := by
  simp [value?_sum, Option.bind_eq_some_iff]

/-- A phrase with a value divides by zero nowhere. -/
theorem zeroDivisors_eq_nil_of_value? {rule : Rule} (phrase : Phrase rule) {value : Int}
    (valued : phrase.value? = some value) (offset : Nat) : phrase.zeroDivisors offset = [] := by
  induction phrase generalizing value offset with
  | number blanks digits => rfl
  | ofNumber inner ih => exact ih valued offset
  | group before body after ih => exact ih valued _
  | ofFactor inner ih => exact ih valued offset
  | product left blanks op right ihLeft ihRight =>
      obtain ⟨first, second, valuedLeft, valuedRight, applied⟩ :=
        value?_product_eq_some_iff.1 valued
      have defined : ¬(op = .divide ∧ right.value? = some 0) := by
        rintro ⟨divides, zero⟩
        rw [valuedRight, Option.some.injEq] at zero
        rw [ProductOp.join?_eq_none_iff.2 ⟨divides, zero⟩] at applied
        cases applied
      rw [zeroDivisors, ihLeft valuedLeft, ihRight valuedRight, if_neg defined]
      rfl
  | ofTerm inner ih => exact ih valued offset
  | sum left blanks op right ihLeft ihRight =>
      obtain ⟨first, second, valuedLeft, valuedRight, _⟩ := value?_sum_eq_some_iff.1 valued
      rw [zeroDivisors, ihLeft valuedLeft, ihRight valuedRight]
      rfl

/-! ### The order of divisors -/

/-- Divisors end within the phrase. -/
theorem bounds_of_mem_zeroDivisors {rule : Rule} (phrase : Phrase rule) {offset : Nat}
    {divisor : Nat × Nat} (mem : divisor ∈ phrase.zeroDivisors offset) :
    offset < divisor.2 ∧ divisor.2 + rule.margin ≤ offset + phrase.text.length := by
  induction phrase generalizing offset with
  | number blanks digits => cases mem
  | ofNumber inner ih => exact ih mem
  | group before body after ih =>
      have bounds := ih mem
      simp only [text, List.length_append, List.length_cons, Rule.margin] at bounds ⊢
      omega
  | ofFactor inner ih =>
      have bounds := ih mem
      simp only [text, Rule.margin] at bounds ⊢
      omega
  | product left blanks op right ihLeft ihRight =>
      simp only [text, List.length_append, List.length_cons, Rule.margin]
      rw [zeroDivisors, List.mem_append, List.mem_append] at mem
      rcases mem with (inLeft | inRight) | own
      · have bounds := ihLeft inLeft
        simp only [Rule.margin] at bounds
        omega
      · have bounds := ihRight inRight
        simp only [Rule.margin] at bounds
        omega
      · split at own
        · rw [List.mem_singleton.1 own]
          simp only
          omega
        · cases own
  | ofTerm inner ih => exact ih mem
  | sum left blanks op right ihLeft ihRight =>
      simp only [text, List.length_append, List.length_cons, Rule.margin]
      rw [zeroDivisors, List.mem_append] at mem
      rcases mem with inLeft | inRight
      · have bounds := ihLeft inLeft
        simp only [Rule.margin] at bounds
        omega
      · have bounds := ihRight inRight
        simp only [Rule.margin] at bounds
        omega

/-- Divisors are listed in the order in which they end. -/
theorem pairwise_zeroDivisors {rule : Rule} (phrase : Phrase rule) (offset : Nat) :
    (phrase.zeroDivisors offset).Pairwise fun one two => one.2 < two.2 := by
  induction phrase generalizing offset with
  | number blanks digits => exact List.Pairwise.nil
  | ofNumber inner ih => exact ih offset
  | group before body after ih => exact ih _
  | ofFactor inner ih => exact ih offset
  | product left blanks op right ihLeft ihRight =>
      rw [zeroDivisors]
      refine List.pairwise_append.2 ⟨List.pairwise_append.2 ⟨ihLeft _, ihRight _, ?_⟩, ?_, ?_⟩
      · intro one inLeft two inRight
        have ends := (left.bounds_of_mem_zeroDivisors inLeft).2
        have starts := (right.bounds_of_mem_zeroDivisors inRight).1
        simp only [Rule.margin] at ends
        omega
      · split
        · exact List.pairwise_singleton _ _
        · exact List.Pairwise.nil
      · intro one earlier two own
        split at own
        · rw [List.mem_singleton.1 own]
          rcases List.mem_append.1 earlier with inLeft | inRight
          · have ends := (left.bounds_of_mem_zeroDivisors inLeft).2
            simp only [Rule.margin] at ends ⊢
            omega
          · have ends := (right.bounds_of_mem_zeroDivisors inRight).2
            simp only [Rule.margin] at ends ⊢
            omega
        · cases own
  | ofTerm inner ih => exact ih offset
  | sum left blanks op right ihLeft ihRight =>
      rw [zeroDivisors]
      refine List.pairwise_append.2 ⟨ihLeft _, ihRight _, ?_⟩
      intro one inLeft two inRight
      have ends := (left.bounds_of_mem_zeroDivisors inLeft).2
      have starts := (right.bounds_of_mem_zeroDivisors inRight).1
      simp only [Rule.margin] at ends
      omega

end Phrase

end Abacus
