/-
Module: Abacus.Proofs.ZeroDivision
Purpose: When an expression fails by dividing by zero, and which divisor is reported.
Main exports: evaluate_first_zeroDivisor
-/
import Abacus.Proofs.Language

namespace Abacus

/-- **The zero divisor that ends first is reported.**  Of an expression within the limits comes
its value, if none of its divisors is zero.  Otherwise the evaluation fails, at the first symbol
of the divisor that ends before all other zero divisors: the inner one of nested divisions, the
left one of two side by side. -/
theorem evaluate_first_zeroDivisor (text : String) (limits : Limits)
    (expression : Phrase .expression) (blanks : List Char) (legal : expression.Legal)
    (blank : Phrase.AllBlank blanks) (written : text.toList = expression.text ++ blanks)
    (fits : expression.Fits limits 0) (shallow : limits.Shallow text.toList) :
    (expression.zeroDivisors 0 = [] →
      ∃ value, expression.value? = some value ∧ evaluate text limits = .ok value) ∧
    (expression.zeroDivisors 0 ≠ [] →
      ∃ start stop, (start, stop) ∈ expression.zeroDivisors 0 ∧
        (∀ other ∈ expression.zeroDivisors 0, other = (start, stop) ∨ stop < other.2) ∧
          evaluate text limits = .error (.fault .zeroDivisor start)) := by
  rcases evaluate_of_phrase legal fits blank written shallow with
    ⟨none, valued⟩ | ⟨divisor, others, some, failed⟩
  · exact ⟨fun _ => valued, fun nonempty => absurd none nonempty⟩
  · constructor
    · intro none
      rw [some] at none
      cases none
    · intro _
      have order := expression.pairwise_zeroDivisors 0
      rw [some, List.pairwise_cons] at order
      refine ⟨divisor.1, divisor.2, by rw [some]; exact List.mem_cons_self, ?_, failed⟩
      intro other mem
      rw [some] at mem
      rcases List.mem_cons.1 mem with same | later
      · exact .inl same
      · exact .inr (order.1 other later)

/-- The factor that a single digit makes. -/
def Phrase.digit (c : Char) : Phrase .factor :=
  .ofNumber (.number [] [c])

/-- `6/(4/ (1-1))/0`, which has two zero divisors, the first of them inside a divisor. -/
def nestedQuotient : Phrase .expression :=
  .ofTerm (.product
    (.product (.ofFactor (.digit '6')) [] .divide
      (.group []
        (.ofTerm (.product (.ofFactor (.digit '4')) [] .divide
          (.group [' ']
            (.sum (.ofTerm (.ofFactor (.digit '1'))) [] .subtract (.ofFactor (.digit '1')))
            [])))
        []))
    [] .divide (.digit '0'))

theorem nestedQuotient_fails_inside :
    nestedQuotient.Legal ∧ Phrase.AllBlank [] ∧
      "6/(4/ (1-1))/0".toList = nestedQuotient.text ++ [] ∧ nestedQuotient.Fits {} 0 ∧
        Limits.Shallow {} "6/(4/ (1-1))/0".toList ∧ nestedQuotient.zeroDivisors 0 ≠ [] ∧
          evaluate "6/(4/ (1-1))/0" {} = .error (.fault .zeroDivisor 6) := by
  have legal : nestedQuotient.Legal := by
    simp [nestedQuotient, Phrase.digit, Phrase.Legal, Phrase.AllBlank]
    decide
  have blank : Phrase.AllBlank [] := by simp [Phrase.AllBlank]
  have written : "6/(4/ (1-1))/0".toList = nestedQuotient.text ++ [] := by decide
  have fits : nestedQuotient.Fits {} 0 := by
    simp [nestedQuotient, Phrase.digit, Phrase.Fits, Numeral.capacity]
  have shallow : Limits.Shallow {} "6/(4/ (1-1))/0".toList := .inl (by decide)
  have divisors : nestedQuotient.zeroDivisors 0 = [(6, 11), (13, 14)] := by decide
  have some : nestedQuotient.zeroDivisors 0 ≠ [] := by simp [divisors]
  obtain ⟨start, stop, mem, first, failed⟩ :=
    (evaluate_first_zeroDivisor _ {} nestedQuotient [] legal blank written fits shallow).2 some
  have inner := first (6, 11) (by simp [divisors])
  have start_eq : start = 6 := by
    rw [divisors] at mem
    simp only [List.mem_cons, Prod.mk.injEq, List.not_mem_nil, or_false] at mem inner
    omega
  rw [start_eq] at failed
  exact ⟨legal, blank, written, fits, shallow, some, failed⟩

end Abacus
