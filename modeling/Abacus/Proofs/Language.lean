/-
Module: Abacus.Proofs.Language
Purpose: The machine evaluates exactly the expressions of the grammar, to the values they have.
Main exports: evaluate_eq_ok_iff_exists_phrase
-/
import Abacus.Proofs.Divisors
import Abacus.Proofs.Parentheses
import Abacus.Proofs.Spelling
import Abacus.Token

namespace Abacus

/-! ### Tokens -/

namespace Token

theorem ofText_nil : ofText [] = [] := by
  rw [ofText]

theorem ofText_of_isBlank {c : Char} (blank : Text.isBlank c = true) (cs : List Char) :
    ofText (c :: cs) = ofText cs := by
  rw [ofText, if_pos blank]

theorem ofText_of_plain {c : Char} (plain : Plain c) (cs : List Char) :
    ofText (c :: cs) = .symbol c :: ofText cs := by
  have notDigit := isDigit_eq_false_iff.2 plain.2
  rw [ofText, plain.1, notDigit]
  rfl

/-- Blanks before a token do not count. -/
theorem ofText_blanks_append {blanks : List Char} (blank : Phrase.AllBlank blanks)
    (cs : List Char) : ofText (blanks ++ cs) = ofText cs := by
  induction blanks with
  | nil => rfl
  | cons c blanks ih =>
      rw [List.cons_append, ofText_of_isBlank (blank c (by simp))]
      exact ih fun d mem => blank d (by simp [mem])

/-- A symbol with the blanks before it. -/
theorem ofText_symbol {blanks : List Char} (blank : Phrase.AllBlank blanks) {c : Char}
    (plain : Plain c) (cs : List Char) :
    ofText (blanks ++ c :: cs) = .symbol c :: ofText cs := by
  rw [ofText_blanks_append blank, ofText_of_plain plain]

/-- Digits are one number where no digit follows them. -/
theorem ofText_digits_append {digits rest : List Char} (nonempty : digits ≠ [])
    (allDigits : ∀ c ∈ digits, Text.isDigit c = true) (ends : EndsLiteral rest) :
    ofText (digits ++ rest) = .number digits :: ofText rest := by
  obtain ⟨c, digits, rfl⟩ := List.exists_cons_of_ne_nil nonempty
  have first : Text.isDigit c = true := allDigits c (by simp)
  have others : ∀ c ∈ digits, Text.isDigit c = true := fun c mem => allDigits c (by simp [mem])
  obtain ⟨d, digit⟩ := Option.isSome_iff_exists.1 first
  have noMore : rest.takeWhile Text.isDigit = [] ∧ rest.dropWhile Text.isDigit = rest := by
    cases rest with
    | nil => exact ⟨rfl, rfl⟩
    | cons e rest =>
        have notDigit := isDigit_eq_false_iff.2 (ends e rfl)
        simp [notDigit]
  rw [List.cons_append, ofText, isBlank_of_digitValue? digit, first,
    List.takeWhile_append_of_pos others, List.dropWhile_append_of_pos others, noMore.1, noMore.2]
  simp

end Token

/-- The tokens of the text of a phrase are those of the phrase: its numbers are the longest runs
of digits. -/
theorem Phrase.ofText_text_append {rule : Rule} (phrase : Phrase rule) (legal : phrase.Legal)
    {rest : List Char} (ends : EndsLiteral rest) :
    Token.ofText (phrase.text ++ rest) = phrase.tokens ++ Token.ofText rest := by
  induction phrase generalizing rest with
  | number blanks digits =>
      obtain ⟨blank, nonempty, allDigits⟩ := legal
      rw [text, List.append_assoc, Token.ofText_blanks_append blank,
        Token.ofText_digits_append nonempty allDigits ends]
      rfl
  | ofNumber inner ih => exact ih legal ends
  | group before body after ih =>
      obtain ⟨blankBefore, legalBody, blankAfter⟩ := legal
      have split : (group before body after).text ++ rest =
          before ++ ('(' :: (body.text ++ (after ++ ')' :: rest))) := by
        simp [text]
      rw [split, Token.ofText_symbol blankBefore plain_opening,
        ih legalBody (endsLiteral_symbol blankAfter plain_closing rest),
        Token.ofText_symbol blankAfter plain_closing]
      simp [tokens]
  | ofFactor inner ih => exact ih legal ends
  | product left blanks op right ihLeft ihRight =>
      obtain ⟨legalLeft, blank, legalRight⟩ := legal
      have split : (product left blanks op right).text ++ rest =
          left.text ++ (blanks ++ (op.symbol :: (right.text ++ rest))) := by
        simp [text]
      rw [split, ihLeft legalLeft (endsLiteral_symbol blank op.plain_symbol _),
        Token.ofText_symbol blank op.plain_symbol, ihRight legalRight ends]
      simp [tokens]
  | ofTerm inner ih => exact ih legal ends
  | sum left blanks op right ihLeft ihRight =>
      obtain ⟨legalLeft, blank, legalRight⟩ := legal
      have split : (sum left blanks op right).text ++ rest =
          left.text ++ (blanks ++ (op.symbol :: (right.text ++ rest))) := by
        simp [text]
      rw [split, ihLeft legalLeft (endsLiteral_symbol blank op.plain_symbol _),
        Token.ofText_symbol blank op.plain_symbol, ihRight legalRight ends]
      simp [tokens]

/-! ### Evaluation -/

variable {limits : Limits} {text : String}

/-- A value comes of a whole expression within the limits. -/
theorem exists_phrase_of_evaluate {value : Int} (evaluated : evaluate text limits = .ok value) :
    ∃ (expression : Phrase .expression) (blanks : List Char), expression.Means limits 0 value ∧
      Phrase.AllBlank blanks ∧ text.toList = expression.text ++ blanks := by
  obtain ⟨taken, left, last, halts⟩ := exists_halts limits text.toList
  rw [evaluate_eq_verdict halts] at evaluated
  obtain ⟨rfl, answered⟩ := State.verdict_eq_ok_iff.1 evaluated
  obtain ⟨term, phase, groups, total⟩ := State.answer_eq_ok_iff.1 answered
  have spells : (last.closeLiteral limits.task).Spells limits.task taken :=
    spells_closeLiteral (spells_of_walk (spells_start limits.task 0) halts.walked)
  obtain ⟨outside, blanks, expression, rfl, outsideSpell, means, blank⟩ :=
    exists_phrase_of_operator phase spells
  rw [groups] at outsideSpell
  obtain rfl : outside = [] := outsideSpell
  rw [total, Limits.depth_task, groups] at means
  exact ⟨expression, blanks, means, blank, by simpa using halts.split⟩

/-- A whole expression within the limits has its value, or fails at its first zero divisor. -/
theorem evaluate_of_phrase {expression : Phrase .expression} {blanks : List Char}
    (legal : expression.Legal) (fits : expression.Fits limits 0) (blank : Phrase.AllBlank blanks)
    (written : text.toList = expression.text ++ blanks) (shallow : limits.Shallow text.toList) :
    (expression.zeroDivisors 0 = [] ∧
      ∃ value, expression.value? = some value ∧ evaluate text limits = .ok value) ∨
    ∃ divisor others, expression.zeroDivisors 0 = divisor :: others ∧
      evaluate text limits = .error (.fault .zeroDivisor divisor.1) := by
  have height : expression.height ≤ room := by
    rw [written] at shallow
    exact expression.height_le_room legal fits shallow
  have consumes := expression.reads limits State.first ⟨rfl, by simp [State.first], fun _ => rfl⟩
    legal fits (by simpa [State.first] using height)
  have ends := endsLiteral_of_allBlank blank
  cases divisors : expression.zeroDivisors 0 with
  | cons divisor others =>
      rw [State.first, divisors] at consumes
      have failed := consumes blanks ends
      rw [← written] at failed
      exact .inr ⟨divisor, others, rfl, evaluate_of_run_error failed⟩
  | nil =>
      rw [State.first, divisors] at consumes
      obtain ⟨last, ⟨value, valued, sum, term, lastEq, total⟩, leads⟩ := consumes
      have phase : last.phase = .operator term := by rw [lastEq]
      have stop : run limits.task State.first text.toList =
          (last.forward blanks.length).settle limits.task := by
        have behind := run_append_of_walk (walk_blanks limits blank (.inr ⟨term, phase⟩)) []
        rw [List.append_nil] at behind
        rw [written, State.first, leads blanks ends, behind, run_nil]
      have phaseThere : (last.forward blanks.length).phase = .operator term := phase
      refine .inl ⟨rfl, value, valued, evaluate_of_run_ok ?_ ?_⟩
      · rw [stop, State.settle, State.closeLiteral_of_operator limits.task phaseThere]
        exact State.answer_eq_ok_iff.2 ⟨term, phaseThere, by rw [lastEq]; rfl, total⟩
      · rw [stop, State.settle, written, lastEq]
        simp

/-- **Exactly the expressions are evaluated.**  A text evaluates to a number if and only if it is
written as an expression of the grammar, with blanks between its tokens, whose literals and
groups keep to the limits and whose value is that number.  The numbers of the expression are the
longest runs of digits. -/
theorem evaluate_eq_ok_iff_exists_phrase (text : String) (limits : Limits) (value : Int)
    (shallow : limits.Shallow text.toList) :
    evaluate text limits = .ok value ↔
      ∃ (expression : Phrase .expression) (blanks : List Char),
        expression.Legal ∧ Phrase.AllBlank blanks ∧ text.toList = expression.text ++ blanks ∧
          Token.ofText text.toList = expression.tokens ∧
            expression.Fits limits 0 ∧ expression.value? = some value := by
  constructor
  · intro evaluated
    obtain ⟨expression, blanks, means, blank, written⟩ := exists_phrase_of_evaluate evaluated
    have tokens := expression.ofText_text_append means.legal (endsLiteral_of_allBlank blank)
    have noTokens := Token.ofText_blanks_append blank []
    rw [List.append_nil, Token.ofText_nil] at noTokens
    rw [noTokens, List.append_nil, ← written] at tokens
    exact ⟨expression, blanks, means.legal, blank, written, tokens, means.fits, means.valued⟩
  · rintro ⟨expression, blanks, legal, blank, written, _, fits, valued⟩
    have none : expression.zeroDivisors 0 = [] := expression.zeroDivisors_eq_nil_of_value? valued 0
    rcases evaluate_of_phrase legal fits blank written shallow with
      ⟨_, found, foundToo, evaluated⟩ | ⟨divisor, others, some, _⟩
    · rw [valued] at foundToo
      cases foundToo
      exact evaluated
    · rw [none] at some
      cases some

/-- A text that is shallow without a limit on depth, with digits of two scripts. -/
theorem exists_phrase_mixed_scripts :
    Limits.Shallow { digits := 2, depth := 0 } "( 2+٣)*12".toList ∧
      ∃ (expression : Phrase .expression) (blanks : List Char),
        expression.Legal ∧ Phrase.AllBlank blanks ∧
          "( 2+٣)*12".toList = expression.text ++ blanks ∧
            Token.ofText "( 2+٣)*12".toList = expression.tokens ∧
              expression.Fits { digits := 2, depth := 0 } 0 ∧
                expression.value? = some 60 := by
  have shallow : Limits.Shallow { digits := 2, depth := 0 } "( 2+٣)*12".toList := by
    refine .inr fun head start => ?_
    have opened : head.count '(' ≤ "( 2+٣)*12".toList.count '(' := start.sublist.count_le '('
    have one : "( 2+٣)*12".toList.count '(' = 1 := by decide
    omega
  exact ⟨shallow, (evaluate_eq_ok_iff_exists_phrase _ _ 60 shallow).1 (by rfl)⟩

end Abacus
