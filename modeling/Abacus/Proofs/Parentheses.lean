/-
Module: Abacus.Proofs.Parentheses
Purpose: How deep the parentheses of a text nest, and that a run has room for them.
Main exports: OpensAtMost, Limits.Shallow, height_le_room, groups_cases_of_move
-/
import Abacus.Phrase
import Abacus.Proofs.Move

namespace Abacus

/-!
A run holds at most `room` groups open.  Whether it needs more is a question about the text
alone, unless the limit on depth answers it first.
-/

/-- No prefix of the text leaves more than so many parentheses open. -/
def OpensAtMost (most : Nat) (text : List Char) : Prop :=
  ∀ head, head <+: text → head.count '(' ≤ head.count ')' + most

/-- The text keeps clear of the room for open groups: by the limit on depth, or because it opens
few groups at once. -/
def Limits.Shallow (limits : Limits) (text : List Char) : Prop :=
  (limits.depth ≠ 0 ∧ limits.depth ≤ 200) ∨ OpensAtMost 200 text

theorem count_of_allBlank {blanks : List Char} (blank : Phrase.AllBlank blanks) {c : Char}
    (plain : Plain c) : blanks.count c = 0 := by
  rw [List.count_eq_zero]
  intro mem
  have blankToo := blank c mem
  rw [plain.1] at blankToo
  cases blankToo

theorem count_of_allDigit {digits : List Char} (allDigits : ∀ c ∈ digits, Text.isDigit c = true)
    {c : Char} (plain : Plain c) : digits.count c = 0 := by
  rw [List.count_eq_zero]
  intro mem
  have digit := allDigits c mem
  rw [isDigit_eq_false_iff.2 plain.2] at digit
  cases digit

theorem SumOp.symbol_ne_parenthesis (op : SumOp) : op.symbol ≠ '(' ∧ op.symbol ≠ ')' := by
  cases op <;> decide

theorem ProductOp.symbol_ne_parenthesis (op : ProductOp) :
    op.symbol ≠ '(' ∧ op.symbol ≠ ')' := by
  cases op <;> decide

/-- Every parenthesis that the text opens is closed in it, and some prefix leaves `height` of
them open. -/
structure Balanced (cs : List Char) (height : Nat) : Prop where
  closed : cs.count ')' = cs.count '('
  opened : ∃ head, head <+: cs ∧ head.count '(' = head.count ')' + height

namespace Balanced

/-- A text without parentheses is balanced. -/
theorem of_none {cs : List Char} (opening : cs.count '(' = 0) (closing : cs.count ')' = 0) :
    Balanced cs 0 where
  closed := by rw [opening, closing]
  opened := ⟨[], List.nil_prefix, rfl⟩

theorem append {cs ds : List Char} {one two : Nat} (first : Balanced cs one)
    (second : Balanced ds two) : Balanced (cs ++ ds) (max one two) where
  closed := by rw [List.count_append, List.count_append, first.closed, second.closed]
  opened := by
    have closed := first.closed
    rcases Nat.le_total two one with higher | higher
    · obtain ⟨head, start, count⟩ := first.opened
      rw [Nat.max_eq_left higher]
      exact ⟨head, start.trans (List.prefix_append cs ds), count⟩
    · obtain ⟨head, start, count⟩ := second.opened
      rw [Nat.max_eq_right higher]
      refine ⟨cs ++ head, List.prefix_append_right_inj cs |>.2 start, ?_⟩
      rw [List.count_append, List.count_append, count]
      omega

/-- A group around the text is one higher. -/
theorem group {cs : List Char} {height : Nat} (inner : Balanced cs height) :
    Balanced ('(' :: (cs ++ [')'])) (height + 1) where
  closed := by simp [inner.closed]
  opened := by
    obtain ⟨head, start, count⟩ := inner.opened
    refine ⟨'(' :: head, ?_, ?_⟩
    · exact List.cons_prefix_cons.2 ⟨rfl, start.trans (List.prefix_append cs [')'])⟩
    · simp [count]
      omega

end Balanced

theorem balanced_of_allBlank {blanks : List Char} (blank : Phrase.AllBlank blanks) :
    Balanced blanks 0 :=
  .of_none (count_of_allBlank blank plain_opening) (count_of_allBlank blank plain_closing)

theorem balanced_of_allDigit {digits : List Char}
    (allDigits : ∀ c ∈ digits, Text.isDigit c = true) : Balanced digits 0 :=
  .of_none (count_of_allDigit allDigits plain_opening) (count_of_allDigit allDigits plain_closing)

theorem balanced_symbol {c : Char} (other : c ≠ '(' ∧ c ≠ ')') : Balanced [c] 0 :=
  .of_none (by simp [other.1]) (by simp [other.2])

/-- An operator between two texts makes them no higher. -/
theorem Balanced.joined {cs ds blanks : List Char} {c : Char} {one two : Nat}
    (first : Balanced cs one) (second : Balanced ds two) (blank : Phrase.AllBlank blanks)
    (other : c ≠ '(' ∧ c ≠ ')') : Balanced (cs ++ blanks ++ c :: ds) (max one two) := by
  have between := (balanced_of_allBlank blank).append (balanced_symbol other)
  simpa using first.append (between.append second)

namespace Phrase

/-- A phrase is balanced and as high as its groups nest. -/
theorem balanced {rule : Rule} (phrase : Phrase rule) (legal : phrase.Legal) :
    Balanced phrase.text phrase.height := by
  induction phrase with
  | number blanks digits =>
      obtain ⟨blank, _, allDigits⟩ := legal
      exact (balanced_of_allBlank blank).append (balanced_of_allDigit allDigits)
  | ofNumber inner ih => exact ih legal
  | group before body after ih =>
      obtain ⟨blankBefore, legalBody, blankAfter⟩ := legal
      have inside := ((ih legalBody).append (balanced_of_allBlank blankAfter)).group
      simpa [text, height] using (balanced_of_allBlank blankBefore).append inside
  | ofFactor inner ih => exact ih legal
  | product left blanks op right ihLeft ihRight =>
      obtain ⟨legalLeft, blank, legalRight⟩ := legal
      exact (ihLeft legalLeft).joined (ihRight legalRight) blank op.symbol_ne_parenthesis
  | ofTerm inner ih => exact ih legal
  | sum left blanks op right ihLeft ihRight =>
      obtain ⟨legalLeft, blank, legalRight⟩ := legal
      exact (ihLeft legalLeft).joined (ihRight legalRight) blank op.symbol_ne_parenthesis

/-- A phrase within a limit on depth is not higher than the limit. -/
theorem height_le_of_fits {limits : Limits} (limited : limits.depth ≠ 0) {rule : Rule}
    (phrase : Phrase rule) {depth : Nat} (fits : phrase.Fits limits depth) :
    phrase.height = 0 ∨ ((depth + phrase.height : Nat) : Int) ≤ limits.depth := by
  induction phrase generalizing depth with
  | number blanks digits => exact .inl rfl
  | ofNumber inner ih => exact ih fits
  | group before body after ih =>
      obtain ⟨within, fitsBody⟩ := fits
      have inner := ih fitsBody
      simp only [height]
      omega
  | ofFactor inner ih => exact ih fits
  | product left blanks op right ihLeft ihRight =>
      have leftLow := ihLeft fits.1
      have rightLow := ihRight fits.2
      simp only [height]
      omega
  | ofTerm inner ih => exact ih fits
  | sum left blanks op right ihLeft ihRight =>
      have leftLow := ihLeft fits.1
      have rightLow := ihRight fits.2
      simp only [height]
      omega

/-- There is room for every phrase of a shallow text. -/
theorem height_le_room {limits : Limits} {rule : Rule} (phrase : Phrase rule)
    (legal : phrase.Legal) (fits : phrase.Fits limits 0) {rest : List Char}
    (shallow : limits.Shallow (phrase.text ++ rest)) : phrase.height ≤ room := by
  rcases shallow with ⟨limited, low⟩ | opensFew
  · have fitting := height_le_of_fits limited phrase fits
    simp only [room]
    omega
  · obtain ⟨head, start, count⟩ := (phrase.balanced legal).opened
    have few := opensFew head (start.trans (List.prefix_append _ rest))
    simp only [room]
    omega

end Phrase

/-- Only parentheses open and close groups. -/
theorem groups_cases_of_move {task : Task} {state next : State} {c : Char}
    (move : Move task state c next) :
    (next.groups = state.groups ∧ c ≠ '(' ∧ c ≠ ')') ∨
      (c = '(' ∧ state.phase = .operand ∧ next = state.openGroup task) ∨
        (c = ')' ∧ ∃ closed, state.groups = closed :: next.groups) := by
  have closed : (state.closeLiteral task).groups = state.groups := by simp
  cases move with
  | blankBefore phase blank =>
      exact .inl ⟨rfl, plain_opening.ne_of_isBlank blank, plain_closing.ne_of_isBlank blank⟩
  | blankAfter phase allowed blank =>
      exact .inl ⟨closed, plain_opening.ne_of_isBlank blank, plain_closing.ne_of_isBlank blank⟩
  | firstDigit phase digit =>
      exact .inl ⟨rfl, plain_opening.ne_of_digitValue? digit,
        plain_closing.ne_of_digitValue? digit⟩
  | nextDigit phase digit =>
      exact .inl ⟨rfl, plain_opening.ne_of_digitValue? digit,
        plain_closing.ne_of_digitValue? digit⟩
  | product op phase allowed => exact .inl ⟨closed, op.symbol_ne_parenthesis⟩
  | sum op phase allowed => exact .inl ⟨closed, op.symbol_ne_parenthesis⟩
  | opening phase allowed => exact .inr (.inl ⟨rfl, phase, rfl⟩)
  | @closing value group groups phase opened =>
      refine .inr (.inr ⟨rfl, group, ?_⟩)
      rw [opened, State.groups_factorRead]

end Abacus
