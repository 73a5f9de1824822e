/-
Module: Abacus.Proofs.Move
Purpose: Everything that one character can do to a state of the machine.
Main exports: Move, step_eq_some_iff, closeLiteral_eq_self, openGroup_cases, digit_of_move
-/
import Abacus.Machine.Walk

namespace Abacus

/-!
Two facts carry all proofs about single characters.  The classes of characters that the machine
tells apart are disjoint: blanks, digits, parentheses and operators.  And a literal is complete
as soon as a character follows that is no digit: from there on the machine behaves as if the
literal had been closed before.
-/

/-! ### Classes of characters -/

theorem isDigit_eq_false_iff {c : Char} :
    Text.isDigit c = false ↔ Text.digitValue? c = none := by
  simp [Text.isDigit]

/-- A blank is not a digit. -/
theorem digitValue?_of_isBlank {c : Char} (blank : Text.isBlank c = true) :
    Text.digitValue? c = none := by
  rw [← isDigit_eq_false_iff, Text.isDigit_eq_covers]
  exact Text.CodeRange.not_covers_of_apart (by decide) blank

/-- A digit is not a blank. -/
theorem isBlank_of_digitValue? {c : Char} {d : Nat} (digit : Text.digitValue? c = some d) :
    Text.isBlank c = false := by
  cases blank : Text.isBlank c with
  | false => rfl
  | true =>
      rw [digitValue?_of_isBlank blank] at digit
      cases digit

/-- A symbol of the language that is written with a single character: neither a blank nor a
digit. -/
def Plain (c : Char) : Prop :=
  Text.isBlank c = false ∧ Text.digitValue? c = none

theorem Plain.ne_of_isBlank {symbol c : Char} (plain : Plain symbol)
    (blank : Text.isBlank c = true) : c ≠ symbol := by
  rintro rfl
  cases plain.1.symm.trans blank

theorem Plain.ne_of_digitValue? {symbol c : Char} {d : Nat} (plain : Plain symbol)
    (digit : Text.digitValue? c = some d) : c ≠ symbol := by
  rintro rfl
  cases plain.2.symm.trans digit

theorem plain_opening : Plain '(' := by
  constructor <;> decide

theorem plain_closing : Plain ')' := by
  constructor <;> decide

theorem SumOp.plain_symbol (op : SumOp) : Plain op.symbol := by
  cases op <;> constructor <;> decide

theorem ProductOp.plain_symbol (op : ProductOp) : Plain op.symbol := by
  cases op <;> constructor <;> decide

theorem ProductOp.ofChar?_sumSymbol (op : SumOp) : ProductOp.ofChar? op.symbol = none := by
  cases op <;> rfl

namespace State

variable {task : Task} {state next : State}

@[simp] theorem phase_advance : state.advance.phase = state.phase := rfl

/-! ### Complete literals -/

/-- Only literals are closed. -/
theorem closeLiteral_eq_self
    (other : ∀ start count value, state.phase ≠ .literal start count value) :
    state.closeLiteral task = state := by
  unfold closeLiteral
  split
  · rename_i literal
    exact absurd literal (other _ _ _)
  · rfl

/-- After a whole factor there is no literal to close. -/
theorem closeLiteral_of_operator (task : Task) {term : Int} (phase : state.phase = .operator term) :
    state.closeLiteral task = state :=
  closeLiteral_eq_self (by simp [phase])

theorem factorRead_of_some {start : Nat} {factor value : Int}
    (multiplied : state.level.multiply? factor = some value) :
    state.factorRead start factor =
      { state with phase := .operator value, level := { state.level with product := none } } := by
  rw [factorRead, multiplied]

theorem factorRead_of_none {start : Nat} {factor : Int}
    (undefined : state.level.multiply? factor = none) :
    state.factorRead start factor =
      { state with phase := .failed (.fault .zeroDivisor start) } := by
  rw [factorRead, undefined]

theorem closeLiteral_of_accepted {start count value : Nat}
    (literal : state.phase = .literal start count value)
    (accepted : literalRefusal? task.limits count = none) :
    state.closeLiteral task = state.factorRead start value := by
  rw [closeLiteral, literal]
  dsimp only
  rw [accepted]

theorem closeLiteral_of_refused {start count value : Nat} {cause : Cause}
    (literal : state.phase = .literal start count value)
    (refused : literalRefusal? task.limits count = some cause) :
    state.closeLiteral task = { state with phase := .failed (.fault cause start) } := by
  rw [closeLiteral, literal]
  dsimp only
  rw [refused]

/-- A state in which a literal has been closed is behind a whole factor, or has failed. -/
theorem phase_closeLiteral (task : Task) {start count value : Nat}
    (literal : state.phase = .literal start count value) :
    (∃ cause, (state.closeLiteral task).phase = .failed (.fault cause start)) ∨
      ∃ term, (state.closeLiteral task).phase = .operator term := by
  cases refusal : literalRefusal? task.limits count with
  | some cause =>
      rw [closeLiteral_of_refused literal refusal]
      exact .inl ⟨cause, rfl⟩
  | none =>
      rw [closeLiteral_of_accepted literal refusal]
      cases multiplied : state.level.multiply? value with
      | none =>
          rw [factorRead_of_none multiplied]
          exact .inl ⟨_, rfl⟩
      | some term =>
          rw [factorRead_of_some multiplied]
          exact .inr ⟨term, rfl⟩

/-- Closing leaves no literal behind. -/
theorem closeLiteral_ne_literal (start count value : Nat) :
    (state.closeLiteral task).phase ≠ .literal start count value := by
  intro left
  cases phase : state.phase with
  | literal start count value =>
      obtain ⟨cause, closed⟩ | ⟨term, closed⟩ := phase_closeLiteral task phase
      · rw [closed] at left
        cases left
      · rw [closed] at left
        cases left
  | operand | operator | failed =>
      rw [closeLiteral_eq_self (by simp [phase]), phase] at left
      cases left

/-- There is nothing to close twice. -/
theorem closeLiteral_closeLiteral :
    (state.closeLiteral task).closeLiteral task = state.closeLiteral task :=
  closeLiteral_eq_self closeLiteral_ne_literal

/-- A character that is no digit does to a literal what it does once the literal is closed. -/
theorem step_closeLiteral {c : Char} (other : Text.digitValue? c = none) :
    (state.closeLiteral task).step task c = state.step task c := by
  cases phase : state.phase with
  | literal start count value =>
      obtain ⟨cause, closed⟩ | ⟨term, closed⟩ := phase_closeLiteral task phase
      · simp only [step, phase, other, closed]
      · simp only [step, phase, other, closed]
  | operand | operator | failed =>
      rw [closeLiteral_eq_self (by simp [phase])]

/-- Nor does closing a literal change what a run comes to. -/
theorem settle_closeLiteral : (state.closeLiteral task).settle task = state.settle task := by
  simp only [settle, closeLiteral_closeLiteral, position_closeLiteral, depth,
    groups_closeLiteral]

/-! ### Opening a group -/

/-- The state behind an opening parenthesis, if the group may be opened. -/
def inside (state : State) : State :=
  { position := state.position + 1
    groups := { outer := state.level, opening := state.position } :: state.groups }

theorem openGroup_of_fits
    (within : Limits.exceeded task.limits.depth (state.depth task + 1) = false)
    (fits : state.groups.length < room) : state.openGroup task = state.inside := by
  have deeper : state.inside.depth task = state.depth task + 1 := rfl
  simp only [inside] at deeper
  have fits' : ¬ room < state.groups.length + 1 := by omega
  simp [openGroup, deeper, within, fits', inside]

/-- A group is refused by the limit, refused for lack of room, or opened. -/
theorem openGroup_cases (task : Task) (state : State) :
    (Limits.exceeded task.limits.depth (state.depth task + 1) = true ∧
        (state.openGroup task).phase =
          .failed (.fault (.nestedTooDeep task.limits.depth) state.position)) ∨
      (state.openGroup task).phase = .failed .exhausted ∨
      (Limits.exceeded task.limits.depth (state.depth task + 1) = false ∧
        state.openGroup task = state.inside) := by
  have deeper : state.inside.depth task = state.depth task + 1 := rfl
  simp only [inside] at deeper
  cases exceeded : Limits.exceeded task.limits.depth (state.depth task + 1) with
  | true => simp [openGroup, deeper, exceeded]
  | false =>
      by_cases full : room < state.groups.length + 1
      · simp [openGroup, deeper, exceeded, full]
      · simp [openGroup, deeper, exceeded, full, inside]

theorem groups_openGroup :
    (state.openGroup task).groups =
      { outer := state.level, opening := state.position } :: state.groups := by
  unfold openGroup
  dsimp only
  split
  · rfl
  · split <;> rfl

@[simp] theorem allows_closeLiteral (offered : Bool) :
    (state.closeLiteral task).allows offered = state.allows offered := by
  simp [allows]

theorem allows_of_cons {group : Group} {groups : List Group}
    (opened : state.groups = group :: groups) (offered : Bool) :
    state.allows offered = true := by
  simp [allows, opened]

end State

/-! ### Moves -/

/-- What one character can do to a state.  After a whole factor, and after a literal, which is
then closed, `value` is that of the term so far. -/
inductive Move (task : Task) (state : State) : Char → State → Prop where
  /-- A blank where a factor must start. -/
  | blankBefore {c : Char} (phase : state.phase = .operand) (blank : Text.isBlank c = true) :
      Move task state c state.advance
  /-- The first digit of a literal. -/
  | firstDigit {c : Char} {d : Nat} (phase : state.phase = .operand)
      (digit : Text.digitValue? c = some d) :
      Move task state c { state.advance with phase := .literal state.position 1 d }
  /-- A parenthesis where a factor must start. -/
  | opening (phase : state.phase = .operand) (allowed : state.allows task.rule.opens = true) :
      Move task state '(' (state.openGroup task)
  /-- Another digit of a literal. -/
  | nextDigit {c : Char} {start count value d : Nat}
      (phase : state.phase = .literal start count value) (digit : Text.digitValue? c = some d) :
      Move task state c
        { state.advance with phase := .literal start (count + 1) (10 * value + d) }
  /-- A blank after a whole factor. -/
  | blankAfter {c : Char} {value : Int}
      (phase : (state.closeLiteral task).phase = .operator value)
      (allowed : state.allows task.rule.multiplies = true) (blank : Text.isBlank c = true) :
      Move task state c (state.closeLiteral task).advance
  /-- An operator that joins factors. -/
  | product {value : Int} (op : ProductOp)
      (phase : (state.closeLiteral task).phase = .operator value)
      (allowed : state.allows task.rule.multiplies = true) :
      Move task state op.symbol
        { (state.closeLiteral task).advance with
          phase := .operand
          level := { (state.closeLiteral task).level with product := some (value, op) } }
  /-- An operator that joins terms. -/
  | sum {value : Int} (op : SumOp)
      (phase : (state.closeLiteral task).phase = .operator value)
      (allowed : state.allows task.rule.adds = true) :
      Move task state op.symbol
        { (state.closeLiteral task).advance with
          phase := .operand
          level := { sum := some ((state.closeLiteral task).level.total value, op) } }
  /-- The parenthesis that closes the innermost group. -/
  | closing {value : Int} {group : Group} {groups : List Group}
      (phase : (state.closeLiteral task).phase = .operator value)
      (opened : state.groups = group :: groups) :
      Move task state ')'
        ({ (state.closeLiteral task).advance with
            level := group.outer
            groups := groups }.factorRead
          group.opening ((state.closeLiteral task).level.total value))

section Moves

variable {task : Task} {state next : State} {c : Char}

theorem move_of_stepOperand (phase : state.phase = .operand)
    (stepped : state.stepOperand task c = some next) : Move task state c next := by
  unfold State.stepOperand at stepped
  split at stepped
  · rename_i blank
    cases stepped
    exact .blankBefore phase blank
  · split at stepped
    · rename_i digit
      cases stepped
      exact .firstDigit phase digit
    · split at stepped
      · rename_i opens
        obtain ⟨rfl, allowed⟩ := opens
        cases stepped
        exact .opening phase allowed
      · cases stepped

theorem move_of_stepOperator {value : Int}
    (phase : (state.closeLiteral task).phase = .operator value)
    (stepped : (state.closeLiteral task).stepOperator task value c = some next) :
    Move task state c next := by
  unfold State.stepOperator at stepped
  simp only [State.allows_closeLiteral] at stepped
  split at stepped
  · cases stepped
  · rename_i multiplies
    have multiplies : state.allows task.rule.multiplies = true := by simpa using multiplies
    split at stepped
    · rename_i blank
      cases stepped
      exact .blankAfter phase multiplies blank
    · split at stepped
      · rename_i op written
        cases stepped
        obtain rfl := ProductOp.ofChar?_eq_some_iff.1 written
        exact .product op phase multiplies
      · rename_i op _ written
        split at stepped
        · rename_i adds
          cases stepped
          obtain rfl := SumOp.ofChar?_eq_some_iff.1 written
          exact .sum op phase adds
        · cases stepped
      · split at stepped
        · cases stepped
        · rename_i group groups opened
          rw [State.groups_closeLiteral] at opened
          split at stepped
          · rename_i closes
            cases stepped
            cases closes
            exact .closing phase opened
          · cases stepped

theorem move_of_step (stepped : state.step task c = some next) : Move task state c next := by
  cases phase : state.phase with
  | operand =>
      rw [State.step, phase] at stepped
      exact move_of_stepOperand phase stepped
  | operator value =>
      have closed := State.closeLiteral_of_operator task phase
      rw [State.step, phase] at stepped
      rw [← closed] at phase stepped
      exact move_of_stepOperator phase stepped
  | failed failure =>
      rw [State.step, phase] at stepped
      cases stepped
  | literal start count value =>
      cases digit : Text.digitValue? c with
      | some d =>
          simp only [State.step, phase, digit] at stepped
          cases stepped
          exact .nextDigit phase digit
      | none =>
          simp only [State.step, phase, digit] at stepped
          split at stepped
          · rename_i closed
            exact move_of_stepOperator closed stepped
          · cases stepped

theorem step_of_operator {value : Int}
    (phase : (state.closeLiteral task).phase = .operator value)
    (other : Text.digitValue? c = none) :
    state.step task c = (state.closeLiteral task).stepOperator task value c := by
  rw [← State.step_closeLiteral other, State.step, phase]

theorem step_of_move (move : Move task state c next) : state.step task c = some next := by
  cases move with
  | blankBefore phase blank => simp [State.step, State.stepOperand, phase, blank]
  | firstDigit phase digit =>
      have notBlank := isBlank_of_digitValue? digit
      simp [State.step, State.stepOperand, phase, notBlank, digit]
  | opening phase allowed =>
      obtain ⟨notBlank, notDigit⟩ := plain_opening
      simp [State.step, State.stepOperand, phase, notBlank, notDigit, allowed]
  | nextDigit phase digit => simp [State.step, phase, digit]
  | blankAfter phase allowed blank =>
      rw [step_of_operator phase (digitValue?_of_isBlank blank)]
      simp [State.stepOperator, allowed, blank]
  | product op phase allowed =>
      obtain ⟨notBlank, notDigit⟩ := op.plain_symbol
      rw [step_of_operator phase notDigit]
      simp [State.stepOperator, allowed, notBlank, ProductOp.ofChar?_symbol]
  | sum op phase allowed =>
      obtain ⟨notBlank, notDigit⟩ := op.plain_symbol
      have multiplies : state.allows task.rule.multiplies = true := by
        cases rule : task.rule <;> simp_all [State.allows, Rule.adds, Rule.multiplies]
      rw [step_of_operator phase notDigit]
      simp [State.stepOperator, allowed, multiplies, notBlank, SumOp.ofChar?_symbol,
        ProductOp.ofChar?_sumSymbol]
  | closing phase opened =>
      obtain ⟨notBlank, notDigit⟩ := plain_closing
      have multiplies := State.allows_of_cons opened task.rule.multiplies
      rw [step_of_operator phase notDigit]
      simp [State.stepOperator, multiplies, notBlank, opened, ProductOp.ofChar?, SumOp.ofChar?]

/-- The moves are exactly the steps. -/
theorem step_eq_some_iff : state.step task c = some next ↔ Move task state c next :=
  ⟨move_of_step, step_of_move⟩

/-! ### Digits -/

/-- No literal is left to close behind a factor. -/
theorem closeLiteral_factorRead (task : Task) (state : State) (start : Nat) (factor : Int) :
    (state.factorRead start factor).closeLiteral task = state.factorRead start factor := by
  cases multiplied : state.level.multiply? factor with
  | none =>
      rw [State.factorRead_of_none multiplied]
      exact State.closeLiteral_eq_self (by simp)
  | some value =>
      rw [State.factorRead_of_some multiplied]
      exact State.closeLiteral_eq_self (by simp)

/-- A digit starts a literal or prolongs one. -/
theorem digit_of_move {d : Nat} (digit : Text.digitValue? c = some d)
    (move : Move task state c next) :
    (state.phase = .operand ∧
        next = { state.advance with phase := .literal state.position 1 d }) ∨
      ∃ start count value, state.phase = .literal start count value ∧
        next = { state.advance with phase := .literal start (count + 1) (10 * value + d) } := by
  have notBlank := isBlank_of_digitValue? digit
  cases move with
  | firstDigit phase digitToo =>
      cases digit.symm.trans digitToo
      exact .inl ⟨phase, rfl⟩
  | nextDigit phase digitToo =>
      cases digit.symm.trans digitToo
      exact .inr ⟨_, _, _, phase, rfl⟩
  | blankBefore phase blank => cases notBlank.symm.trans blank
  | blankAfter phase allowed blank => cases notBlank.symm.trans blank
  | opening phase allowed => exact absurd rfl (plain_opening.ne_of_digitValue? digit)
  | product op phase allowed => exact absurd rfl (op.plain_symbol.ne_of_digitValue? digit)
  | sum op phase allowed => exact absurd rfl (op.plain_symbol.ne_of_digitValue? digit)
  | closing phase opened => exact absurd rfl (plain_closing.ne_of_digitValue? digit)

/-- Behind a whole factor there is no place for a digit. -/
theorem step_digit_of_operator {term : Int} {d : Nat} (phase : state.phase = .operator term)
    (digit : Text.digitValue? c = some d) : state.step task c = none := by
  cases stepped : state.step task c with
  | none => rfl
  | some next =>
      rcases digit_of_move digit (move_of_step stepped) with
        ⟨operand, _⟩ | ⟨start, count, value, literal, _⟩
      · cases phase.symm.trans operand
      · cases phase.symm.trans literal

/-- Only digits make a literal. -/
theorem phase_ne_literal_of_step (notDigit : Text.digitValue? c = none)
    (stepped : state.step task c = some next) (start count value : Nat) :
    next.phase ≠ .literal start count value := by
  intro literal
  cases move_of_step stepped with
  | firstDigit phase digit => cases notDigit.symm.trans digit
  | nextDigit phase digit => cases notDigit.symm.trans digit
  | blankBefore phase blank =>
      rw [State.phase_advance, phase] at literal
      cases literal
  | blankAfter phase allowed blank =>
      rw [State.phase_advance, phase] at literal
      cases literal
  | product op phase allowed => cases literal
  | sum op phase allowed => cases literal
  | opening phase allowed =>
      rcases State.openGroup_cases task state with ⟨_, refused⟩ | full | ⟨_, inside⟩
      · rw [refused] at literal
        cases literal
      · rw [full] at literal
        cases literal
      · rw [inside] at literal
        cases literal
  | closing phase opened =>
      rw [← closeLiteral_factorRead task] at literal
      exact State.closeLiteral_ne_literal _ _ _ literal

end Moves

end Abacus
