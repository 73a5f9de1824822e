/-
Module: Abacus.Proofs.Addition
Purpose: A text behind a sum is evaluated as it is on its own, and its value added.
Main exports: State.behind, step_behind, walk_behind, verdict_behind, evaluate_append_plus
-/
import Abacus.Proofs.Simulation

namespace Abacus

/-!
Behind a text with a value and a plus sign, the machine is in its first state again, but for two
things: it stands further on, and the outermost level has a sum that waits.  Neither is ever looked
at.  So the map that puts a sum in front of a state commutes with each step, with what is refused as
well, and the answers differ by that map alone.
-/

/-! ### A sum in front -/

/-- The same failure, further on in the text. -/
def Failure.behind (offset : Nat) : Failure → Failure
  | fault cause position => fault cause (offset + position)
  | exhausted => exhausted

/-- The same phase, further on in the text. -/
def Phase.behind (offset : Nat) : Phase → Phase
  | operand => operand
  | literal start count value => literal (offset + start) count value
  | operator value => operator value
  | failed failure => failed (failure.behind offset)

/-- The same level with more to its left. -/
def Level.behind (added : Int) (level : Level) : Level :=
  { level with
    sum := match level.sum with
      | none => some (added, .add)
      | some (left, op) => some (added + left, op) }

/-- The same level inside the same groups.  Only the outermost one has more to its left. -/
def Level.behindIn (added : Int) (groups : List Group) (level : Level) : Level :=
  if groups.isEmpty then level.behind added else level

/-- The same groups, further on in the text and with more to their left. -/
def groupsBehind (offset : Nat) (added : Int) : List Group → List Group
  | [] => []
  | group :: groups =>
      { outer := group.outer.behindIn added groups, opening := offset + group.opening } ::
        groupsBehind offset added groups

/-- The same state, further on in the text and with more to its left. -/
def State.behind (offset : Nat) (added : Int) (state : State) : State where
  position := offset + state.position
  phase := state.phase.behind offset
  level := state.level.behindIn added state.groups
  groups := groupsBehind offset added state.groups

/-- The same answer about a text further on, its value added. -/
def resultBehind (offset : Nat) (added : Int) : Except Failure Int → Except Failure Int
  | .ok value => .ok (added + value)
  | .error failure => .error (failure.behind offset)

section Levels

variable {offset : Nat} {added : Int}

/-- A waiting sum is added to the total. -/
theorem Level.total_behind (level : Level) (term : Int) :
    (level.behind added).total term = added + level.total term := by
  cases waiting : level.sum with
  | none => simp only [total, behind, waiting, SumOp.join]
  | some sum =>
      obtain ⟨left, op⟩ := sum
      cases op with
      | add =>
          simp only [total, behind, waiting, SumOp.join]
          omega
      | subtract =>
          simp only [total, behind, waiting, SumOp.join]
          omega

theorem Level.behindIn_nil (level : Level) : level.behindIn added [] = level.behind added := rfl

theorem Level.behindIn_cons (level : Level) (group : Group) (groups : List Group) :
    level.behindIn added (group :: groups) = level := rfl

@[simp] theorem Level.product_behindIn (level : Level) (groups : List Group) :
    (level.behindIn added groups).product = level.product := by
  cases groups <;> rfl

/-- What replaces the product of a level leaves the waiting sum alone. -/
theorem Level.behindIn_product (level : Level) (groups : List Group)
    (product : Option (Int × ProductOp)) :
    { level.behindIn added groups with product := product } =
      ({ level with product := product } : Level).behindIn added groups := by
  cases groups <;> rfl

@[simp] theorem Level.multiply?_behindIn (level : Level) (groups : List Group) (factor : Int) :
    (level.behindIn added groups).multiply? factor = level.multiply? factor := by
  rw [multiply?, multiply?, product_behindIn]

/-- The sum that an operator leaves waiting. -/
theorem Level.behindIn_sum (level : Level) (groups : List Group) (term : Int) (op : SumOp) :
    ({ sum := some ((level.behindIn added groups).total term, op) } : Level) =
      ({ sum := some (level.total term, op) } : Level).behindIn added groups := by
  cases groups with
  | nil =>
      rw [behindIn_nil, behindIn_nil, total_behind]
      rfl
  | cons group groups => rfl

@[simp] theorem length_groupsBehind (groups : List Group) :
    (groupsBehind offset added groups).length = groups.length := by
  induction groups with
  | nil => rfl
  | cons group groups ih => rw [groupsBehind, List.length_cons, ih, List.length_cons]

@[simp] theorem isEmpty_groupsBehind (groups : List Group) :
    (groupsBehind offset added groups).isEmpty = groups.isEmpty := by
  cases groups <;> rfl

end Levels

/-! ### The machine behind a sum -/

namespace State

variable {task : Task} {offset : Nat} {added : Int}

@[simp] theorem allows_behind (state : State) (offered : Bool) :
    (state.behind offset added).allows offered = state.allows offered := by
  simp [allows, behind]

theorem factorRead_behind (state : State) (start : Nat) (factor : Int) :
    (state.behind offset added).factorRead (offset + start) factor =
      (state.factorRead start factor).behind offset added := by
  have same : (state.behind offset added).level.multiply? factor =
      state.level.multiply? factor := Level.multiply?_behindIn _ _ _
  cases multiplied : state.level.multiply? factor with
  | none =>
      rw [factorRead_of_none multiplied, factorRead_of_none (same.trans multiplied)]
      rfl
  | some value =>
      rw [factorRead_of_some multiplied, factorRead_of_some (same.trans multiplied)]
      simp only [behind, Phase.behind, Level.behindIn_product]

theorem closeLiteral_behind (state : State) :
    (state.behind offset added).closeLiteral task =
      (state.closeLiteral task).behind offset added := by
  have phaseThere : (state.behind offset added).phase = state.phase.behind offset := rfl
  cases phase : state.phase with
  | operand | operator | failed =>
      rw [phase] at phaseThere
      rw [closeLiteral_eq_self (by simp [phaseThere, Phase.behind]),
        closeLiteral_eq_self (by simp [phase])]
  | literal start count value =>
      rw [phase] at phaseThere
      cases refusal : literalRefusal? task.limits count with
      | none =>
          rw [closeLiteral_of_accepted phase refusal, closeLiteral_of_accepted phaseThere refusal,
            factorRead_behind]
      | some cause =>
          rw [closeLiteral_of_refused phase refusal, closeLiteral_of_refused phaseThere refusal]
          rfl

theorem openGroup_behind (state : State) :
    (state.behind offset added).openGroup task = (state.openGroup task).behind offset added := by
  have count : (groupsBehind offset added state.groups).length = state.groups.length :=
    length_groupsBehind state.groups
  simp only [openGroup, depth, behind, List.length_cons, count]
  split
  · rfl
  · split
    · rfl
    · rfl

theorem stepOperand_behind (state : State) (c : Char) :
    (state.behind offset added).stepOperand task c =
      (state.stepOperand task c).map (behind offset added) := by
  unfold stepOperand
  rw [allows_behind, openGroup_behind]
  split
  · rfl
  · split
    · rfl
    · split
      · rfl
      · rfl

/-- The parenthesis that closes a group leads back to the level around it. -/
theorem leave_behind {state : State} {group : Group} {groups : List Group} (value : Int)
    (opened : state.groups = group :: groups) :
    ({ (state.behind offset added).advance with
        level := group.outer.behindIn added groups
        groups := groupsBehind offset added groups } : State).factorRead (offset + group.opening)
        ((state.behind offset added).level.total value) =
      (({ state.advance with level := group.outer, groups := groups } : State).factorRead
        group.opening (state.level.total value)).behind offset added := by
  have level : (state.behind offset added).level = state.level := by
    rw [behind, opened, Level.behindIn_cons]
  rw [level, ← factorRead_behind]
  rfl

theorem stepOperator_behind (state : State) (value : Int) (c : Char) :
    (state.behind offset added).stepOperator task value c =
      (state.stepOperator task value c).map (behind offset added) := by
  unfold stepOperator
  simp only [allows_behind]
  split
  · rfl
  · split
    · rfl
    · split
      · simp only [Option.map_some, behind, advance, Phase.behind, Level.behindIn_product,
          Nat.add_assoc]
      · split
        · simp only [Option.map_some, behind, advance, Phase.behind, Level.behindIn_sum,
            Nat.add_assoc]
        · rfl
      · cases opened : state.groups with
        | nil =>
            have openedThere : (state.behind offset added).groups = [] := by
              rw [behind, opened, groupsBehind]
            rw [openedThere]
            rfl
        | cons group groups =>
            have openedThere : (state.behind offset added).groups =
                { outer := group.outer.behindIn added groups
                  opening := offset + group.opening } :: groupsBehind offset added groups := by
              rw [behind, opened, groupsBehind]
            rw [openedThere]
            dsimp only
            split
            · rw [leave_behind value opened]
              rfl
            · rfl

/-- What is written further on behind a sum is accepted, and refused, as it is on its own. -/
theorem step_behind (state : State) (c : Char) :
    (state.behind offset added).step task c = (state.step task c).map (behind offset added) := by
  have phaseThere : (state.behind offset added).phase = state.phase.behind offset := rfl
  cases phase : state.phase with
  | operand =>
      rw [phase] at phaseThere
      simp only [step, phase, phaseThere, Phase.behind]
      exact stepOperand_behind state c
  | operator value =>
      rw [phase] at phaseThere
      simp only [step, phase, phaseThere, Phase.behind]
      exact stepOperator_behind state value c
  | failed failure =>
      rw [phase] at phaseThere
      simp only [step, phase, phaseThere, Phase.behind]
      rfl
  | literal start count value =>
      rw [phase] at phaseThere
      simp only [step, phase, phaseThere, Phase.behind, closeLiteral_behind]
      cases Text.digitValue? c with
      | some d => rfl
      | none =>
          dsimp only
          have closedThere : ((state.closeLiteral task).behind offset added).phase =
              (state.closeLiteral task).phase.behind offset := rfl
          rw [closedThere]
          cases (state.closeLiteral task).phase with
          | operator value => exact stepOperator_behind (state.closeLiteral task) value c
          | operand | literal | failed => rfl

theorem walk_behind (state : State) (cs : List Char) :
    (state.behind offset added).walk task cs = (state.walk task cs).map (behind offset added) := by
  induction cs generalizing state with
  | nil => rfl
  | cons c cs ih =>
      rw [walk, walk, step_behind]
      cases state.step task c with
      | none => rfl
      | some next => exact ih next

theorem answer_behind (state : State) :
    (state.behind offset added).answer = resultBehind offset added state.answer := by
  have phaseThere : (state.behind offset added).phase = state.phase.behind offset := rfl
  cases phase : state.phase with
  | operand | literal | failed =>
      rw [phase] at phaseThere
      simp only [answer, phase, phaseThere, Phase.behind]
      rfl
  | operator value =>
      rw [phase] at phaseThere
      simp only [answer, phase, phaseThere, Phase.behind]
      cases opened : state.groups with
      | nil =>
          simp [behind, opened, groupsBehind, Level.behindIn_nil, Level.total_behind, resultBehind]
      | cons group groups =>
          simp [behind, opened, groupsBehind, resultBehind, Failure.behind]

/-- The text that is left is quoted as it stands. -/
theorem verdict_behind {limits : Limits} (state : State) (left : List Char) :
    (state.behind offset added).verdict limits left =
      resultBehind offset added (state.verdict limits left) := by
  rw [verdict, verdict, closeLiteral_behind, answer_behind]
  cases (state.closeLiteral limits.task).answer with
  | error failure => rfl
  | ok value =>
      simp only [resultBehind]
      split
      · rfl
      · rfl

end State

/-! ### Whole texts -/

/-- Behind a text with a value and a plus sign, the evaluation starts anew with that value in
front. -/
theorem walk_plus {limits : Limits} {text : String} {value : Int}
    (evaluated : evaluate text limits = .ok value) :
    State.first.walk limits.task (text.toList ++ ['+']) =
      some (State.first.behind (text.toList.length + 1) value) := by
  obtain ⟨last, term, walked, phase, none, total⟩ := exists_walk_of_evaluate evaluated 0
  have walked : State.first.walk limits.task text.toList = some last := walked
  have position : last.position = text.toList.length := State.position_walk_first walked
  have stepped := step_of_move (.sum .add phase (last.allows_adds_task limits))
  rw [total] at stepped
  rw [State.walk_append, walked, Option.bind_some, State.walk, ← SumOp.symbol, stepped]
  simp [State.walk, State.behind, State.first, State.advance, position, none, Phase.behind,
    groupsBehind, Level.behindIn_nil, Level.behind]

/-- **Texts with a value can be put in front.**  Where a text has a value, joining any other text to
it with a plus sign adds the value to that of the other text, without any parentheses.  If the other
text fails, the whole fails for the same cause, in the same words, and the fault stands where it
stood, moved by the text in front. -/
theorem evaluate_append_plus (text other : String) (limits : Limits) (value : Int)
    (evaluated : evaluate text limits = .ok value) :
    evaluate (text ++ "+" ++ other) limits =
      match evaluate other limits with
      | .ok valueToo => .ok (value + valueToo)
      | .error (.fault cause position) =>
          .error (.fault cause (text.toList.length + 1 + position))
      | .error .exhausted => .error .exhausted := by
  obtain ⟨taken, left, last, halts⟩ := exists_halts limits other.toList
  have haltsThere : Halts limits (text ++ "+" ++ other).toList (text.toList ++ ['+'] ++ taken) left
      (last.behind (text.toList.length + 1) value) := by
    refine ⟨?_, ?_, ?_⟩
    · have plus : "+".toList = ['+'] := rfl
      rw [String.toList_append, String.toList_append, halts.split, plus, List.append_assoc _ taken]
    · rw [State.walk_append, walk_plus evaluated, Option.bind_some, State.walk_behind,
        halts.walked, Option.map_some]
    · intro c head
      rw [State.step_behind, halts.refused c head, Option.map_none]
  rw [evaluate_eq_verdict haltsThere, evaluate_eq_verdict halts, State.verdict_behind]
  cases last.verdict limits left with
  | ok valueToo => rfl
  | error failure =>
      cases failure with
      | fault cause position => rfl
      | exhausted => rfl

/-- A difference stays together in front of a plus sign, and a zero divisor where it is. -/
theorem evaluate_append_plus_quotient :
    evaluate "2-3" = .ok (-1) ∧ evaluate "8/(1-1)x" = .error (.fault .zeroDivisor 2) ∧
      evaluate "2-3+8/(1-1)x" = .error (.fault .zeroDivisor 6) := by
  have evaluated : evaluate "2-3" = .ok (-1) := by rfl
  have failed : evaluate "8/(1-1)x" = .error (.fault .zeroDivisor 2) := by rfl
  refine ⟨evaluated, failed, ?_⟩
  have joined := evaluate_append_plus "2-3" "8/(1-1)x" {} (-1) evaluated
  rw [failed] at joined
  exact joined

end Abacus
