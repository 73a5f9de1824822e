/-
Module: Abacus.Proofs.ViablePrefix
Purpose: What stands before the position of a fault can be completed to an expression.
Main exports: Completable, completable_of_operand, evaluate_viable_prefix
-/
import Abacus.Proofs.Locality

namespace Abacus

/-!
A state can be completed without looking at what its levels hold.  A factor that is still to come
is written as `1`, by which everything can be divided.  A group whose last factor is complete is
first brought to the total 1, by adding or subtracting ones, and then closed; as a factor it is
then a 1 as well, so no division around it fails.  No group is opened and every literal has one
digit, so no limit is in the way.
-/

/-- Some text leads from the state to a value. -/
def Completable (limits : Limits) (state : State) : Prop :=
  ∃ rest last value, state.walk limits.task rest = some last ∧
    (last.closeLiteral limits.task).answer = .ok value

section Completion

variable {limits : Limits} {state next : State}

theorem completable_of_walk {cs : List Char} (walked : state.walk limits.task cs = some next)
    (completable : Completable limits next) : Completable limits state := by
  obtain ⟨rest, last, value, onward, answered⟩ := completable
  refine ⟨cs ++ rest, last, value, ?_, answered⟩
  exact State.walk_trans walked onward

/-- Everything can be multiplied by one and divided by one. -/
theorem exists_multiply?_one (level : Level) : ∃ value, level.multiply? 1 = some value := by
  unfold Level.multiply?
  cases level.product with
  | none => exact ⟨1, rfl⟩
  | some pending =>
      obtain ⟨left, op⟩ := pending
      cases op with
      | multiply => exact ⟨left * 1, rfl⟩
      | divide => exact ⟨left.tdiv 1, divide?_of_ne_zero (by decide)⟩

/-- A single digit is within every limit that is not negative. -/
theorem literalRefusal?_one (unsigned : 0 ≤ limits.digits) :
    State.literalRefusal? limits 1 = none := by
  have within : Limits.exceeded limits.digits 1 = false :=
    Limits.exceeded_eq_false_iff.2 (by omega)
  simp [State.literalRefusal?, within, Numeral.capacity]

/-- A `1` is accepted wherever a factor must start. -/
theorem exists_walk_one (unsigned : 0 ≤ limits.digits) (phase : state.phase = .operand) :
    ∃ next value, state.walk limits.task ['1'] = some next ∧
      state.level.multiply? 1 = some value ∧
        next.closeLiteral limits.task =
          { state.advance with
            phase := .operator value, level := { state.level with product := none } } := by
  have digit : Text.digitValue? '1' = some 1 := by decide
  obtain ⟨value, multiplied⟩ := exists_multiply?_one state.level
  have stepped : state.step limits.task '1' =
      some { state.advance with phase := .literal state.position 1 1 } :=
    step_of_move (.firstDigit phase digit)
  refine ⟨_, value, by rw [State.walk, stepped]; rfl, multiplied, ?_⟩
  rw [State.closeLiteral_of_accepted rfl (literalRefusal?_one unsigned)]
  exact State.factorRead_of_some multiplied

/-- Adding or subtracting a one. -/
theorem exists_walk_sum_one (unsigned : 0 ≤ limits.digits) {term : Int}
    (phase : (state.closeLiteral limits.task).phase = .operator term) (op : SumOp) :
    ∃ next, state.walk limits.task [op.symbol, '1'] = some next ∧
      (next.closeLiteral limits.task).phase = .operator 1 ∧
        (next.closeLiteral limits.task).level.total 1 =
          op.join ((state.closeLiteral limits.task).level.total term) 1 ∧
            next.groups = state.groups := by
  obtain ⟨behind, behindEq⟩ : ∃ behind : State, behind =
      { (state.closeLiteral limits.task).advance with
        phase := .operand
        level := { sum := some ((state.closeLiteral limits.task).level.total term, op) } } :=
    ⟨_, rfl⟩
  have stepped : state.step limits.task op.symbol = some behind := by
    rw [behindEq]
    exact step_of_move (.sum op phase (state.allows_adds_task limits))
  obtain ⟨next, value, walked, multiplied, closed⟩ :=
    exists_walk_one unsigned (show behind.phase = .operand by rw [behindEq])
  have one : value = 1 := by
    simpa [behindEq, Level.multiply?, eq_comm] using multiplied
  have groups : next.groups = behind.groups := by
    rw [← State.groups_closeLiteral limits.task next, closed]
    rfl
  refine ⟨next, ?_, ?_, ?_, ?_⟩
  · exact State.walk_cons stepped walked
  · rw [closed, one]
  · rw [closed, behindEq]
    rfl
  · rw [groups, behindEq]
    exact State.groups_closeLiteral limits.task state

/-- Ones can be added or subtracted until the level has the total 1. -/
theorem exists_walk_total_one (unsigned : 0 ≤ limits.digits) (distance : Nat) {term : Int}
    (phase : (state.closeLiteral limits.task).phase = .operator term)
    (far : ((state.closeLiteral limits.task).level.total term - 1).natAbs = distance) :
    ∃ cs next last, state.walk limits.task cs = some next ∧
      (next.closeLiteral limits.task).phase = .operator last ∧
        (next.closeLiteral limits.task).level.total last = 1 ∧ next.groups = state.groups := by
  induction distance generalizing state term with
  | zero => exact ⟨[], state, term, rfl, phase, by omega, rfl⟩
  | succ distance ih =>
      obtain ⟨op, nearer⟩ : ∃ op : SumOp,
          (op.join ((state.closeLiteral limits.task).level.total term) 1 - 1).natAbs =
            distance := by
        by_cases above : 1 < (state.closeLiteral limits.task).level.total term
        · refine ⟨.subtract, ?_⟩
          simp only [SumOp.join]
          omega
        · refine ⟨.add, ?_⟩
          simp only [SumOp.join]
          omega
      obtain ⟨middle, walked, phaseThere, total, groups⟩ := exists_walk_sum_one unsigned phase op
      rw [← total] at nearer
      obtain ⟨cs, next, last, onward, lastPhase, one, groupsToo⟩ := ih phaseThere nearer
      refine ⟨[op.symbol, '1'] ++ cs, next, last, ?_, lastPhase, one, groupsToo.trans groups⟩
      exact State.walk_trans walked onward

/-- Behind a whole factor the open groups can be closed one after the other. -/
theorem completable_of_operator (unsigned : 0 ≤ limits.digits) (groups : List Group) {term : Int}
    (phase : (state.closeLiteral limits.task).phase = .operator term)
    (opened : state.groups = groups) : Completable limits state := by
  induction groups generalizing state term with
  | nil =>
      refine ⟨[], state, _, rfl, State.answer_eq_ok_iff.2 ⟨term, phase, ?_, rfl⟩⟩
      rw [State.groups_closeLiteral, opened]
  | cons group groups ih =>
      -- The group may be a divisor, and its total may be zero by now.  Made one, it can neither
      -- fail nor be told from a literal by what waits outside.
      obtain ⟨cs, middle, last, walked, phaseThere, one, openedThere⟩ :=
        exists_walk_total_one unsigned _ phase rfl
      rw [opened] at openedThere
      apply completable_of_walk walked
      obtain ⟨value, multiplied⟩ := exists_multiply?_one group.outer
      have stepped := step_of_move (.closing phaseThere openedThere)
      rw [one, State.factorRead_of_some multiplied] at stepped
      obtain ⟨next, closes, phaseNext, openedNext⟩ : ∃ next,
          middle.step limits.task ')' = some next ∧ next.phase = .operator value ∧
            next.groups = groups := ⟨_, stepped, rfl, rfl⟩
      have closed := State.closeLiteral_of_operator limits.task phaseNext
      have closing : middle.walk limits.task [')'] = some next := by
        rw [State.walk, closes]
        rfl
      exact completable_of_walk closing (ih (by rw [closed]; exact phaseNext) openedNext)

/-- Where a factor must start, it can be supplied. -/
theorem completable_of_operand (unsigned : 0 ≤ limits.digits) (phase : state.phase = .operand) :
    Completable limits state := by
  obtain ⟨next, value, walked, _, closed⟩ := exists_walk_one unsigned phase
  apply completable_of_walk walked
  have behind : (next.closeLiteral limits.task).phase = .operator value := by rw [closed]
  exact completable_of_operator unsigned next.groups behind rfl

/-- A text that leads to a state that can be completed is the start of an expression. -/
theorem exists_evaluate_of_completable {head : List Char}
    (walked : State.first.walk limits.task head = some state)
    (completable : Completable limits state) :
    ∃ rest value, evaluate (String.ofList (head ++ rest)) limits = .ok value := by
  obtain ⟨rest, last, value, onward, answered⟩ := completable
  have halts : Halts limits (String.ofList (head ++ rest)).toList (head ++ rest) [] last := by
    refine ⟨by simp, ?_, by simp⟩
    exact State.walk_trans walked onward
  refine ⟨rest, value, ?_⟩
  rw [evaluate_eq_verdict halts]
  exact State.verdict_eq_ok_iff.2 ⟨rfl, answered⟩

end Completion

/-- **Everything before the position of a fault is good.**  Where an evaluation fails at a
position, what stands before it can be completed to a text with a value, under the same limits.
If the text is malformed there, then nothing can complete it with the character at the position
as well. -/
theorem evaluate_viable_prefix (text : String) (limits : Limits) (cause : Cause) (position : Nat)
    (unsigned : 0 ≤ limits.digits)
    (failed : evaluate text limits = .error (.fault cause position)) :
    (∃ rest value,
      evaluate (String.ofList (text.toList.take position ++ rest)) limits = .ok value) ∧
    (cause.category = .malformed → position < text.toList.length →
      ∀ rest value,
        evaluate (String.ofList (text.toList.take (position + 1) ++ rest)) limits ≠ .ok value) := by
  obtain ⟨taken, left, last, halts⟩ := exists_halts limits text.toList
  rw [evaluate_eq_verdict halts] at failed
  rcases halts.fault_cases failed with ⟨awaits, inner⟩ | ⟨here, malformed, phase⟩
  · obtain ⟨head, state, start, length, walked, phase⟩ := awaits
    have before : text.toList.take position = head := by
      have startToo : head <+: text.toList := by
        rw [halts.split]
        exact start.trans (List.prefix_append taken left)
      rw [← length]
      exact (List.prefix_iff_eq_take.1 startToo).symm
    refine ⟨?_, fun malformed => absurd malformed inner⟩
    rw [before]
    exact exists_evaluate_of_completable walked (completable_of_operand unsigned phase)
  · constructor
    · have before : text.toList.take position = taken := by
        rw [here, halts.split]
        exact List.take_left
      rw [before]
      apply exists_evaluate_of_completable halts.walked
      rcases phase with operand | ⟨term, operator⟩
      · exact completable_of_operand unsigned operand
      · exact completable_of_operator unsigned last.groups operator rfl
    · intro _ inside rest value evaluated
      obtain ⟨c, others, rfl⟩ : ∃ c others, left = c :: others := by
        apply List.exists_cons_of_ne_nil
        rintro rfl
        rw [here, halts.split, List.append_nil] at inside
        exact Nat.lt_irrefl _ inside
      have agree : (String.ofList (text.toList.take (position + 1) ++ rest)).toList.take
          (taken.length + 1) = text.toList.take (taken.length + 1) := by
        rw [String.toList_ofList, here]
        rw [here] at inside
        exact List.take_left' (by rw [List.length_take]; omega)
      obtain ⟨more, _, haltsToo⟩ := halts.of_agreeing agree
      rw [evaluate_eq_verdict haltsToo] at evaluated
      obtain ⟨nothing, _⟩ := State.verdict_eq_ok_iff.1 evaluated
      cases nothing

/-- A fault inside two open groups, where a division waits. -/
theorem evaluate_viable_prefix_in_groups :
    0 ≤ ({} : Limits).digits ∧
      evaluate "7/(3 - (2*x" = .error (.fault .numberExpected 10) ∧
        (∃ rest value,
          evaluate (String.ofList ("7/(3 - (2*x".toList.take 10 ++ rest)) = .ok value) ∧
          ∀ rest value,
            evaluate (String.ofList ("7/(3 - (2*x".toList.take 11 ++ rest)) ≠ .ok value := by
  have unsigned : 0 ≤ ({} : Limits).digits := by decide
  have failed : evaluate "7/(3 - (2*x" = .error (.fault .numberExpected 10) := by rfl
  have viable := evaluate_viable_prefix _ {} _ _ unsigned failed
  exact ⟨unsigned, failed, viable.1, viable.2 rfl (by decide)⟩

end Abacus
