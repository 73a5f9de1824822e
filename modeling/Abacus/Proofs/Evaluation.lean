/-
Module: Abacus.Proofs.Evaluation
Purpose: Where the evaluation of a whole text stops, and what it answers there.
Main exports: Limits.task, Halts, exists_halts, State.verdict, verdict_eq_ok_iff,
  evaluate_of_halts
-/
import Abacus.Proofs.Move
import Abacus.Session

namespace Abacus

/-!
An evaluation walks over a text as far as the characters belong to an expression.  The state it
halts in and the text it leaves decide its answer, so everything about evaluations is shown of
walks.
-/

/-- The task of evaluating a whole text. -/
def Limits.task (limits : Limits) : Task :=
  { rule := .expression, limits := limits, depth := 0 }

@[simp] theorem Limits.limits_task (limits : Limits) : limits.task.limits = limits := rfl

@[simp] theorem Limits.depth_task (limits : Limits) (state : State) :
    state.depth limits.task = state.groups.length := by
  simp [State.depth, task]

@[simp] theorem State.allows_opens_task (state : State) (limits : Limits) :
    state.allows limits.task.rule.opens = true := rfl

@[simp] theorem State.allows_multiplies_task (state : State) (limits : Limits) :
    state.allows limits.task.rule.multiplies = true := rfl

@[simp] theorem State.allows_adds_task (state : State) (limits : Limits) :
    state.allows limits.task.rule.adds = true := rfl

/-- The state of an evaluation that has read nothing. -/
def State.first : State :=
  { position := 0 }

theorem State.position_walk_first {task : Task} {last : State} {cs : List Char}
    (walked : State.first.walk task cs = some last) : last.position = cs.length := by
  rw [State.position_walk walked, State.first, Nat.zero_add]

/-- The walk over the text ends in `last`, behind `taken`, because `left` is empty or goes on
with a character that does not belong to the expression. -/
structure Halts (limits : Limits) (text taken left : List Char) (last : State) : Prop where
  split : text = taken ++ left
  walked : State.first.walk limits.task taken = some last
  refused : ∀ c ∈ left.head?, last.step limits.task c = none

/-- Every evaluation halts somewhere. -/
theorem exists_halts (limits : Limits) (text : List Char) :
    ∃ taken left last, Halts limits text taken left last := by
  obtain ⟨taken, left, last, split, walked, _, refused⟩ :=
    exists_walk_of_run limits.task .first text
  exact ⟨taken, left, last, split, walked, refused⟩

/-- What an evaluation answers that halts in the state and leaves that text. -/
def State.verdict (limits : Limits) (last : State) (left : List Char) : Except Failure Int :=
  match (last.closeLiteral limits.task).answer with
  | .error failure => .error failure
  | .ok value =>
      if left = [] then .ok value else .error (.fault (.trailing left) last.position)

/-- A state has a value where a factor is complete and no group is open. -/
theorem State.answer_eq_ok_iff {state : State} {value : Int} :
    state.answer = .ok value ↔
      ∃ term, state.phase = .operator term ∧ state.groups = [] ∧
        state.level.total term = value := by
  cases phase : state.phase with
  | operand | literal | failed => simp [answer, phase]
  | operator term =>
      cases groups : state.groups with
      | nil => simp [answer, phase, groups]
      | cons group groups => simp [answer, phase, groups]

theorem State.verdict_eq_ok_iff {limits : Limits} {last : State} {left : List Char}
    {value : Int} :
    last.verdict limits left = .ok value ↔
      left = [] ∧ (last.closeLiteral limits.task).answer = .ok value := by
  rw [verdict]
  cases (last.closeLiteral limits.task).answer with
  | error failure => simp
  | ok found =>
      by_cases nothing : left = []
      · simp [nothing]
      · simp [nothing]

/-- A failed state decides the answer. -/
theorem verdict_of_failed {limits : Limits} {last : State} {failure : Failure} (left : List Char)
    (failed : (last.closeLiteral limits.task).phase = .failed failure) :
    last.verdict limits left = .error failure := by
  rw [State.verdict, State.answer, failed]

namespace Halts

variable {limits : Limits} {text taken left : List Char} {last : State}

theorem position (halts : Halts limits text taken left last) : last.position = taken.length :=
  State.position_walk_first halts.walked

theorem run (halts : Halts limits text taken left last) :
    run limits.task .first text = last.settle limits.task := by
  rw [halts.split, run_append_of_walk halts.walked]
  cases leftEq : left with
  | nil => rfl
  | cons c rest =>
      apply run_cons_of_refused
      exact halts.refused c (by rw [leftEq]; rfl)

/-- A state with a value accepts blanks. -/
theorem not_isBlank_head (halts : Halts limits text taken left last) {value : Int}
    (answered : (last.closeLiteral limits.task).answer = .ok value) :
    ∀ c ∈ left.head?, Text.isBlank c = false := by
  intro c head
  cases blank : Text.isBlank c with
  | false => rfl
  | true =>
      obtain ⟨term, phase, _, _⟩ := State.answer_eq_ok_iff.1 answered
      have stepped := step_of_move (.blankAfter phase (last.allows_multiplies_task limits) blank)
      rw [halts.refused c head] at stepped
      cases stepped

end Halts

/-- An evaluation answers the verdict of the state it halts in and leaves the cursor there. -/
theorem evaluate_of_halts {limits : Limits} {text : String} {taken left : List Char}
    {last : State} (halts : Halts limits text.toList taken left last) :
    (Session.start text limits).evaluate =
      (last.verdict limits left,
        { cursor := { text := text.toList, position := taken.length }
          limits := limits
          depth := last.groups.length }) := by
  have stop : run limits.task .first text.toList = last.settle limits.task := halts.run
  have position := halts.position
  have read : (Session.start text limits).read .expression =
      ((last.closeLiteral limits.task).answer,
        { cursor := { text := text.toList, position := taken.length }
          limits := limits
          depth := last.groups.length }) := by
    simp only [Session.read, Session.start, Cursor.rest, List.drop_zero]
    simp only [State.first, Limits.task] at stop
    rw [stop]
    simp [State.settle, position, State.depth, Limits.task]
  rw [Session.evaluate, read, State.verdict]
  cases answered : (last.closeLiteral limits.task).answer with
  | error failure => rfl
  | ok value =>
      have rest : Cursor.rest { text := text.toList, position := taken.length } = left := by
        rw [Cursor.rest, halts.split, List.drop_left]
      have noBlanks : left.takeWhile Text.isBlank = [] := by
        cases leftEq : left with
        | nil => rfl
        | cons c rest =>
            have notBlank := halts.not_isBlank_head answered c (by rw [leftEq]; rfl)
            simp [notBlank]
      have skipped : Cursor.skipBlanks { text := text.toList, position := taken.length } =
          { text := text.toList, position := taken.length } := by
        rw [Cursor.skipBlanks, rest, noBlanks]
        rfl
      have atEnd : Cursor.atEnd { text := text.toList, position := taken.length } =
          decide (left = []) := by
        rw [Bool.eq_iff_iff, Cursor.atEnd_iff, rest, decide_eq_true_iff]
      simp only [skipped, atEnd, rest, position, decide_eq_true_eq]

theorem evaluate_eq_verdict {limits : Limits} {text : String} {taken left : List Char}
    {last : State} (halts : Halts limits text.toList taken left last) :
    evaluate text limits = last.verdict limits left := by
  rw [evaluate, evaluate_of_halts halts]

/-- An evaluation fails as its run does. -/
theorem evaluate_of_run_error {limits : Limits} {text : String} {failure : Failure}
    (failed : (run limits.task .first text.toList).result = .error failure) :
    evaluate text limits = .error failure := by
  obtain ⟨taken, left, last, halts⟩ := exists_halts limits text.toList
  rw [halts.run, State.settle] at failed
  dsimp only at failed
  rw [evaluate_eq_verdict halts, State.verdict, failed]

/-- An evaluation has the value of a run over the whole text. -/
theorem evaluate_of_run_ok {limits : Limits} {text : String} {value : Int}
    (answered : (run limits.task .first text.toList).result = .ok value)
    (whole : (run limits.task .first text.toList).position = text.toList.length) :
    evaluate text limits = .ok value := by
  obtain ⟨taken, left, last, halts⟩ := exists_halts limits text.toList
  rw [halts.run, State.settle] at answered whole
  dsimp only at answered whole
  rw [halts.position, halts.split, List.length_append] at whole
  have nothing : left = [] := List.length_eq_zero_iff.1 (by omega)
  rw [evaluate_eq_verdict halts]
  exact State.verdict_eq_ok_iff.2 ⟨nothing, answered⟩

end Abacus
