/-
Module: Abacus.Proofs.Frame
Purpose: The groups around a walk do not matter to it, as long as none of them is closed.
Main exports: State.within, Limits.Accommodates, Failure.TooDeep, Move.within, Move.of_within,
  step_closing_frame, walk_within_or_tooDeep
-/
import Abacus.Proofs.Parentheses
import Abacus.Proofs.Reading

namespace Abacus

/-!
What is read inside a group never looks at the groups around it.  Only their number counts, and
only when one more is opened.  So a move can be made inside more groups, unless it then nests too
deep, and inside fewer, unless it closes one of those that are taken away.
-/

/-- The state with more groups open around it. -/
def State.within (state : State) (frame : List Group) : State :=
  { state with groups := state.groups ++ frame }

/-- So many groups can be open at once. -/
def Limits.Accommodates (limits : Limits) (count : Nat) : Prop :=
  exceeded limits.depth count = false ∧ count ≤ room

theorem Limits.Accommodates.mono {limits : Limits} {few many : Nat} (le : few ≤ many)
    (fits : limits.Accommodates many) : limits.Accommodates few := by
  refine ⟨?_, Nat.le_trans le fits.2⟩
  cases already : exceeded limits.depth few with
  | false => rfl
  | true =>
      have exceeds := Limits.exceeded_mono le already
      rw [fits.1] at exceeds
      cases exceeds

/-- What a parenthesis comes to that opens one group too many. -/
def Failure.TooDeep (failure : Failure) : Prop :=
  failure = .exhausted ∨ ∃ limit position, failure = .fault (.nestedTooDeep limit) position

namespace State

variable {limits : Limits} {state : State} {frame : List Group}

@[simp] theorem position_within (state : State) (frame : List Group) :
    (state.within frame).position = state.position := rfl

@[simp] theorem phase_within (state : State) (frame : List Group) :
    (state.within frame).phase = state.phase := rfl

@[simp] theorem level_within (state : State) (frame : List Group) :
    (state.within frame).level = state.level := rfl

@[simp] theorem groups_within (state : State) (frame : List Group) :
    (state.within frame).groups = state.groups ++ frame := rfl

theorem factorRead_within (start : Nat) (factor : Int) :
    (state.within frame).factorRead start factor =
      (state.factorRead start factor).within frame := by
  cases multiplied : state.level.multiply? factor with
  | none =>
      have multipliedThere : (state.within frame).level.multiply? factor = none := multiplied
      rw [factorRead_of_none multiplied, factorRead_of_none multipliedThere]
      rfl
  | some value =>
      have multipliedThere : (state.within frame).level.multiply? factor = some value := multiplied
      rw [factorRead_of_some multiplied, factorRead_of_some multipliedThere]
      rfl

theorem closeLiteral_within (task : Task) :
    (state.within frame).closeLiteral task = (state.closeLiteral task).within frame := by
  cases phase : state.phase with
  | operand | operator | failed =>
      rw [closeLiteral_eq_self (by simp [phase]), closeLiteral_eq_self (by simp [phase])]
  | literal start count value =>
      have phaseThere : (state.within frame).phase = .literal start count value := phase
      cases refusal : literalRefusal? task.limits count with
      | none =>
          rw [closeLiteral_of_accepted phase refusal, closeLiteral_of_accepted phaseThere refusal,
            factorRead_within]
      | some cause =>
          rw [closeLiteral_of_refused phase refusal, closeLiteral_of_refused phaseThere refusal]
          rfl

/-! ### Opening a group -/

theorem openGroup_of_accommodates (fits : limits.Accommodates (state.groups.length + 1)) :
    state.openGroup limits.task = state.inside := by
  apply openGroup_of_fits
  · simpa using fits.1
  · exact fits.2

/-- A group is opened, or it is one too many. -/
theorem openGroup_of_not_accommodates
    (full : ¬ limits.Accommodates (state.groups.length + 1)) :
    ∃ failure, (state.openGroup limits.task).phase = .failed failure ∧ failure.TooDeep := by
  unfold openGroup
  dsimp only
  split
  · exact ⟨_, rfl, .inr ⟨_, _, rfl⟩⟩
  · split
    · exact ⟨_, rfl, .inl rfl⟩
    · rename_i within fits
      refine absurd ⟨?_, by simpa using fits⟩ full
      simpa [State.depth, Limits.task] using within

/-- A group that is open and not refused was not one too many. -/
theorem accommodates_of_openGroup
    (unfailed : ∀ failure, (state.openGroup limits.task).phase ≠ .failed failure) :
    limits.Accommodates (state.groups.length + 1) := by
  by_cases fits : limits.Accommodates (state.groups.length + 1)
  · exact fits
  · obtain ⟨failure, failed, _⟩ := openGroup_of_not_accommodates fits
    exact absurd failed (unfailed failure)

end State

section Moves

variable {limits : Limits} {state next last : State} {frame : List Group} {c : Char}

/-- A parenthesis is opened only where a factor must start. -/
theorem opening_of_move {task : Task} (move : Move task state '(' next) :
    state.phase = .operand ∧ next = state.openGroup task := by
  rcases groups_cases_of_move move with ⟨_, other, _⟩ | ⟨_, phase, same⟩ | ⟨closes, _⟩
  · exact absurd rfl other
  · exact ⟨phase, same⟩
  · cases closes

/-- A move can be made with more groups around, unless it opens one too many. -/
theorem Move.within (move : Move limits.task state c next)
    (fits : c = '(' → limits.Accommodates (state.groups.length + frame.length + 1)) :
    Move limits.task (state.within frame) c (next.within frame) := by
  have closed : ∀ {value : Int}, (state.closeLiteral limits.task).phase = .operator value →
      ((state.within frame).closeLiteral limits.task).phase = .operator value := by
    intro value phase
    rw [State.closeLiteral_within]
    exact phase
  cases move with
  | blankBefore phase blank => exact .blankBefore phase blank
  | firstDigit phase digit => exact .firstDigit phase digit
  | nextDigit phase digit => exact .nextDigit phase digit
  | opening phase allowed =>
      have there := fits rfl
      have here : limits.Accommodates (state.groups.length + 1) := there.mono (by omega)
      have opened : Move limits.task (state.within frame) '(' _ := .opening phase rfl
      rw [State.openGroup_of_accommodates (by simpa using there)] at opened
      rw [State.openGroup_of_accommodates here]
      exact opened
  | blankAfter phase allowed blank =>
      have moved := Move.blankAfter (closed phase) rfl blank
      rw [State.closeLiteral_within] at moved
      exact moved
  | product op phase allowed =>
      have moved := Move.product op (closed phase) rfl
      rw [State.closeLiteral_within] at moved
      exact moved
  | sum op phase allowed =>
      have moved := Move.sum op (closed phase) rfl
      rw [State.closeLiteral_within] at moved
      exact moved
  | @closing value group groups phase opened =>
      have openedThere : (state.within frame).groups = group :: (groups ++ frame) := by
        rw [State.groups_within, opened, List.cons_append]
      have moved := Move.closing (closed phase) openedThere
      rw [State.closeLiteral_within] at moved
      rw [← State.factorRead_within]
      exact moved

/-- A move inside more groups is one without them, unless it closes one of them or fails. -/
theorem Move.of_within (move : Move limits.task (state.within frame) c next)
    (unfailed : ∀ failure, next.phase ≠ .failed failure) (kept : c = ')' → state.groups ≠ []) :
    ∃ after, Move limits.task state c after ∧ next = after.within frame ∧
      (c = '(' → limits.Accommodates (state.groups.length + frame.length + 1)) := by
  by_cases opens : c = '('
  · subst opens
    obtain ⟨phase, rfl⟩ := opening_of_move move
    have there := State.accommodates_of_openGroup unfailed
    rw [State.groups_within, List.length_append] at there
    have here : limits.Accommodates (state.groups.length + 1) := there.mono (by omega)
    refine ⟨_, .opening phase rfl, ?_, fun _ => there⟩
    rw [State.openGroup_of_accommodates here,
      State.openGroup_of_accommodates (by simpa using there)]
    rfl
  · have closed : ∀ {value : Int},
        ((state.within frame).closeLiteral limits.task).phase = .operator value →
          (state.closeLiteral limits.task).phase = .operator value := by
      intro value phase
      rw [State.closeLiteral_within] at phase
      exact phase
    have other : c = '(' → limits.Accommodates (state.groups.length + frame.length + 1) :=
      fun same => absurd same opens
    cases move with
    | opening phase allowed => exact absurd rfl opens
    | blankBefore phase blank => exact ⟨_, .blankBefore phase blank, rfl, other⟩
    | firstDigit phase digit => exact ⟨_, .firstDigit phase digit, rfl, other⟩
    | nextDigit phase digit => exact ⟨_, .nextDigit phase digit, rfl, other⟩
    | blankAfter phase allowed blank =>
        refine ⟨_, .blankAfter (closed phase) rfl blank, ?_, other⟩
        rw [State.closeLiteral_within]
        rfl
    | product op phase allowed =>
        refine ⟨_, .product op (closed phase) rfl, ?_, other⟩
        rw [State.closeLiteral_within]
        rfl
    | sum op phase allowed =>
        refine ⟨_, .sum op (closed phase) rfl, ?_, other⟩
        rw [State.closeLiteral_within]
        rfl
    | closing phase opened =>
        obtain ⟨first, others, openedHere⟩ := List.exists_cons_of_ne_nil (kept rfl)
        rw [State.groups_within, openedHere, List.cons_append] at opened
        cases opened
        refine ⟨_, .closing (closed phase) openedHere, ?_, other⟩
        rw [State.closeLiteral_within, ← State.factorRead_within]
        rfl

/-- The parenthesis that closes the innermost group of the frame makes all that was read inside it
a factor. -/
theorem step_closing_frame {term : Int}
    (phase : (state.closeLiteral limits.task).phase = .operator term) (none : state.groups = [])
    (group : Group) (groups : List Group) :
    (state.within (group :: groups)).step limits.task ')' =
      some ({ state.advance with level := group.outer, groups := groups }.factorRead group.opening
        ((state.closeLiteral limits.task).level.total term)) := by
  have phaseThere :
      ((state.within (group :: groups)).closeLiteral limits.task).phase = .operator term := by
    rw [State.closeLiteral_within]
    exact phase
  have opened : (state.within (group :: groups)).groups = group :: groups := by
    rw [State.groups_within, none, List.nil_append]
  rw [step_of_move (.closing phaseThere opened), State.closeLiteral_within]
  congr 1
  apply factorRead_congr
  · simp
  · rfl
  · rfl

/-- A walk can be made with more groups around, unless it opens one too many on the way. -/
theorem walk_within_or_tooDeep {cs : List Char} (walked : state.walk limits.task cs = some last)
    (frame : List Group) :
    (state.within frame).walk limits.task cs = some (last.within frame) ∨
      ∃ taken left cut failure, cs = taken ++ left ∧
        (state.within frame).walk limits.task taken = some cut ∧ cut.phase = .failed failure ∧
          failure.TooDeep := by
  induction cs generalizing state with
  | nil =>
      cases walked
      exact .inl rfl
  | cons c cs ih =>
      obtain ⟨middle, stepped, onward⟩ := Option.bind_eq_some_iff.1 walked
      have move := move_of_step stepped
      by_cases fits : c = '(' → limits.Accommodates (state.groups.length + frame.length + 1)
      · have steppedThere := step_of_move (move.within fits)
        rcases ih onward with walkedThere | ⟨taken, left, cut, failure, rfl, reached, failed, deep⟩
        · left
          exact State.walk_cons steppedThere walkedThere
        · right
          exact ⟨c :: taken, left, cut, failure, rfl, State.walk_cons steppedThere reached, failed,
            deep⟩
      · -- The parenthesis fails inside the frame, whether or not it would have without it.
        obtain ⟨rfl, full⟩ := Classical.not_imp.1 fits
        obtain ⟨phase, _⟩ := opening_of_move move
        have opened : Move limits.task (state.within frame) '(' _ := .opening phase rfl
        have fullThere : ¬ limits.Accommodates ((state.within frame).groups.length + 1) := by
          simpa using full
        obtain ⟨failure, failed, deep⟩ := State.openGroup_of_not_accommodates fullThere
        right
        refine ⟨['('], cs, _, failure, rfl, ?_, failed, deep⟩
        rw [State.walk, step_of_move opened]
        rfl

end Moves

end Abacus
