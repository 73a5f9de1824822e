/-
Module: Abacus.Machine.Walk
Purpose: How a run moves over the text.
Main exports: State.walk, run_append_of_walk, exists_walk_of_run, position_run
-/
import Abacus.Machine

namespace Abacus

/-!
Each character that belongs to the phrase moves the state one position on, so a run stops as far
behind its start as it has read characters.
-/

namespace State

@[simp] theorem position_advance (state : State) :
    state.advance.position = state.position + 1 := rfl

@[simp] theorem position_factorRead (state : State) (start : Nat) (factor : Int) :
    (state.factorRead start factor).position = state.position := by
  unfold factorRead
  split <;> rfl

@[simp] theorem groups_factorRead (state : State) (start : Nat) (factor : Int) :
    (state.factorRead start factor).groups = state.groups := by
  unfold factorRead
  split <;> rfl

@[simp] theorem position_closeLiteral (task : Task) (state : State) :
    (state.closeLiteral task).position = state.position := by
  unfold closeLiteral
  split
  · split
    · rfl
    · rw [position_factorRead]
  · rfl

@[simp] theorem groups_closeLiteral (task : Task) (state : State) :
    (state.closeLiteral task).groups = state.groups := by
  unfold closeLiteral
  split
  · split
    · rfl
    · rw [groups_factorRead]
  · rfl

@[simp] theorem position_openGroup (task : Task) (state : State) :
    (state.openGroup task).position = state.position + 1 := by
  unfold openGroup
  dsimp only
  split
  · rfl
  · split <;> rfl

theorem position_stepOperand {task : Task} {state next : State} {c : Char}
    (stepped : state.stepOperand task c = some next) : next.position = state.position + 1 := by
  unfold stepOperand at stepped
  split at stepped
  · cases stepped
    rfl
  · split at stepped
    · cases stepped
      rfl
    · split at stepped
      · cases stepped
        rw [position_openGroup]
      · cases stepped

theorem position_stepOperator {task : Task} {state next : State} {value : Int} {c : Char}
    (stepped : state.stepOperator task value c = some next) :
    next.position = state.position + 1 := by
  unfold stepOperator at stepped
  split at stepped
  · cases stepped
  · split at stepped
    · cases stepped
      rfl
    · split at stepped
      · cases stepped
        rfl
      · split at stepped
        · cases stepped
          rfl
        · cases stepped
      · split at stepped
        · cases stepped
        · split at stepped
          · cases stepped
            rw [position_factorRead]
            rfl
          · cases stepped

/-- One character moves the state one position on. -/
theorem position_step {task : Task} {state next : State} {c : Char}
    (stepped : state.step task c = some next) : next.position = state.position + 1 := by
  unfold step at stepped
  split at stepped
  · exact position_stepOperand stepped
  · exact position_stepOperator stepped
  · cases stepped
  · split at stepped
    · cases stepped
      rfl
    · dsimp only at stepped
      split at stepped
      · rw [position_stepOperator stepped, position_closeLiteral]
      · cases stepped

end State

theorem run_nil (task : Task) (state : State) : run task state [] = state.settle task := rfl

theorem run_cons_of_step {task : Task} {state next : State} {c : Char}
    (stepped : state.step task c = some next) (rest : List Char) :
    run task state (c :: rest) = run task next rest := by
  rw [run, stepped]

theorem run_cons_of_refused {task : Task} {state : State} {c : Char}
    (refused : state.step task c = none) (rest : List Char) :
    run task state (c :: rest) = state.settle task := by
  rw [run, refused]

/-- The state behind some characters, if all of them belong to the phrase. -/
def State.walk (task : Task) : State → List Char → Option State
  | state, [] => some state
  | state, c :: rest => (state.step task c).bind (walk task · rest)

theorem State.walk_append (task : Task) (state : State) (cs ds : List Char) :
    state.walk task (cs ++ ds) = (state.walk task cs).bind (·.walk task ds) := by
  induction cs generalizing state with
  | nil => rfl
  | cons c cs ih =>
      cases stepped : state.step task c with
      | none => simp [walk, stepped]
      | some next => simp [walk, stepped, ih]

/-- A walk goes on where another one ends. -/
theorem State.walk_trans {task : Task} {state next last : State} {cs ds : List Char}
    (walked : state.walk task cs = some next) (onward : next.walk task ds = some last) :
    state.walk task (cs ++ ds) = some last := by
  rw [State.walk_append, walked, Option.bind_some, onward]

/-- A walk starts with one character. -/
theorem State.walk_cons {task : Task} {state next last : State} {c : Char} {cs : List Char}
    (stepped : state.step task c = some next) (onward : next.walk task cs = some last) :
    state.walk task (c :: cs) = some last := by
  rw [State.walk, stepped, Option.bind_some, onward]

/-- A walk can be prolonged by one character. -/
theorem State.walk_snoc {task : Task} {state next last : State} {cs : List Char} {c : Char}
    (walked : state.walk task cs = some next) (stepped : next.step task c = some last) :
    state.walk task (cs ++ [c]) = some last := by
  rw [State.walk_append, walked, Option.bind_some, State.walk, stepped]
  rfl

/-- A walk is empty, or it ends with a step. -/
theorem State.exists_last_step {task : Task} {state last : State} {cs : List Char}
    (walked : state.walk task cs = some last) :
    (cs = [] ∧ last = state) ∨ ∃ before c middle, cs = before ++ [c] ∧
      state.walk task before = some middle ∧ middle.step task c = some last := by
  rcases List.eq_nil_or_concat cs with rfl | ⟨before, c, rfl⟩
  · cases walked
    exact .inl ⟨rfl, rfl⟩
  · rw [List.concat_eq_append, State.walk_append] at walked
    obtain ⟨middle, reached, onward⟩ := Option.bind_eq_some_iff.1 walked
    obtain ⟨next, stepped, same⟩ := Option.bind_eq_some_iff.1 onward
    cases same
    exact .inr ⟨before, c, middle, List.concat_eq_append, reached, stepped⟩

/-- A walk moves the state by as many positions as there are characters. -/
theorem State.position_walk {task : Task} {state last : State} {cs : List Char}
    (walked : state.walk task cs = some last) : last.position = state.position + cs.length := by
  induction cs generalizing state with
  | nil =>
      cases walked
      rfl
  | cons c cs ih =>
      obtain ⟨next, stepped, walked⟩ := Option.bind_eq_some_iff.1 walked
      rw [ih walked, position_step stepped, List.length_cons]
      omega

/-- A run goes on behind a walk as if it had started there. -/
theorem run_append_of_walk {task : Task} {state last : State} {cs : List Char}
    (walked : state.walk task cs = some last) (rest : List Char) :
    run task state (cs ++ rest) = run task last rest := by
  induction cs generalizing state with
  | nil =>
      cases walked
      rfl
  | cons c cs ih =>
      obtain ⟨next, stepped, walked⟩ := Option.bind_eq_some_iff.1 walked
      rw [List.cons_append, run_cons_of_step stepped, ih walked]

/-- Every run is a walk as far as it leads, and settles where the text ends or where the next
character does not belong to the phrase. -/
theorem exists_walk_of_run (task : Task) (state : State) (cs : List Char) :
    ∃ taken left last, cs = taken ++ left ∧ state.walk task taken = some last ∧
      run task state cs = last.settle task ∧ ∀ c ∈ left.head?, last.step task c = none := by
  induction cs generalizing state with
  | nil => exact ⟨[], [], state, rfl, rfl, rfl, by simp⟩
  | cons c cs ih =>
      cases stepped : state.step task c with
      | none =>
          refine ⟨[], c :: cs, state, rfl, rfl, run_cons_of_refused stepped cs, ?_⟩
          intro d head
          cases head
          exact stepped
      | some next =>
          obtain ⟨taken, left, last, split, walked, settled, refused⟩ := ih next
          refine ⟨c :: taken, left, last, ?_, ?_, ?_, refused⟩
          · rw [split, List.cons_append]
          · exact State.walk_cons stepped walked
          · rw [run_cons_of_step stepped, settled]

/-- A run stops between the position it starts at and the end of the text. -/
theorem position_run (task : Task) (state : State) (cs : List Char) :
    state.position ≤ (run task state cs).position ∧
      (run task state cs).position ≤ state.position + cs.length := by
  obtain ⟨taken, left, last, split, walked, settled, _⟩ := exists_walk_of_run task state cs
  have settledAt : (last.settle task).position = last.position := rfl
  rw [settled, settledAt, State.position_walk walked, split, List.length_append]
  omega

end Abacus
