/-
Module: Abacus.Proofs.Faults
Purpose: Which faults an evaluation can end with, and what stands at their positions.
Main exports: AwaitsFactorAt, State.Anchored, anchored_of_walk, Halts.fault_cases,
  Halts.position_le
-/
import Abacus.Proofs.Evaluation

namespace Abacus

/-!
A fault is seen in one of two ways.  Either the state fails in mid-text, because of a limit or a
zero divisor: then the position lies behind, where the literal or the group starts that is to
blame, and there the machine was awaiting a factor.  Or the text ends, or goes on, in a state
that is not complete: then the position is where the evaluation halts.
-/

/-- At the position in the text, which has been read up to there, a factor must start. -/
def AwaitsFactorAt (limits : Limits) (text : List Char) (position : Nat) : Prop :=
  ∃ head state, head <+: text ∧ head.length = position ∧
    State.first.walk limits.task head = some state ∧ state.phase = .operand

theorem AwaitsFactorAt.position_le {limits : Limits} {text : List Char} {position : Nat}
    (awaits : AwaitsFactorAt limits text position) : position ≤ text.length := by
  obtain ⟨head, state, start, rfl, _⟩ := awaits
  exact start.length_le

theorem AwaitsFactorAt.append {limits : Limits} {text : List Char} {position : Nat}
    (awaits : AwaitsFactorAt limits text position) (more : List Char) :
    AwaitsFactorAt limits (text ++ more) position := by
  obtain ⟨head, state, start, length, walked, phase⟩ := awaits
  exact ⟨head, state, start.trans (List.prefix_append text more), length, walked, phase⟩

/-- Whatever the state may yet blame stands where a factor was awaited: the literal being read,
the open groups, and the fault of a failed state. -/
structure State.Anchored (limits : Limits) (text : List Char) (state : State) : Prop where
  literal : ∀ start count value, state.phase = .literal start count value →
    AwaitsFactorAt limits text start
  groups : ∀ group ∈ state.groups, AwaitsFactorAt limits text group.opening
  failed : ∀ cause position, state.phase = .failed (.fault cause position) →
    AwaitsFactorAt limits text position ∧ cause.category ≠ .malformed

section Anchors

variable {limits : Limits} {text : List Char} {state next : State}

theorem anchored_first (limits : Limits) : State.first.Anchored limits [] where
  literal := by simp [State.first]
  groups := by simp [State.first]
  failed := by simp [State.first]

theorem category_of_literalRefusal? {limits : Limits} {count : Nat} {cause : Cause}
    (refused : State.literalRefusal? limits count = some cause) : cause.category = .range := by
  unfold State.literalRefusal? at refused
  split at refused
  · cases refused
    rfl
  · split at refused
    · cases refused
      rfl
    · cases refused

/-- A factor fails at its start, if at all. -/
theorem anchored_factorRead {start : Nat} (awaits : AwaitsFactorAt limits text start)
    (groups : ∀ group ∈ state.groups, AwaitsFactorAt limits text group.opening) (factor : Int) :
    (state.factorRead start factor).Anchored limits text := by
  cases multiplied : state.level.multiply? factor with
  | some value =>
      rw [State.factorRead_of_some multiplied]
      exact ⟨by simp, groups, by simp⟩
  | none =>
      rw [State.factorRead_of_none multiplied]
      refine ⟨by simp, groups, ?_⟩
      intro cause position phase
      cases phase
      exact ⟨awaits, by simp [Cause.category]⟩

theorem anchored_closeLiteral (anchored : state.Anchored limits text) :
    (state.closeLiteral limits.task).Anchored limits text := by
  cases phase : state.phase with
  | operand | operator | failed =>
      rw [State.closeLiteral_eq_self (by simp [phase])]
      exact anchored
  | literal start count value =>
      have awaits := anchored.literal start count value phase
      cases refusal : State.literalRefusal? limits.task.limits count with
      | none =>
          rw [State.closeLiteral_of_accepted phase refusal]
          exact anchored_factorRead awaits anchored.groups value
      | some cause =>
          rw [State.closeLiteral_of_refused phase refusal]
          refine ⟨by simp, anchored.groups, ?_⟩
          intro other position failed
          cases failed
          exact ⟨awaits, by simp [category_of_literalRefusal? refusal]⟩

/-- One character keeps the anchors, and may set a new one where it stands. -/
theorem anchored_of_move {c : Char} (walked : State.first.walk limits.task text = some state)
    (anchored : state.Anchored limits text) (move : Move limits.task state c next) :
    next.Anchored limits (text ++ [c]) := by
  have position : state.position = text.length := State.position_walk_first walked
  have here : state.phase = .operand → AwaitsFactorAt limits (text ++ [c]) state.position :=
    fun phase => ⟨text, state, List.prefix_append text [c], position.symm, walked, phase⟩
  have groups : ∀ group ∈ state.groups, AwaitsFactorAt limits (text ++ [c]) group.opening :=
    fun group mem => (anchored.groups group mem).append [c]
  have closedGroups : ∀ group ∈ (state.closeLiteral limits.task).groups,
      AwaitsFactorAt limits (text ++ [c]) group.opening := by
    rw [State.groups_closeLiteral]
    exact groups
  cases move with
  | blankBefore phase blank =>
      exact ⟨by simp [phase], groups, by simp [phase]⟩
  | firstDigit phase digit =>
      refine ⟨?_, groups, by simp⟩
      intro start count value literal
      cases literal
      exact here phase
  | opening phase allowed =>
      have opened : ∀ group ∈ (state.openGroup limits.task).groups,
          AwaitsFactorAt limits (text ++ ['(']) group.opening := by
        rw [State.groups_openGroup]
        intro group mem
        rcases List.mem_cons.1 mem with rfl | outer
        · exact here phase
        · exact groups group outer
      rcases State.openGroup_cases limits.task state with ⟨_, refused⟩ | refused | ⟨_, inside⟩
      · refine ⟨by simp [refused], opened, ?_⟩
        intro cause position failed
        rw [refused] at failed
        cases failed
        exact ⟨here phase, by simp [Cause.category]⟩
      · exact ⟨by simp [refused], opened, by simp [refused]⟩
      · rw [inside] at opened ⊢
        exact ⟨by simp [State.inside], opened, by simp [State.inside]⟩
  | nextDigit phase digit =>
      refine ⟨?_, groups, by simp⟩
      intro start count value literal
      cases literal
      exact (anchored.literal _ _ _ phase).append [c]
  | blankAfter phase allowed blank =>
      exact ⟨by simp [phase], closedGroups, by simp [phase]⟩
  | product op phase allowed => exact ⟨by simp, closedGroups, by simp⟩
  | sum op phase allowed => exact ⟨by simp, closedGroups, by simp⟩
  | closing phase opened =>
      rw [opened] at groups
      exact anchored_factorRead (groups _ List.mem_cons_self)
        (fun group mem => groups group (List.mem_cons_of_mem _ mem)) _

/-- Every state that an evaluation comes to is anchored. -/
theorem anchored_of_walk {more : List Char}
    (walked : State.first.walk limits.task text = some state)
    (anchored : state.Anchored limits text) (onward : state.walk limits.task more = some next) :
    next.Anchored limits (text ++ more) := by
  induction more generalizing state text with
  | nil =>
      cases onward
      simpa using anchored
  | cons c more ih =>
      obtain ⟨middle, stepped, onward⟩ := Option.bind_eq_some_iff.1 onward
      have walkedThere := State.walk_snoc walked stepped
      have anchoredThere := anchored_of_move walked anchored (move_of_step stepped)
      simpa using ih walkedThere anchoredThere onward

end Anchors

namespace Halts

variable {limits : Limits} {text taken left : List Char} {last : State}

theorem anchored (halts : Halts limits text taken left last) : last.Anchored limits taken := by
  have start : State.first.walk limits.task [] = some State.first := rfl
  simpa using anchored_of_walk start (anchored_first limits) halts.walked

/-- A state that answers with a fault has failed, or is not complete where it stands. -/
theorem answer_cases (halts : Halts limits text taken left last) {cause : Cause} {position : Nat}
    (answered : (last.closeLiteral limits.task).answer = .error (.fault cause position)) :
    (last.closeLiteral limits.task).phase = .failed (.fault cause position) ∨
      position = taken.length ∧
        (last.phase = .operand ∧ cause = .numberExpected ∨
          (∃ term, (last.closeLiteral limits.task).phase = .operator term) ∧
            cause = .closingExpected) := by
  have stands : (last.closeLiteral limits.task).position = taken.length := by
    rw [State.position_closeLiteral, halts.position]
  cases phase : (last.closeLiteral limits.task).phase with
  | literal start count value => exact absurd phase (State.closeLiteral_ne_literal _ _ _)
  | failed failure =>
      rw [State.answer, phase] at answered
      cases answered
      exact .inl rfl
  | operand =>
      rw [State.answer, phase] at answered
      cases answered
      have awaits : last.phase = .operand := by
        cases before : last.phase with
        | operand => rfl
        | operator | failed =>
            rw [State.closeLiteral_eq_self (by simp [before]), before] at phase
            cases phase
        | literal start count value =>
            obtain ⟨cause, closed⟩ | ⟨term, closed⟩ :=
              State.phase_closeLiteral limits.task before
            · rw [closed] at phase
              cases phase
            · rw [closed] at phase
              cases phase
      exact .inr ⟨stands, .inl ⟨awaits, rfl⟩⟩
  | operator term =>
      rw [State.answer, phase] at answered
      dsimp only at answered
      split at answered
      · cases answered
      · cases answered
        exact .inr ⟨stands, .inr ⟨⟨term, rfl⟩, rfl⟩⟩

/-- The two ways to see a fault. -/
theorem fault_cases (halts : Halts limits text taken left last) {cause : Cause} {position : Nat}
    (failed : last.verdict limits left = .error (.fault cause position)) :
    AwaitsFactorAt limits taken position ∧ cause.category ≠ .malformed ∨
      position = taken.length ∧ cause.category = .malformed ∧
        (last.phase = .operand ∨
          ∃ term, (last.closeLiteral limits.task).phase = .operator term) := by
  rw [State.verdict] at failed
  cases answered : (last.closeLiteral limits.task).answer with
  | error failure =>
      rw [answered] at failed
      cases failed
      rcases halts.answer_cases answered with failed | ⟨here, ⟨phase, rfl⟩ | ⟨phase, rfl⟩⟩
      · exact .inl ((anchored_closeLiteral halts.anchored).failed cause position failed)
      · exact .inr ⟨here, rfl, .inl phase⟩
      · exact .inr ⟨here, rfl, .inr phase⟩
  | ok value =>
      obtain ⟨term, phase, _, _⟩ := State.answer_eq_ok_iff.1 answered
      rw [answered] at failed
      dsimp only at failed
      split at failed
      · cases failed
      · cases failed
        exact .inr ⟨halts.position, rfl, .inr ⟨term, phase⟩⟩

/-- No fault is seen ahead of where the evaluation halts. -/
theorem position_le (halts : Halts limits text taken left last) {cause : Cause} {position : Nat}
    (failed : last.verdict limits left = .error (.fault cause position)) :
    position ≤ taken.length := by
  rcases halts.fault_cases failed with ⟨awaits, _⟩ | ⟨here, _⟩
  · exact awaits.position_le
  · exact Nat.le_of_eq here

end Halts

end Abacus
