/-
Module: Abacus.Proofs.Trace
Purpose: What is being read can be cut out of the text and read on its own.
Main exports: AwaitsOn, State.InLiteral, State.InGroup, State.Traced, traced_of_move, traced_of_walk
-/
import Abacus.Proofs.Frame
import Abacus.Proofs.Spelling

namespace Abacus

/-!
A state that reads a literal, or is inside groups, has come past the place where that factor starts.
The text splits there: what stands before leads to a state that awaits the factor, on the level that
the machine goes back to, and what stands behind is read on its own as it is in its place.  This is
so of each open group, and every character keeps it so of all groups but the one it closes.
-/

/-- Behind the text a factor must start, on that level. -/
def AwaitsOn (limits : Limits) (head : List Char) (level : Level) : Prop :=
  ∃ before, State.first.walk limits.task head = some before ∧ before.phase = .operand ∧
    before.level = level

/-- The text ends with the digits of a literal that starts there. -/
def State.InLiteral (limits : Limits) (text : List Char) (start count value : Nat)
    (state : State) : Prop :=
  ∃ head digits, text = head ++ digits ∧ head.length = start ∧ AwaitsOn limits head state.level ∧
    (Phrase.number [] digits).Legal ∧ digits.length = count ∧ Phrase.literalValue digits = value

/-- The text ends with a part that starts with the parenthesis of the group.  On its own it leads to
the same state but for the groups and the level around it. -/
def State.InGroup (limits : Limits) (text : List Char) (group : Group) (groups : List Group)
    (state : State) : Prop :=
  ∃ (head body : List Char) (inner : State), text = head ++ '(' :: body ∧
    head.length = group.opening ∧ AwaitsOn limits head group.outer ∧
      ({ position := head.length } : State).walk limits.task ('(' :: body) =
        some (inner.within [{ outer := {}, opening := head.length }]) ∧
        state = inner.within (group :: groups)

/-- The literal that is being read, and every open group, can be cut out of the text. -/
structure State.Traced (limits : Limits) (text : List Char) (state : State) : Prop where
  literal : ∀ start count value, state.phase = .literal start count value →
    state.InLiteral limits text start count value
  groups : ∀ own group groups, state.groups = own ++ group :: groups →
    state.InGroup limits text group groups

section Traces

variable {limits : Limits} {text : List Char} {state next last : State} {c : Char}
  {group : Group} {groups : List Group}

theorem traced_first (limits : Limits) : State.first.Traced limits [] where
  literal := by simp [State.first]
  groups := by simp [State.first]

/-- Behind a digit there is a literal that ends with it. -/
theorem inLiteral_of_move (walked : State.first.walk limits.task text = some state)
    (traced : state.Traced limits text) (move : Move limits.task state c next)
    {start count value : Nat} (phase : next.phase = .literal start count value) :
    next.InLiteral limits (text ++ [c]) start count value := by
  cases digit : Text.digitValue? c with
  | none =>
      exact absurd phase (phase_ne_literal_of_step digit (step_of_move move) start count value)
  | some d =>
      have isDigit : Text.isDigit c = true := by simp [Text.isDigit, digit]
      rcases digit_of_move digit move with
        ⟨operand, rfl⟩ | ⟨startBefore, countBefore, valueBefore, literal, rfl⟩
      · cases phase
        have position := State.position_walk_first walked
        exact ⟨text, [c], rfl, position.symm, ⟨state, walked, operand, rfl⟩,
          ⟨allBlank_nil, by simp, by simp [isDigit]⟩, rfl, by simp [Phrase.literalValue, digit]⟩
      · cases phase
        obtain ⟨head, digits, rfl, length, awaits, ⟨_, nonempty, allDigits⟩, rfl, rfl⟩ :=
          traced.literal _ _ _ literal
        exact ⟨head, digits ++ [c], by simp, length, awaits,
          ⟨allBlank_nil, by simp, forall_mem_append_singleton allDigits isDigit⟩, by simp,
          literalValue_append_singleton digits digit⟩

/-- A character that does not close the group is read inside it as it is on its own. -/
theorem inGroup_of_move (within : state.InGroup limits text group groups)
    (move : Move limits.task state c next) (unfailed : ∀ failure, next.phase ≠ .failed failure)
    (kept : c = ')' → state.groups ≠ group :: groups) :
    next.InGroup limits (text ++ [c]) group groups := by
  obtain ⟨head, body, inner, rfl, length, awaits, alone, rfl⟩ := within
  have keptHere : c = ')' → inner.groups ≠ [] := by
    rintro closes none
    apply kept closes
    rw [State.groups_within, none, List.nil_append]
  obtain ⟨after, moved, rfl, fits⟩ := move.of_within unfailed keptHere
  have movedAlone : Move limits.task (inner.within [{ outer := {}, opening := head.length }]) c
      (after.within [{ outer := {}, opening := head.length }]) := by
    apply moved.within
    intro opens
    apply (fits opens).mono
    simp
  refine ⟨head, body ++ [c], after, by simp, length, awaits, ?_, rfl⟩
  exact State.walk_snoc alone (step_of_move movedAlone)

/-- A parenthesis that opens a group is read as it is on its own. -/
theorem inGroup_opening (walked : State.first.walk limits.task text = some state)
    (phase : state.phase = .operand)
    (unfailed : ∀ failure, (state.openGroup limits.task).phase ≠ .failed failure) :
    (state.openGroup limits.task).InGroup limits (text ++ ['('])
      { outer := state.level, opening := state.position } state.groups := by
  have fits := State.accommodates_of_openGroup unfailed
  have position : text.length = state.position := (State.position_walk_first walked).symm
  have move : Move limits.task { position := text.length } '(' _ := .opening rfl rfl
  have fitsAlone : limits.Accommodates (([] : List Group).length + 1) := fits.mono (by simp)
  rw [State.openGroup_of_accommodates fitsAlone] at move
  rw [State.openGroup_of_accommodates fits]
  refine ⟨text, [], { position := state.position + 1 }, rfl, position,
    ⟨state, walked, phase, rfl⟩, ?_, rfl⟩
  rw [State.walk, step_of_move move, ← position]
  rfl

/-- One character keeps the traces of a state. -/
theorem traced_of_move (walked : State.first.walk limits.task text = some state)
    (traced : state.Traced limits text) (move : Move limits.task state c next)
    (unfailed : ∀ failure, next.phase ≠ .failed failure) : next.Traced limits (text ++ [c]) where
  literal := fun _ _ _ phase => inLiteral_of_move walked traced move phase
  groups := by
    intro own group groups opened
    rcases groups_cases_of_move move with
      ⟨same, _, other⟩ | ⟨rfl, phase, rfl⟩ | ⟨rfl, closed, split⟩
    · have within := traced.groups own group groups (same.symm.trans opened)
      exact inGroup_of_move within move unfailed (fun closes => absurd closes other)
    · rw [State.groups_openGroup] at opened
      cases own with
      | nil =>
          obtain ⟨rfl, rfl⟩ := List.cons.inj opened
          exact inGroup_opening walked phase unfailed
      | cons first own =>
          have within := traced.groups own group groups (List.cons.inj opened).2
          exact inGroup_of_move within move unfailed (fun closes => by cases closes)
    · -- The group that is closed was inside all that remain.
      rw [opened] at split
      have within := traced.groups (closed :: own) group groups split
      refine inGroup_of_move within move unfailed (fun _ same => ?_)
      rw [split] at same
      have lengths := congrArg List.length same
      simp at lengths
      omega

theorem traced_append_of_walk {more : List Char}
    (walked : State.first.walk limits.task text = some state) (traced : state.Traced limits text)
    (onward : state.walk limits.task more = some last)
    (unfailed : ∀ failure, last.phase ≠ .failed failure) : last.Traced limits (text ++ more) := by
  induction more generalizing state text with
  | nil =>
      cases onward
      simpa using traced
  | cons c more ih =>
      obtain ⟨middle, stepped, onward⟩ := Option.bind_eq_some_iff.1 onward
      have unfailedThere : ∀ failure, middle.phase ≠ .failed failure := by
        intro failure failed
        cases more with
        | nil =>
            cases onward
            exact unfailed failure failed
        | cons d more =>
            obtain ⟨_, steppedToo, _⟩ := Option.bind_eq_some_iff.1 onward
            rw [State.step, failed] at steppedToo
            cases steppedToo
      have tracedThere := traced_of_move walked traced (move_of_step stepped) unfailedThere
      simpa using ih (State.walk_snoc walked stepped) tracedThere onward

/-- Every state that an evaluation comes to without a fault has its traces. -/
theorem traced_of_walk (walked : State.first.walk limits.task text = some state)
    (unfailed : ∀ failure, state.phase ≠ .failed failure) : state.Traced limits text := by
  have start : State.first.walk limits.task [] = some State.first := rfl
  simpa using traced_append_of_walk start (traced_first limits) walked unfailed

end Traces

end Abacus
