/-
Module: Abacus.Proofs.Substitution
Purpose: A group can be replaced by another one with the same value.
Main exports: halts_before_or_awaits, walk_group_or_tooDeep, BesideGroup, evaluate_of_equal_groups
-/
import Abacus.Proofs.Frame
import Abacus.Proofs.Locality
import Abacus.Proofs.Reading
import Abacus.Proofs.Simulation

namespace Abacus

/-!
The text before a group is arbitrary.  Either it stops the evaluation in front of the parenthesis,
and then the group does not matter.  Or a factor is awaited there, and the whole group becomes that
factor: what is inside is walked over as it would be on its own, with more groups around it.  From
there on the two evaluations are in states that differ in positions alone.
-/

section Groups

variable {limits : Limits} {state : State}

/-- The text before a parenthesis stops every evaluation that goes on with the parenthesis, or
leads to a state that awaits a factor. -/
theorem halts_before_or_awaits (limits : Limits) (before : List Char) :
    (∃ taken left last, left ≠ [] ∧ taken.length ≤ before.length ∧
      ∀ rest, Halts limits (before ++ '(' :: rest) taken (left ++ rest) last) ∨
    ∃ state, State.first.walk limits.task before = some state ∧ state.phase = .operand := by
  obtain ⟨taken, left, last, split, walked, _, refused⟩ :=
    exists_walk_of_run limits.task .first (before ++ ['('])
  by_cases whole : left = []
  · right
    rw [whole, List.append_nil] at split
    rw [← split, State.walk_append] at walked
    obtain ⟨state, reached, onward⟩ := Option.bind_eq_some_iff.1 walked
    obtain ⟨next, stepped, _⟩ := Option.bind_eq_some_iff.1 onward
    exact ⟨state, reached, (opening_of_move (move_of_step stepped)).1⟩
  · left
    refine ⟨taken, left, last, whole, ?_, ?_⟩
    · have lengths := congrArg List.length split
      have long := List.length_pos_iff.2 whole
      rw [List.length_append, List.length_append, List.length_singleton] at lengths
      omega
    · intro rest
      have splitRest : before ++ '(' :: rest = taken ++ (left ++ rest) := by
        rw [← List.append_assoc, ← split, List.append_assoc, List.singleton_append]
      refine ⟨splitRest, walked, ?_⟩
      rw [List.head?_append_of_ne_nil left whole]
      exact refused

/-- A group around a text with a value is a factor with that value, unless it is too deep there. -/
theorem walk_group_or_tooDeep {text : String} {value : Int} (phase : state.phase = .operand)
    (evaluated : evaluate text limits = .ok value) :
    state.walk limits.task ('(' :: (text.toList ++ [')'])) =
        some ((state.forward (text.toList.length + 2)).factorRead state.position value) ∨
      ∃ taken left cut failure, '(' :: (text.toList ++ [')']) = taken ++ left ∧
        state.walk limits.task taken = some cut ∧ cut.phase = .failed failure ∧
          failure.TooDeep := by
  have opening : Move limits.task state '(' (state.openGroup limits.task) := .opening phase rfl
  have opened := step_of_move opening
  by_cases fits : limits.Accommodates (state.groups.length + 1)
  · rw [State.openGroup_of_accommodates fits] at opened
    obtain ⟨last, term, walked, phaseLast, none, total⟩ :=
      exists_walk_of_evaluate evaluated (state.position + 1)
    obtain ⟨group, groupEq⟩ : ∃ group : Group,
        group = { outer := state.level, opening := state.position } := ⟨_, rfl⟩
    have entered : state.inside =
        ({ position := state.position + 1 } : State).within (group :: state.groups) := by
      rw [groupEq]
      rfl
    rw [entered] at opened
    rcases walk_within_or_tooDeep walked (group :: state.groups) with
      walkedThere | ⟨taken, left, cut, failure, split, reached, failed, deep⟩
    · left
      have closes := step_closing_frame phaseLast none group state.groups
      rw [total] at closes
      rw [State.walk, opened, Option.bind_some, State.walk_append, walkedThere, Option.bind_some,
        State.walk, closes, Option.bind_some, State.walk, groupEq]
      congr 1
      apply factorRead_congr
      · have position := State.position_walk walked
        simp only [State.position_advance, State.position_forward, position]
        omega
      · rfl
      · rfl
    · right
      refine ⟨'(' :: taken, left ++ [')'], cut, failure, ?_, ?_, failed, deep⟩
      · rw [split, List.append_assoc, List.cons_append]
      · exact State.walk_cons opened reached
  · right
    obtain ⟨failure, failed, deep⟩ := State.openGroup_of_not_accommodates fits
    refine ⟨['('], text.toList ++ [')'], _, failure, rfl, ?_, failed, deep⟩
    rw [State.walk, opened]
    rfl

end Groups

/-! ### Two texts that differ in a group -/

/-- Positions in two texts that differ in a group with such contents: they stand up to the group,
or equally far behind it. -/
def BesideGroup (opening inner innerToo : Nat) (here there : Nat) : Prop :=
  here = there ∧ here ≤ opening ∨
    opening + inner + 2 ≤ here ∧ here + innerToo = there + inner

section Texts

variable {limits : Limits} {state last : State} {left : List Char}

/-- In front of other characters the same state stops for the same reason, quotations apart. -/
theorem verdicts_of_halts_before {text taken more moreToo : List Char} (nonempty : left ≠ [])
    (halts : Halts limits text taken (left ++ more) last)
    (deepEnough : ∀ failure, last.verdict limits (left ++ more) = .error failure →
      ¬ failure.TooDeep) :
    ∃ cause position, last.verdict limits (left ++ more) = .error (.fault cause position) ∧
      last.verdict limits (left ++ moreToo) =
        .error (.fault (cause.requote (left ++ moreToo)) position) ∧ position ≤ taken.length := by
  have some : left ++ more ≠ [] := by simp [nonempty]
  have someToo : left ++ moreToo ≠ [] := by simp [nonempty]
  cases found : last.verdict limits (left ++ more) with
  | ok value =>
      obtain ⟨nothing, _⟩ := State.verdict_eq_ok_iff.1 found
      exact absurd nothing some
  | error failure =>
      cases failure with
      | exhausted => exact absurd (.inl rfl) (deepEnough _ found)
      | fault cause position =>
          exact ⟨cause, position, rfl, halts.verdict_requote some someToo found,
            halts.position_le found⟩

theorem toList_group (before text after : String) :
    (before ++ "(" ++ text ++ ")" ++ after).toList =
      before.toList ++ '(' :: (text.toList ++ ')' :: after.toList) := by
  simp [String.toList_append]

/-- Where a factor is awaited, the evaluation passes a group around a text with a value. -/
theorem walk_past_group {before text after : String} {value : Int}
    (walked : State.first.walk limits.task before.toList = some state)
    (phase : state.phase = .operand) (evaluated : evaluate text limits = .ok value)
    (deepEnough : ∀ failure,
      evaluate (before ++ "(" ++ text ++ ")" ++ after) limits = .error failure →
        ¬ failure.TooDeep) :
    State.first.walk limits.task (before.toList ++ '(' :: (text.toList ++ [')'])) =
      some ((state.forward (text.toList.length + 2)).factorRead before.toList.length value) := by
  have position : state.position = before.toList.length := State.position_walk_first walked
  rcases walk_group_or_tooDeep phase evaluated with
    passed | ⟨taken, left, cut, failure, split, reached, failed, deep⟩
  · rw [State.walk_append, walked, Option.bind_some, passed, position]
  · -- The evaluation of the whole text ends where the walk does.
    have halts : Halts limits (before ++ "(" ++ text ++ ")" ++ after).toList
        (before.toList ++ taken) (left ++ after.toList) cut := by
      refine ⟨?_, ?_, ?_⟩
      · rw [toList_group, List.append_assoc, ← List.append_assoc taken, ← split]
        simp
      · exact State.walk_trans walked reached
      · intro c _
        rw [State.step, failed]
    have closed : (cut.closeLiteral limits.task).phase = .failed failure := by
      rw [State.closeLiteral_eq_self (by simp [failed])]
      exact failed
    refine absurd deep (deepEnough failure ?_)
    rw [evaluate_eq_verdict halts]
    exact verdict_of_failed _ closed

/-- Behind two groups with the same value the evaluations differ in positions alone. -/
theorem alike_behind_group {before : List Char}
    (walked : State.first.walk limits.task before = some state) (inner innerToo : Nat)
    (value : Int) :
    ((state.forward (inner + 2)).factorRead before.length value).Alike
      (BesideGroup before.length inner innerToo)
      ((state.forward (innerToo + 2)).factorRead before.length value) := by
  have anchored : state.Anchored limits before := by
    simpa using anchored_of_walk rfl (anchored_first limits) walked
  apply alike_factorRead
  · rfl
  · rw [State.groups_forward, State.groups_forward, List.forall₂_same]
    intro group mem
    exact ⟨rfl, .inl ⟨rfl, (anchored.groups group mem).position_le⟩⟩
  · exact .inl ⟨rfl, Nat.le_refl _⟩

end Texts

/-- **Equals can be substituted.**  Where two texts have the same value, a group around the one can
be replaced by a group around the other, in whatever text it stands.  Unless the whole then nests
too deep, both texts have the same value, or both fail with the same category, at the same position
if that is not behind the group, and otherwise at positions equally far behind it. -/
theorem evaluate_of_equal_groups (before text other after : String) (limits : Limits) (value : Int)
    (evaluated : evaluate text limits = .ok value)
    (evaluatedToo : evaluate other limits = .ok value)
    (deepEnough : ∀ failure,
      evaluate (before ++ "(" ++ text ++ ")" ++ after) limits = .error failure → ¬ failure.TooDeep)
    (deepEnoughToo : ∀ failure,
      evaluate (before ++ "(" ++ other ++ ")" ++ after) limits = .error failure →
        ¬ failure.TooDeep) :
    (∃ result, evaluate (before ++ "(" ++ text ++ ")" ++ after) limits = .ok result ∧
      evaluate (before ++ "(" ++ other ++ ")" ++ after) limits = .ok result) ∨
    ∃ cause causeToo here there,
      evaluate (before ++ "(" ++ text ++ ")" ++ after) limits = .error (.fault cause here) ∧
        evaluate (before ++ "(" ++ other ++ ")" ++ after) limits =
          .error (.fault causeToo there) ∧
        causeToo.category = cause.category ∧
          BesideGroup before.toList.length text.toList.length other.toList.length here there := by
  rcases halts_before_or_awaits limits before.toList with
    ⟨taken, left, last, nonempty, short, halts⟩ | ⟨state, walked, phase⟩
  · -- The group is never reached.
    have haltsHere := halts (text.toList ++ ')' :: after.toList)
    have haltsThere := halts (other.toList ++ ')' :: after.toList)
    rw [← toList_group] at haltsHere haltsThere
    rw [evaluate_eq_verdict haltsHere] at deepEnough ⊢
    rw [evaluate_eq_verdict haltsThere]
    obtain ⟨cause, position, found, foundToo, low⟩ :=
      verdicts_of_halts_before nonempty haltsHere deepEnough
    exact .inr ⟨cause, _, position, position, found, foundToo, cause.category_requote _,
      .inl ⟨rfl, Nat.le_trans low short⟩⟩
  · have passed := walk_past_group walked phase evaluated deepEnough
    have passedToo := walk_past_group walked phase evaluatedToo deepEnoughToo
    have alike := alike_behind_group walked text.toList.length other.toList.length value
    have ends : ResultAlike
        (BesideGroup before.toList.length text.toList.length other.toList.length)
        (evaluate (before ++ "(" ++ text ++ ")" ++ after) limits)
        (evaluate (before ++ "(" ++ other ++ ")" ++ after) limits) := by
      apply evaluate_alike _ _ passed passedToo alike
      · intro count
        simp only [List.length_append, List.length_cons, List.length_nil]
        exact .inr (by omega)
      · exact after.toList
      · rw [toList_group]
        simp
      · rw [toList_group]
        simp
    generalize evaluate (before ++ "(" ++ text ++ ")" ++ after) limits = result at ends deepEnough ⊢
    generalize evaluate (before ++ "(" ++ other ++ ")" ++ after) limits = resultToo at ends ⊢
    cases ends with
    | value result => exact .inl ⟨result, rfl, rfl⟩
    | failure same =>
        cases same with
        | exhausted => exact absurd (.inl rfl) (deepEnough _ rfl)
        | fault cause position => exact .inr ⟨cause, cause, _, _, rfl, rfl, rfl, position⟩

/-- A divisor becomes a quotient itself, in front of an operator without its right-hand side. -/
theorem evaluate_of_equal_groups_divisor :
    evaluate "3*1" = .ok 3 ∧ evaluate "(9)/ 3" = .ok 3 ∧
      evaluate "12/(3*1)+x" = .error (.fault .numberExpected 9) ∧
        ∃ cause there, evaluate "12/((9)/ 3)+x" = .error (.fault cause there) ∧
          cause.category = .malformed ∧ BesideGroup 3 3 6 9 there := by
  have evaluated : evaluate "3*1" = .ok 3 := by rfl
  have evaluatedToo : evaluate "(9)/ 3" = .ok 3 := by rfl
  have failed : evaluate ("12/" ++ "(" ++ "3*1" ++ ")" ++ "+x") =
      .error (.fault .numberExpected 9) := by rfl
  have failedToo : evaluate ("12/" ++ "(" ++ "(9)/ 3" ++ ")" ++ "+x") =
      .error (.fault .numberExpected 12) := by rfl
  have deepEnough : ∀ {result : Except Failure Int} {position : Nat},
      result = .error (.fault .numberExpected position) →
        ∀ failure, result = .error failure → ¬ failure.TooDeep := by
    rintro _ position rfl failure same
    cases same
    simp [Failure.TooDeep]
  refine ⟨evaluated, evaluatedToo, failed, ?_⟩
  rcases evaluate_of_equal_groups "12/" "3*1" "(9)/ 3" "+x" {} 3 evaluated evaluatedToo
      (deepEnough failed) (deepEnough failedToo) with
    ⟨value, found, _⟩ | ⟨cause, causeToo, here, there, found, foundToo, same, beside⟩
  · rw [failed] at found
    cases found
  · rw [failed] at found
    cases found
    exact ⟨causeToo, there, foundToo, same, beside⟩

end Abacus
