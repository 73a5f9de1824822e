/-
Module: Abacus.Proofs.Simulation
Purpose: Two runs that differ only in where things stand go on alike.
Main exports: Failure.Alike, State.Alike, alike_closeLiteral, exists_step_of_alike,
  step_none_of_alike, answer_of_alike, exists_walk_of_alike, verdict_of_alike, evaluate_alike,
  exists_walk_of_evaluate, evaluate_of_walk
-/
import Mathlib.Data.List.Forall2
import Abacus.Proofs.Evaluation

namespace Abacus

/-!
A state remembers positions only in order to blame them: the start of a literal, the parenthesis of
an open group, the place of a fault.  Two states are alike if they agree in everything else and the
positions they remember correspond.  Which positions correspond is a parameter, so that it does not
matter how the texts of the two runs are laid out.
-/

/-- The same failure, at corresponding positions. -/
inductive Failure.Alike (places : Nat → Nat → Prop) : Failure → Failure → Prop where
  | fault (cause : Cause) {here there : Nat} (placed : places here there) :
      Alike places (.fault cause here) (.fault cause there)
  | exhausted : Alike places .exhausted .exhausted

/-- The same has just been read, from corresponding positions. -/
inductive Phase.Alike (places : Nat → Nat → Prop) : Phase → Phase → Prop where
  | operand : Alike places .operand .operand
  | literal {here there : Nat} (placed : places here there) (count value : Nat) :
      Alike places (.literal here count value) (.literal there count value)
  | operator (value : Int) : Alike places (.operator value) (.operator value)
  | failed {one two : Failure} (failure : one.Alike places two) :
      Alike places (.failed one) (.failed two)

/-- The same level is around both groups, and they open at corresponding positions. -/
structure Group.Alike (places : Nat → Nat → Prop) (one two : Group) : Prop where
  outer : one.outer = two.outer
  opening : places one.opening two.opening

/-- The states agree in all but the positions, and those that they remember correspond. -/
structure State.Alike (places : Nat → Nat → Prop) (one two : State) : Prop where
  phase : one.phase.Alike places two.phase
  level : one.level = two.level
  groups : List.Forall₂ (Group.Alike places) one.groups two.groups

/-- The same answer, failures being alike. -/
inductive ResultAlike (places : Nat → Nat → Prop) :
    Except Failure Int → Except Failure Int → Prop where
  | value (value : Int) : ResultAlike places (.ok value) (.ok value)
  | failure {one two : Failure} (failure : one.Alike places two) :
      ResultAlike places (.error one) (.error two)

section Inversions

variable {places : Nat → Nat → Prop} {one two : State}

theorem Phase.Alike.symm {here there : Phase} (alike : here.Alike places there) :
    there.Alike (fun q p => places p q) here := by
  cases alike with
  | operand => exact .operand
  | literal placed count value =>
      apply Phase.Alike.literal
      exact placed
  | operator value => exact .operator value
  | failed failure =>
      apply Phase.Alike.failed
      cases failure with
      | fault cause placed =>
          apply Failure.Alike.fault
          exact placed
      | exhausted => exact .exhausted

theorem State.Alike.symm (alike : one.Alike places two) :
    two.Alike (fun q p => places p q) one where
  phase := alike.phase.symm
  level := alike.level.symm
  groups := by
    apply alike.groups.flip.imp
    intro group other same
    exact ⟨same.outer.symm, same.opening⟩

theorem operand_of_alike (alike : one.Alike places two) (phase : one.phase = .operand) :
    two.phase = .operand := by
  have same := alike.phase
  rw [phase] at same
  generalize two.phase = phaseToo at same ⊢
  cases same
  rfl

theorem operator_of_alike (alike : one.Alike places two) {value : Int}
    (phase : one.phase = .operator value) : two.phase = .operator value := by
  have same := alike.phase
  rw [phase] at same
  generalize two.phase = phaseToo at same ⊢
  cases same
  rfl

theorem literal_of_alike (alike : one.Alike places two) {start count value : Nat}
    (phase : one.phase = .literal start count value) :
    ∃ startToo, two.phase = .literal startToo count value ∧ places start startToo := by
  have same := alike.phase
  rw [phase] at same
  generalize two.phase = phaseToo at same ⊢
  cases same with
  | literal placed => exact ⟨_, rfl, placed⟩

theorem failed_of_alike (alike : one.Alike places two) {failure : Failure}
    (phase : one.phase = .failed failure) :
    ∃ failureToo, two.phase = .failed failureToo ∧ failure.Alike places failureToo := by
  have same := alike.phase
  rw [phase] at same
  generalize two.phase = phaseToo at same ⊢
  cases same with
  | failed failure => exact ⟨_, rfl, failure⟩

/-- A group of one state stands for one of the other. -/
theorem groups_of_alike (alike : one.Alike places two) {group : Group} {groups : List Group}
    (opened : one.groups = group :: groups) :
    ∃ groupToo groupsToo, two.groups = groupToo :: groupsToo ∧ group.Alike places groupToo ∧
      List.Forall₂ (Group.Alike places) groups groupsToo := by
  have same := alike.groups
  rw [opened, List.forall₂_cons_left_iff] at same
  obtain ⟨groupToo, groupsToo, first, others, openedToo⟩ := same
  exact ⟨groupToo, groupsToo, openedToo, first, others⟩

theorem isEmpty_groups_of_alike (alike : one.Alike places two) :
    one.groups.isEmpty = two.groups.isEmpty := by
  have same := alike.groups
  generalize one.groups = here at same ⊢
  generalize two.groups = there at same ⊢
  cases same with
  | nil => rfl
  | cons first others => rfl

end Inversions

section Steps

variable {places : Nat → Nat → Prop} {task : Task} {one two next : State} {c : Char}

/-- The same factor is complete in both states. -/
theorem alike_factorRead (level : one.level = two.level)
    (groups : List.Forall₂ (Group.Alike places) one.groups two.groups) {start startToo : Nat}
    (placed : places start startToo) (factor : Int) :
    (one.factorRead start factor).Alike places (two.factorRead startToo factor) := by
  cases multiplied : one.level.multiply? factor with
  | none =>
      have multipliedToo : two.level.multiply? factor = none := by rw [← level, multiplied]
      rw [State.factorRead_of_none multiplied, State.factorRead_of_none multipliedToo]
      exact ⟨.failed (.fault .zeroDivisor placed), level, groups⟩
  | some value =>
      have multipliedToo : two.level.multiply? factor = some value := by rw [← level, multiplied]
      rw [State.factorRead_of_some multiplied, State.factorRead_of_some multipliedToo]
      exact ⟨.operator value, by rw [level], groups⟩

/-- The same literal is complete in both states. -/
theorem alike_closeLiteral (alike : one.Alike places two) :
    (one.closeLiteral task).Alike places (two.closeLiteral task) := by
  cases phase : one.phase with
  | operand =>
      have phaseToo := operand_of_alike alike phase
      rw [State.closeLiteral_eq_self (by simp [phase]),
        State.closeLiteral_eq_self (by simp [phaseToo])]
      exact alike
  | operator value =>
      have phaseToo := operator_of_alike alike phase
      rw [State.closeLiteral_eq_self (by simp [phase]),
        State.closeLiteral_eq_self (by simp [phaseToo])]
      exact alike
  | failed failure =>
      obtain ⟨failureToo, phaseToo, _⟩ := failed_of_alike alike phase
      rw [State.closeLiteral_eq_self (by simp [phase]),
        State.closeLiteral_eq_self (by simp [phaseToo])]
      exact alike
  | literal start count value =>
      obtain ⟨startToo, phaseToo, placed⟩ := literal_of_alike alike phase
      cases refusal : State.literalRefusal? task.limits count with
      | none =>
          rw [State.closeLiteral_of_accepted phase refusal,
            State.closeLiteral_of_accepted phaseToo refusal]
          exact alike_factorRead alike.level alike.groups placed value
      | some cause =>
          rw [State.closeLiteral_of_refused phase refusal,
            State.closeLiteral_of_refused phaseToo refusal]
          exact ⟨.failed (.fault cause placed), alike.level, alike.groups⟩

/-- Groups are opened alike at corresponding positions. -/
theorem alike_openGroup (alike : one.Alike places two)
    (placed : places one.position two.position) :
    (one.openGroup task).Alike places (two.openGroup task) := by
  have deeper : one.inside.depth task = two.inside.depth task := by
    simp only [State.depth, State.inside, List.length_cons, alike.groups.length_eq]
  have groups : List.Forall₂ (Group.Alike places) one.inside.groups two.inside.groups :=
    .cons ⟨alike.level, placed⟩ alike.groups
  have full := groups.length_eq
  simp only [State.inside] at deeper groups full
  unfold State.openGroup
  simp only [deeper, full]
  split
  · exact ⟨.failed (.fault _ placed), rfl, groups⟩
  · split
    · exact ⟨.failed .exhausted, rfl, groups⟩
    · exact ⟨.operand, rfl, groups⟩

theorem allows_of_alike (alike : one.Alike places two) (offered : Bool) :
    one.allows offered = two.allows offered := by
  rw [State.allows, State.allows, isEmpty_groups_of_alike alike]

/-- One character does the same to both states.  Where it starts a literal or a group, it has to
stand at corresponding positions. -/
theorem exists_step_of_alike (alike : one.Alike places two)
    (placed : places one.position two.position) (stepped : one.step task c = some next) :
    ∃ other, two.step task c = some other ∧ next.Alike places other := by
  have closed : (one.closeLiteral task).Alike places (two.closeLiteral task) :=
    alike_closeLiteral alike
  cases move_of_step stepped with
  | blankBefore phase blank =>
      have phaseToo := operand_of_alike alike phase
      exact ⟨_, step_of_move (.blankBefore phaseToo blank), alike.phase, alike.level, alike.groups⟩
  | firstDigit phase digit =>
      have phaseToo := operand_of_alike alike phase
      exact ⟨_, step_of_move (.firstDigit phaseToo digit), .literal placed 1 _, alike.level,
        alike.groups⟩
  | opening phase allowed =>
      have phaseToo := operand_of_alike alike phase
      rw [allows_of_alike alike] at allowed
      exact ⟨_, step_of_move (.opening phaseToo allowed), alike_openGroup alike placed⟩
  | nextDigit phase digit =>
      obtain ⟨startToo, phaseToo, started⟩ := literal_of_alike alike phase
      exact ⟨_, step_of_move (.nextDigit phaseToo digit), .literal started _ _, alike.level,
        alike.groups⟩
  | blankAfter phase allowed blank =>
      have phaseToo := operator_of_alike closed phase
      rw [allows_of_alike alike] at allowed
      exact ⟨_, step_of_move (.blankAfter phaseToo allowed blank), closed.phase, closed.level,
        closed.groups⟩
  | product op phase allowed =>
      have phaseToo := operator_of_alike closed phase
      rw [allows_of_alike alike] at allowed
      refine ⟨_, step_of_move (.product op phaseToo allowed), .operand, ?_, closed.groups⟩
      rw [closed.level]
  | sum op phase allowed =>
      have phaseToo := operator_of_alike closed phase
      rw [allows_of_alike alike] at allowed
      refine ⟨_, step_of_move (.sum op phaseToo allowed), .operand, ?_, closed.groups⟩
      rw [closed.level]
  | closing phase opened =>
      have phaseToo := operator_of_alike closed phase
      obtain ⟨groupToo, groupsToo, openedToo, same, others⟩ := groups_of_alike alike opened
      refine ⟨_, step_of_move (.closing phaseToo openedToo), ?_⟩
      rw [closed.level]
      exact alike_factorRead same.outer others same.opening _

/-- What one state refuses, the other does too. -/
theorem step_none_of_alike (alike : one.Alike places two)
    (placed : places one.position two.position) (refused : one.step task c = none) :
    two.step task c = none := by
  cases stepped : two.step task c with
  | none => rfl
  | some next =>
      obtain ⟨other, steppedToo, _⟩ := exists_step_of_alike alike.symm placed stepped
      rw [refused] at steppedToo
      cases steppedToo

/-- States without a literal answer alike where they stand at corresponding positions. -/
theorem answer_of_alike (alike : one.Alike places two)
    (placed : places one.position two.position)
    (complete : ∀ start count value, one.phase ≠ .literal start count value) :
    ResultAlike places one.answer two.answer := by
  cases phase : one.phase with
  | literal start count value => exact absurd phase (complete start count value)
  | operand =>
      have phaseToo := operand_of_alike alike phase
      simp only [State.answer, phase, phaseToo]
      exact .failure (.fault _ placed)
  | failed failure =>
      obtain ⟨failureToo, phaseToo, same⟩ := failed_of_alike alike phase
      simp only [State.answer, phase, phaseToo]
      exact .failure same
  | operator value =>
      have phaseToo := operator_of_alike alike phase
      simp only [State.answer, phase, phaseToo, isEmpty_groups_of_alike alike, alike.level]
      split
      · exact .value _
      · exact .failure (.fault _ placed)

end Steps

/-! ### The same text behind both states -/

section Walks

variable {places : Nat → Nat → Prop} {task : Task} {one two last : State}

/-- Alike states walk alike over the same text, if all positions from theirs on correspond. -/
theorem exists_walk_of_alike {cs : List Char} (alike : one.Alike places two)
    (placed : ∀ count, places (one.position + count) (two.position + count))
    (walked : one.walk task cs = some last) :
    ∃ other, two.walk task cs = some other ∧ last.Alike places other := by
  induction cs generalizing one two with
  | nil =>
      cases walked
      exact ⟨two, rfl, alike⟩
  | cons c cs ih =>
      obtain ⟨middle, stepped, onward⟩ := Option.bind_eq_some_iff.1 walked
      obtain ⟨middleToo, steppedToo, alikeThere⟩ := exists_step_of_alike alike (placed 0) stepped
      have placedThere : ∀ count,
          places (middle.position + count) (middleToo.position + count) := by
        intro count
        rw [State.position_step stepped, State.position_step steppedToo, Nat.add_assoc,
          Nat.add_assoc]
        exact placed (1 + count)
      obtain ⟨other, walkedToo, alikeLast⟩ := ih alikeThere placedThere onward
      exact ⟨other, State.walk_cons steppedToo walkedToo, alikeLast⟩

/-- Alike states see the same in the text behind them. -/
theorem verdict_of_alike {limits : Limits} (alike : one.Alike places two)
    (placed : places one.position two.position) (left : List Char) :
    ResultAlike places (one.verdict limits left) (two.verdict limits left) := by
  have closed : (one.closeLiteral limits.task).Alike places (two.closeLiteral limits.task) :=
    alike_closeLiteral alike
  have answers : ResultAlike places (one.closeLiteral limits.task).answer
      (two.closeLiteral limits.task).answer := by
    apply answer_of_alike closed
    · simpa using placed
    · exact State.closeLiteral_ne_literal
  unfold State.verdict
  generalize (one.closeLiteral limits.task).answer = result at answers ⊢
  generalize (two.closeLiteral limits.task).answer = resultToo at answers ⊢
  cases answers with
  | failure failure => exact .failure failure
  | value value =>
      dsimp only
      split
      · exact .value value
      · exact .failure (.fault _ placed)

/-- Evaluations that come to alike states in front of the same text end alike. -/
theorem evaluate_alike {limits : Limits} {text other : String} {head headToo rest : List Char}
    (split : text.toList = head ++ rest) (splitToo : other.toList = headToo ++ rest)
    (walked : State.first.walk limits.task head = some one)
    (walkedToo : State.first.walk limits.task headToo = some two) (alike : one.Alike places two)
    (placed : ∀ count, places (head.length + count) (headToo.length + count)) :
    ResultAlike places (evaluate text limits) (evaluate other limits) := by
  have here : one.position = head.length := State.position_walk_first walked
  have there : two.position = headToo.length := State.position_walk_first walkedToo
  obtain ⟨taken, left, last, splitRest, onward, _, refused⟩ :=
    exists_walk_of_run limits.task one rest
  obtain ⟨lastToo, onwardToo, alikeLast⟩ :=
    exists_walk_of_alike alike (by rw [here, there]; exact placed) onward
  have placedLast : places last.position lastToo.position := by
    rw [State.position_walk onward, State.position_walk onwardToo, here, there]
    exact placed taken.length
  have halts : Halts limits text.toList (head ++ taken) left last := by
    refine ⟨?_, ?_, refused⟩
    · rw [split, splitRest, List.append_assoc]
    · exact State.walk_trans walked onward
  have haltsToo : Halts limits other.toList (headToo ++ taken) left lastToo := by
    refine ⟨?_, ?_, ?_⟩
    · rw [splitToo, splitRest, List.append_assoc]
    · exact State.walk_trans walkedToo onwardToo
    · intro c head
      exact step_none_of_alike alikeLast placedLast (refused c head)
  rw [evaluate_eq_verdict halts, evaluate_eq_verdict haltsToo]
  exact verdict_of_alike alikeLast placedLast left

/-- A text with a value leads to a whole factor with that value, wherever it starts. -/
theorem exists_walk_of_evaluate {limits : Limits} {text : String} {value : Int}
    (evaluated : evaluate text limits = .ok value) (start : Nat) :
    ∃ last term, ({ position := start } : State).walk limits.task text.toList = some last ∧
      (last.closeLiteral limits.task).phase = .operator term ∧ last.groups = [] ∧
        (last.closeLiteral limits.task).level.total term = value := by
  obtain ⟨taken, left, last, halts⟩ := exists_halts limits text.toList
  rw [evaluate_eq_verdict halts] at evaluated
  obtain ⟨rfl, answered⟩ := State.verdict_eq_ok_iff.1 evaluated
  obtain ⟨term, phase, groups, total⟩ := State.answer_eq_ok_iff.1 answered
  have alike : State.first.Alike (fun here there => there = start + here) { position := start } :=
    ⟨.operand, rfl, .nil⟩
  have walked : State.first.walk limits.task text.toList = some last := by
    rw [halts.split, List.append_nil]
    exact halts.walked
  obtain ⟨other, walkedToo, alikeLast⟩ :=
    exists_walk_of_alike alike (fun count => by simp [State.first]) walked
  have closed : (last.closeLiteral limits.task).Alike _ (other.closeLiteral limits.task) :=
    alike_closeLiteral alikeLast
  refine ⟨other, term, walkedToo, operator_of_alike closed phase, ?_, ?_⟩
  · have same := closed.groups
    rw [groups, List.forall₂_nil_left_iff, State.groups_closeLiteral] at same
    exact same
  · rw [← closed.level]
    exact total

/-- A text that leads to a whole factor has its value, wherever it starts. -/
theorem evaluate_of_walk {limits : Limits} {text : String} {start : Nat} {last : State} {term : Int}
    (walked : ({ position := start } : State).walk limits.task text.toList = some last)
    (phase : (last.closeLiteral limits.task).phase = .operator term) (groups : last.groups = []) :
    evaluate text limits = .ok ((last.closeLiteral limits.task).level.total term) := by
  have alike : ({ position := start } : State).Alike (fun here there => here = start + there)
      State.first := ⟨.operand, rfl, .nil⟩
  obtain ⟨other, walkedToo, alikeLast⟩ :=
    exists_walk_of_alike alike (fun count => by simp [State.first]) walked
  have closed : (last.closeLiteral limits.task).Alike _ (other.closeLiteral limits.task) :=
    alike_closeLiteral alikeLast
  have halts : Halts limits text.toList text.toList [] other :=
    ⟨by simp, walkedToo, by simp⟩
  have none : (other.closeLiteral limits.task).groups = [] := by
    have same := closed.groups
    rw [State.groups_closeLiteral, groups, List.forall₂_nil_left_iff] at same
    exact same
  rw [evaluate_eq_verdict halts, closed.level]
  exact State.verdict_eq_ok_iff.2 ⟨rfl, State.answer_eq_ok_iff.2
    ⟨term, operator_of_alike closed phase, none, rfl⟩⟩

end Walks

end Abacus
