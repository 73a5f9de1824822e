/-
Module: Abacus.Proofs.Positions
Purpose: What stands at the position of a fault.
Main exports: DigitRun, Cause.PointsAt, Halts.pointsAt, tryEvaluate_failed
-/
import Abacus.Outcome
import Abacus.Proofs.Depth
import Abacus.Proofs.Divisors
import Abacus.Proofs.Faults
import Abacus.Proofs.Simulation
import Abacus.Proofs.Trace

namespace Abacus

/-!
A fault is blamed on a part of the text: what stands between its position and the place where the
evaluation has halted.  That part is empty where the text is malformed, a literal or a parenthesis
where a limit is exceeded, and the whole divisor where it is zero.
-/

/-- All digits that stand there in a row, and at least one. -/
structure DigitRun (head part rest : List Char) : Prop where
  nonempty : part ≠ []
  digits : ∀ c ∈ part, Text.isDigit c = true
  before : ∀ c ∈ head.getLast?, Text.isDigit c = false
  behind : ∀ c ∈ rest.head?, Text.isDigit c = false

/-- What a cause says about the part of the text that it is blamed on, with the text before and
behind that part. -/
def Cause.PointsAt (limits : Limits) (head part rest : List Char) : Cause → Prop
  | numberExpected => part = [] ∧ ∀ c ∈ rest.head?, Text.isBlank c = false
  | closingExpected => part = [] ∧ ∀ c ∈ rest.head?, Text.isBlank c = false
  | trailing quoted =>
      part = [] ∧ rest ≠ [] ∧ (∀ c ∈ rest.head?, Text.isBlank c = false) ∧ quoted = rest
  | literalTooLong count limit =>
      DigitRun head part rest ∧ part.length = count ∧
        (limit = some limits.digits ∧ limits.digits ≠ 0 ∧ limits.digits < count ∨
          limit = none ∧ Numeral.capacity < count)
  | nestedTooDeep limit =>
      part = ['('] ∧ limit = limits.depth ∧
        (head.count '(' : Int) = head.count ')' + max limits.depth 0
  | zeroDivisor =>
      (∃ front blanks, head = front ++ '/' :: blanks ∧ Phrase.AllBlank blanks) ∧
        (∃ c ∈ part.head?, Text.isDigit c = true ∨ c = '(') ∧
          evaluate (String.ofList part) limits = .ok 0

/-! ### Before a factor -/

section Factors

variable {limits : Limits} {head : List Char} {level : Level} {state next last : State} {c : Char}

/-- Only a division by zero has no value. -/
theorem multiply?_eq_none_iff {factor : Int} :
    level.multiply? factor = none ↔ factor = 0 ∧ ∃ left, level.product = some (left, .divide) := by
  cases waiting : level.product with
  | none => simp [Level.multiply?, waiting]
  | some pending =>
      obtain ⟨left, op⟩ := pending
      simp only [Level.multiply?, waiting, ProductOp.join?_eq_none_iff, Option.some.injEq,
        Prod.mk.injEq]
      constructor
      · rintro ⟨rfl, zero⟩
        exact ⟨zero, left, rfl, rfl⟩
      · rintro ⟨zero, _, _, divides⟩
        exact ⟨divides, zero⟩

/-- Where a division waits, its symbol is the last that stands before the factor. -/
theorem slash_of_awaitsOn (awaits : AwaitsOn limits head level) {left : Int}
    (waits : level.product = some (left, .divide)) :
    ∃ front blanks, head = front ++ '/' :: blanks ∧ Phrase.AllBlank blanks := by
  obtain ⟨before, walked, phase, rfl⟩ := awaits
  have spells := spells_of_walk (spells_start limits.task 0) walked
  obtain ⟨outside, written, blanks, split, _, ⟨sums, products, rfl, _, product⟩, blank⟩ :=
    (spells_iff_of_operand phase).1 spells
  rw [waits] at product
  obtain ⟨chain, between, _, _, rfl⟩ := product
  refine ⟨outside ++ sums ++ chain.text ++ between, blanks, ?_, blank⟩
  rw [List.nil_append] at split
  rw [split]
  simp [ProductOp.symbol]

/-- No digit stands right before a factor. -/
theorem not_isDigit_of_awaitsOn (awaits : AwaitsOn limits head level) :
    ∀ c ∈ head.getLast?, Text.isDigit c = false := by
  intro c last
  obtain ⟨before, walked, phase, _⟩ := awaits
  obtain ⟨front, rfl⟩ := List.getLast?_eq_some_iff.1 last
  rw [State.walk_append] at walked
  obtain ⟨middle, _, onward⟩ := Option.bind_eq_some_iff.1 walked
  obtain ⟨next, stepped, same⟩ := Option.bind_eq_some_iff.1 onward
  cases same
  cases digit : Text.digitValue? c with
  | none => exact isDigit_eq_false_iff.2 digit
  | some d =>
      rcases digit_of_move digit (move_of_step stepped) with ⟨_, rfl⟩ | ⟨_, _, _, _, rfl⟩
      · cases phase
      · cases phase

/-- So many groups are open where a factor must start as the parentheses before it leave open, and
no more than the limit allows. -/
theorem groups_of_awaiting (walked : State.first.walk limits.task head = some state)
    (phase : state.phase = .operand) :
    state.groups.length + head.count ')' = head.count '(' ∧
      (state.groups = [] ∨ Limits.exceeded limits.depth state.groups.length = false) := by
  constructor
  · simpa [State.first] using groups_of_walk walked
  · have spells := spells_of_walk (spells_start limits.task 0) walked
    obtain ⟨outside, _, _, _, groups, _, _⟩ := (spells_iff_of_operand phase).1 spells
    cases opened : state.groups with
    | nil => exact .inl rfl
    | cons group groups' =>
        rw [opened] at groups
        obtain ⟨_, _, _, _, _, _, _, within⟩ := groups
        right
        apply Limits.exceeded_eq_false_iff.2
        simpa [Limits.task] using within

end Factors

/-! ### Failing in mid-text -/

section Failures

variable {limits : Limits} {text : List Char} {state next last : State} {c : Char}

/-- A limit that the literal exceeds is named with it. -/
theorem exceeds_of_literalRefusal? {count : Nat} {cause : Cause}
    (refused : State.literalRefusal? limits count = some cause) :
    ∃ limit, cause = .literalTooLong count limit ∧
      (limit = some limits.digits ∧ limits.digits ≠ 0 ∧ limits.digits < count ∨
        limit = none ∧ Numeral.capacity < count) := by
  unfold State.literalRefusal? at refused
  split at refused
  · rename_i exceeded
    cases refused
    exact ⟨_, rfl, .inl ⟨rfl, Limits.exceeded_iff.1 exceeded⟩⟩
  · split at refused
    · rename_i long
      cases refused
      exact ⟨_, rfl, .inr ⟨rfl, long⟩⟩
    · cases refused

/-- A parenthesis fails for lack of room only where the limit would let many groups be open. -/
theorem exhausted_openGroup (exhausted : (state.openGroup limits.task).phase = .failed .exhausted) :
    limits.depth = 0 ∨ 200 < limits.depth := by
  unfold State.openGroup at exhausted
  dsimp only at exhausted
  split at exhausted
  · cases exhausted
  · split at exhausted
    · rename_i within full
      rw [Bool.not_eq_true, Limits.exceeded_eq_false_iff, Limits.depth_task] at within
      simp only [Limits.limits_task, List.length_cons, room] at within full
      omega
    · cases exhausted

/-- A factor that is read on its own is the value of its text. -/
theorem evaluate_of_factorRead {start opening : Nat} {factor : Int}
    (walked : ({ position := start } : State).walk limits.task text = some last)
    (read : last.closeLiteral limits.task = state.factorRead opening factor)
    (level : state.level = {}) (groups : last.groups = []) :
    evaluate (String.ofList text) limits = .ok factor := by
  have multiplied : state.level.multiply? factor = some factor := by rw [level, Level.multiply?]
  rw [State.factorRead_of_some multiplied] at read
  have walkedText : ({ position := start } : State).walk limits.task (String.ofList text).toList =
      some last := by
    rw [String.toList_ofList]
    exact walked
  have phase : (last.closeLiteral limits.task).phase = .operator factor := by rw [read]
  rw [evaluate_of_walk walkedText phase groups, read, level]
  rfl

/-- A literal has the value that its digits denote. -/
theorem evaluate_literal {digits : List Char} (legal : (Phrase.number [] digits).Legal)
    (accepted : State.literalRefusal? limits digits.length = none) :
    evaluate (String.ofList digits) limits = .ok (Phrase.literalValue digits) := by
  obtain ⟨blank, nonempty, allDigits⟩ := legal
  have walked : State.first.walk limits.task digits = some _ :=
    Phrase.walk_number limits.task rfl blank nonempty allDigits
  exact evaluate_of_factorRead walked (State.closeLiteral_of_accepted rfl accepted) rfl rfl

/-- A literal that fails to close is too long, or a zero divisor. -/
theorem pointsAt_of_literal (traced : state.Traced limits text) {start count value : Nat}
    (phase : state.phase = .literal start count value) {failure : Failure}
    (failed : (state.closeLiteral limits.task).phase = .failed failure) {rest : List Char}
    (ends : ∀ c ∈ rest.head?, Text.isDigit c = false) :
    ∃ head part cause, text = head ++ part ∧ failure = .fault cause head.length ∧
      cause.PointsAt limits head part rest := by
  obtain ⟨head, digits, split, rfl, awaits, ⟨_, nonempty, allDigits⟩, rfl, rfl⟩ :=
    traced.literal _ _ _ phase
  cases refusal : State.literalRefusal? limits.task.limits digits.length with
  | some cause =>
      rw [State.closeLiteral_of_refused phase refusal] at failed
      cases failed
      obtain ⟨limit, rfl, exceeds⟩ := exceeds_of_literalRefusal? refusal
      exact ⟨head, digits, _, split, rfl,
        ⟨nonempty, allDigits, not_isDigit_of_awaitsOn awaits, ends⟩, rfl, exceeds⟩
  | none =>
      rw [State.closeLiteral_of_accepted phase refusal] at failed
      cases multiplied : state.level.multiply? (Phrase.literalValue digits) with
      | some value =>
          rw [State.factorRead_of_some multiplied] at failed
          cases failed
      | none =>
          rw [State.factorRead_of_none multiplied] at failed
          cases failed
          obtain ⟨zero, left, divides⟩ := multiply?_eq_none_iff.1 multiplied
          obtain ⟨c, others, digitsEq⟩ := List.exists_cons_of_ne_nil nonempty
          have legal : (Phrase.number [] digits).Legal := ⟨allBlank_nil, nonempty, allDigits⟩
          have evaluated := evaluate_literal legal refusal
          rw [zero] at evaluated
          exact ⟨head, digits, .zeroDivisor, split, rfl, slash_of_awaitsOn awaits divides,
            ⟨c, by simp [digitsEq], .inl (allDigits c (by simp [digitsEq]))⟩, evaluated⟩

/-- A parenthesis fails to open a group that is one too many. -/
theorem pointsAt_of_opening (walked : State.first.walk limits.task text = some state)
    (phase : state.phase = .operand) {cause : Cause} {position : Nat}
    (failed : (state.openGroup limits.task).phase = .failed (.fault cause position))
    (rest : List Char) : position = text.length ∧ cause.PointsAt limits text ['('] rest := by
  have stands : state.position = text.length := State.position_walk_first walked
  obtain ⟨count, within⟩ := groups_of_awaiting walked phase
  rcases State.openGroup_cases limits.task state with ⟨exceeded, refused⟩ | full | ⟨_, opened⟩
  · rw [refused] at failed
    cases failed
    refine ⟨stands, rfl, rfl, ?_⟩
    rw [Limits.exceeded_iff, Limits.depth_task, Limits.limits_task] at exceeded
    rw [Limits.exceeded_eq_false_iff] at within
    have groups : (state.groups.length : Int) = max limits.depth 0 := by
      rcases within with none | within
      · rw [none] at exceeded ⊢
        simp at exceeded ⊢
        omega
      · omega
    omega
  · rw [full] at failed
    cases failed
  · rw [opened] at failed
    cases failed

/-- A group that fails when it is closed is a zero divisor. -/
theorem pointsAt_of_closing (traced : state.Traced limits text) {term : Int}
    (phase : (state.closeLiteral limits.task).phase = .operator term) {group : Group}
    {groups : List Group} (opened : state.groups = group :: groups)
    (undefined :
      group.outer.multiply? ((state.closeLiteral limits.task).level.total term) = none)
    (rest : List Char) :
    ∃ head part, text ++ [')'] = head ++ part ∧ group.opening = head.length ∧
      Cause.zeroDivisor.PointsAt limits head part rest := by
  obtain ⟨zero, left, divides⟩ := multiply?_eq_none_iff.1 undefined
  obtain ⟨head, body, inner, rfl, length, awaits, alone, rfl⟩ :=
    traced.groups [] group groups opened
  have none : inner.groups = [] := by
    rw [State.groups_within] at opened
    exact List.append_left_eq_self.1 opened
  have phaseInner : (inner.closeLiteral limits.task).phase = .operator term := by
    rw [State.closeLiteral_within] at phase
    exact phase
  have closes := State.walk_snoc alone
    (step_closing_frame phaseInner none { outer := {}, opening := head.length } [])
  have evaluated := evaluate_of_factorRead closes (closeLiteral_factorRead _ _ _ _) rfl
    (State.groups_factorRead _ _ _)
  rw [State.closeLiteral_within, State.level_within] at zero
  rw [zero] at evaluated
  exact ⟨head, '(' :: (body ++ [')']), by simp, length.symm, slash_of_awaitsOn awaits divides,
    ⟨'(', rfl, .inr rfl⟩, evaluated⟩

/-- Only parentheses lead to a failed state. -/
theorem failed_of_move (move : Move limits.task state c next) {failure : Failure}
    (failed : next.phase = .failed failure) :
    (c = '(' ∧ state.phase = .operand ∧ next = state.openGroup limits.task) ∨
      ∃ term group groups, c = ')' ∧ (state.closeLiteral limits.task).phase = .operator term ∧
        state.groups = group :: groups ∧ failure = .fault .zeroDivisor group.opening ∧
          group.outer.multiply? ((state.closeLiteral limits.task).level.total term) = none := by
  cases move with
  | blankBefore phase blank => cases phase.symm.trans failed
  | blankAfter phase allowed blank => cases phase.symm.trans failed
  | firstDigit phase digit => cases failed
  | nextDigit phase digit => cases failed
  | product op phase allowed => cases failed
  | sum op phase allowed => cases failed
  | opening phase allowed => exact .inl ⟨rfl, phase, rfl⟩
  | @closing term group groups phase opened =>
      cases multiplied :
          group.outer.multiply? ((state.closeLiteral limits.task).level.total term) with
      | none =>
          rw [State.factorRead_of_none multiplied] at failed
          cases failed
          exact .inr ⟨term, group, groups, rfl, phase, opened, rfl, multiplied⟩
      | some value =>
          rw [State.factorRead_of_some multiplied] at failed
          cases failed

/-- What leads to a failed state is a walk without failures and one more character. -/
theorem exists_last_move (walked : State.first.walk limits.task text = some last)
    {failure : Failure} (failed : last.phase = .failed failure) :
    ∃ before state c, text = before ++ [c] ∧ State.first.walk limits.task before = some state ∧
      state.Traced limits before ∧ Move limits.task state c last := by
  rcases State.exists_last_step walked with ⟨rfl, rfl⟩ | ⟨before, c, state, rfl, reached, stepped⟩
  · cases failed
  · refine ⟨before, state, c, rfl, reached, ?_, move_of_step stepped⟩
    apply traced_of_walk reached
    intro failure failed
    rw [State.step, failed] at stepped
    cases stepped

/-- Nothing but a failed state makes an evaluation run out of room. -/
theorem failed_of_exhausted {left : List Char}
    (exhausted : last.verdict limits left = .error .exhausted) :
    (last.closeLiteral limits.task).phase = .failed .exhausted := by
  cases phase : (last.closeLiteral limits.task).phase with
  | failed failure =>
      rw [verdict_of_failed left phase] at exhausted
      cases exhausted
      rfl
  | operand | literal =>
      rw [State.verdict, State.answer, phase] at exhausted
      cases exhausted
  | operator term =>
      rw [State.verdict, State.answer, phase] at exhausted
      cases closed : (last.closeLiteral limits.task).groups.isEmpty with
      | false =>
          simp only [closed] at exhausted
          cases exhausted
      | true =>
          simp only [closed, if_true] at exhausted
          split at exhausted
          · cases exhausted
          · cases exhausted

end Failures

/-! ### Whole evaluations -/

namespace Halts

variable {limits : Limits} {text taken left : List Char} {last : State}

/-- Blanks belong to the expression, before a factor and behind one. -/
theorem not_isBlank (halts : Halts limits text taken left last)
    (unfailed : last.phase = .operand ∨
      ∃ term, (last.closeLiteral limits.task).phase = .operator term) :
    ∀ c ∈ left.head?, Text.isBlank c = false := by
  intro c head
  cases blank : Text.isBlank c with
  | false => rfl
  | true =>
      have refused := halts.refused c head
      rcases unfailed with phase | ⟨term, phase⟩
      · rw [step_of_move (.blankBefore phase blank)] at refused
        cases refused
      · rw [step_of_move (.blankAfter phase rfl blank)] at refused
        cases refused

/-- A failed state is blamed on the part of the text that made it fail. -/
theorem pointsAt_of_failed (halts : Halts limits text taken left last) {cause : Cause}
    {position : Nat}
    (failed : (last.closeLiteral limits.task).phase = .failed (.fault cause position)) :
    ∃ head part, taken = head ++ part ∧ position = head.length ∧
      cause.PointsAt limits head part left := by
  cases phase : last.phase with
  | operand | operator =>
      rw [State.closeLiteral_eq_self (by simp [phase]), phase] at failed
      cases failed
  | literal start count value =>
      have ends : ∀ c ∈ left.head?, Text.isDigit c = false := by
        intro c head
        cases digit : Text.digitValue? c with
        | none => exact isDigit_eq_false_iff.2 digit
        | some d =>
            have refused := halts.refused c head
            rw [step_of_move (.nextDigit phase digit)] at refused
            cases refused
      obtain ⟨head, part, _, split, same, points⟩ :=
        pointsAt_of_literal (traced_of_walk halts.walked (by simp [phase])) phase failed ends
      cases same
      exact ⟨head, part, split, rfl, points⟩
  | failed failure =>
      rw [State.closeLiteral_eq_self (by simp [phase]), phase] at failed
      cases failed
      obtain ⟨before, state, c, rfl, walked, traced, move⟩ := exists_last_move halts.walked phase
      rcases failed_of_move move phase with
        ⟨rfl, operand, rfl⟩ | ⟨term, group, groups, rfl, closed, opened, same, undefined⟩
      · obtain ⟨here, points⟩ := pointsAt_of_opening walked operand phase left
        exact ⟨before, ['('], rfl, here, points⟩
      · cases same
        exact pointsAt_of_closing traced closed opened undefined left

/-- A fault is blamed on the part of the text in front of where the evaluation halts. -/
theorem pointsAt (halts : Halts limits text taken left last) {cause : Cause} {position : Nat}
    (failed : last.verdict limits left = .error (.fault cause position)) :
    ∃ head part, taken = head ++ part ∧ position = head.length ∧
      cause.PointsAt limits head part left := by
  rw [State.verdict] at failed
  cases answered : (last.closeLiteral limits.task).answer with
  | error failure =>
      rw [answered] at failed
      cases failed
      rcases halts.answer_cases answered with failed | ⟨here, ⟨phase, rfl⟩ | ⟨phase, rfl⟩⟩
      · exact halts.pointsAt_of_failed failed
      · exact ⟨taken, [], by simp, here, rfl, halts.not_isBlank (.inl phase)⟩
      · exact ⟨taken, [], by simp, here, rfl, halts.not_isBlank (.inr phase)⟩
  | ok value =>
      obtain ⟨term, phase, _, _⟩ := State.answer_eq_ok_iff.1 answered
      rw [answered] at failed
      dsimp only at failed
      split at failed
      · cases failed
      · rename_i goesOn
        cases failed
        exact ⟨taken, [], by simp, halts.position, rfl, goesOn,
          halts.not_isBlank (.inr ⟨term, phase⟩), rfl⟩

/-- There is room for as many groups as a limit up to 200 allows. -/
theorem depth_of_exhausted (halts : Halts limits text taken left last)
    (failed : last.verdict limits left = .error .exhausted) :
    limits.depth = 0 ∨ 200 < limits.depth := by
  have closed := failed_of_exhausted failed
  cases phase : last.phase with
  | operand | operator =>
      rw [State.closeLiteral_eq_self (by simp [phase]), phase] at closed
      cases closed
  | literal start count value =>
      obtain ⟨cause, refused⟩ | ⟨term, whole⟩ := State.phase_closeLiteral limits.task phase
      · cases refused.symm.trans closed
      · cases whole.symm.trans closed
  | failed failure =>
      rw [State.closeLiteral_eq_self (by simp [phase]), phase] at closed
      cases closed
      obtain ⟨before, state, c, rfl, walked, traced, move⟩ := exists_last_move halts.walked phase
      rcases failed_of_move move phase with
        ⟨rfl, operand, rfl⟩ | ⟨term, group, groups, rfl, _, _, same, _⟩
      · exact exhausted_openGroup phase
      · cases same

end Halts

/-- **Every fault points at what is wrong.**  An evaluation that fails has run out of room, which
no limit on the depth up to 200 lets it do, or its record has a position.  The position lies before
the cursor or at it, and the cursor in the text; the part of the text between them is what the cause
says, as are the text before and the text behind. -/
theorem tryEvaluate_failed (text : String) (limits : Limits)
    (failed : (tryEvaluate text limits).ok = false) :
    (evaluate text limits = .error .exhausted ∧ (limits.depth = 0 ∨ 200 < limits.depth)) ∨
    ∃ (cause : Cause) (position cursor : Nat),
      evaluate text limits = .error (.fault cause position) ∧
        (tryEvaluate text limits).position = .int position ∧
          (Session.start text limits).evaluate.2.cursor.position = cursor ∧
            position ≤ cursor ∧ cursor ≤ text.toList.length ∧
              cause.PointsAt limits (text.toList.take position)
                ((text.toList.take cursor).drop position) (text.toList.drop cursor) := by
  obtain ⟨taken, left, last, halts⟩ := exists_halts limits text.toList
  rw [tryEvaluate, evaluate_eq_verdict halts] at failed ⊢
  rw [evaluate_of_halts halts]
  cases found : last.verdict limits left with
  | ok value =>
      rw [found] at failed
      cases failed
  | error failure =>
      cases failure with
      | exhausted => exact .inl ⟨rfl, halts.depth_of_exhausted found⟩
      | fault cause position =>
          obtain ⟨head, part, rfl, rfl, points⟩ := halts.pointsAt found
          refine .inr ⟨cause, head.length, (head ++ part).length, rfl, rfl, rfl, by simp, ?_, ?_⟩
          · rw [halts.split]
            simp
          · have before : text.toList.take head.length = head := by
              rw [halts.split, List.append_assoc, List.take_left]
            rw [before, halts.split, List.take_left, List.drop_left, List.drop_left]
            exact points

/-- A group that is zero, in front of a digit too many. -/
theorem tryEvaluate_failed_group :
    (tryEvaluate "12 / (3 - 3)9").ok = false ∧
      (tryEvaluate "12 / (3 - 3)9").position = .int 5 ∧
        Cause.zeroDivisor.PointsAt {} "12 / ".toList "(3 - 3)".toList "9".toList := by
  have failed : (tryEvaluate "12 / (3 - 3)9").ok = false := by rfl
  have evaluated : evaluate "12 / (3 - 3)9" = .error (.fault .zeroDivisor 5) := by rfl
  refine ⟨failed, ?_⟩
  rcases tryEvaluate_failed "12 / (3 - 3)9" {} failed with
    ⟨exhausted, _⟩ | ⟨cause, position, cursor, found, recorded, stopped, _, _, points⟩
  · cases evaluated.symm.trans exhausted
  · cases evaluated.symm.trans found
    have stop : (Session.start "12 / (3 - 3)9").evaluate.2.cursor.position = 12 := by rfl
    cases stop.symm.trans stopped
    exact ⟨recorded, points⟩

end Abacus
