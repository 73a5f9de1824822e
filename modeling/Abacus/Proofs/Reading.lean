/-
Module: Abacus.Proofs.Reading
Purpose: What the machine makes of a phrase of the language, whatever stands around it.
Main exports: Consumes, Phrase.Reads, Phrase.reads
-/
import Abacus.Proofs.Divisors
import Abacus.Proofs.Evaluation

namespace Abacus

/-!
A phrase is read from any state that awaits one of its rule, with any level around it and any
groups open.  Either it has a value, and the run goes on behind it in the state that the value
determines; or one of its divisions has a zero divisor, and the run fails at the first of them.
The induction is on the phrase.  What follows the phrase stays arbitrary, except that it must
not prolong the last literal.
-/

/-- The text does not go on with a digit. -/
def EndsLiteral (cs : List Char) : Prop :=
  ∀ c ∈ cs.head?, Text.digitValue? c = none

theorem endsLiteral_nil : EndsLiteral [] := by
  simp [EndsLiteral]

theorem endsLiteral_cons {c : Char} (other : Text.digitValue? c = none) (cs : List Char) :
    EndsLiteral (c :: cs) := by
  simp [EndsLiteral, other]

theorem endsLiteral_append {cs ds : List Char} (ends : EndsLiteral cs) (endsToo : EndsLiteral ds) :
    EndsLiteral (cs ++ ds) := by
  cases cs with
  | nil => exact endsToo
  | cons c cs => exact ends

theorem endsLiteral_of_allBlank {cs : List Char} (blank : Phrase.AllBlank cs) :
    EndsLiteral cs := by
  intro c head
  exact digitValue?_of_isBlank (blank c (List.mem_of_mem_head? head))

/-- Blanks before a symbol end a literal, and so does the symbol. -/
theorem endsLiteral_symbol {blanks : List Char} (blank : Phrase.AllBlank blanks) {c : Char}
    (plain : Plain c) (cs : List Char) : EndsLiteral (blanks ++ c :: cs) :=
  endsLiteral_append (endsLiteral_of_allBlank blank) (endsLiteral_cons plain.2 cs)

/-- A literal is complete where the text does not go on with a digit. -/
theorem run_closeLiteral {task : Task} {state : State} {rest : List Char}
    (ends : EndsLiteral rest) : run task (state.closeLiteral task) rest = run task state rest := by
  cases rest with
  | nil => exact State.settle_closeLiteral
  | cons c rest =>
      have same : (state.closeLiteral task).step task c = state.step task c :=
        State.step_closeLiteral (ends c rfl)
      cases stepped : state.step task c with
      | none =>
          rw [stepped] at same
          rw [run_cons_of_refused same, run_cons_of_refused stepped, State.settle_closeLiteral]
      | some next =>
          rw [stepped] at same
          rw [run_cons_of_step same, run_cons_of_step stepped]

/-! ### Runs over a part of the text -/

/-- Reading `cs` takes the first state to the last, whatever follows but a digit. -/
def Leads (task : Task) (state : State) (cs : List Char) (last : State) : Prop :=
  ∀ rest, EndsLiteral rest → run task state (cs ++ rest) = run task last rest

/-- Reading `cs` fails, whatever follows but a digit. -/
def Fails (task : Task) (state : State) (cs : List Char) (failure : Failure) : Prop :=
  ∀ rest, EndsLiteral rest → (run task state (cs ++ rest)).result = .error failure

section Parts

variable {task : Task} {state middle last : State} {cs ds : List Char} {failure : Failure}

theorem leads_of_walk (walked : state.walk task cs = some last) :
    Leads task state cs (last.closeLiteral task) := by
  intro rest ends
  rw [run_append_of_walk walked, run_closeLiteral ends]

theorem Leads.trans (first : Leads task state cs middle) (second : Leads task middle ds last)
    (ends : EndsLiteral ds) : Leads task state (cs ++ ds) last := by
  intro rest endsRest
  rw [List.append_assoc, first _ (endsLiteral_append ends endsRest), second rest endsRest]

theorem Leads.fails (first : Leads task state cs middle) (second : Fails task middle ds failure)
    (ends : EndsLiteral ds) : Fails task state (cs ++ ds) failure := by
  intro rest endsRest
  rw [List.append_assoc, first _ (endsLiteral_append ends endsRest), second rest endsRest]

theorem leads_append_of_walk (walked : state.walk task cs = some middle)
    (second : Leads task middle ds last) : Leads task state (cs ++ ds) last := by
  intro rest ends
  rw [List.append_assoc, run_append_of_walk walked, second rest ends]

theorem fails_append_of_walk (walked : state.walk task cs = some middle)
    (second : Fails task middle ds failure) : Fails task state (cs ++ ds) failure := by
  intro rest ends
  rw [List.append_assoc, run_append_of_walk walked, second rest ends]

theorem Fails.append (first : Fails task state cs failure) (ends : EndsLiteral ds) :
    Fails task state (cs ++ ds) failure := by
  intro rest endsRest
  rw [List.append_assoc, first _ (endsLiteral_append ends endsRest)]

/-- A failed state stays where it is. -/
theorem result_run_of_failed (phase : state.phase = .failed failure) (rest : List Char) :
    (run task state rest).result = .error failure := by
  have closed : state.closeLiteral task = state := State.closeLiteral_eq_self (by simp [phase])
  have settled : (state.settle task).result = .error failure := by
    rw [State.settle, closed, State.answer, phase]
  cases rest with
  | nil => exact settled
  | cons c rest =>
      have refused : state.step task c = none := by rw [State.step, phase]
      rw [run_cons_of_refused refused]
      exact settled

theorem fails_of_failed (phase : state.phase = .failed failure) (cs : List Char) :
    Fails task state cs failure :=
  fun _ _ => result_run_of_failed phase _

end Parts

/-- What comes of `cs`, whose zero divisors are `divisors`: without any, the run goes on in a
state of the goal; otherwise it fails at the first of them. -/
def Consumes (task : Task) (state : State) (cs : List Char) (divisors : List (Nat × Nat))
    (goal : State → Prop) : Prop :=
  match divisors with
  | [] => ∃ last, goal last ∧ Leads task state cs last
  | divisor :: _ => Fails task state cs (.fault .zeroDivisor divisor.1)

section Consuming

variable {task : Task} {state middle last : State} {cs ds : List Char}
  {divisors more : List (Nat × Nat)} {goal next : State → Prop}

theorem Leads.consumes (leads : Leads task state cs last) (reached : goal last) :
    Consumes task state cs [] goal :=
  ⟨last, reached, leads⟩

theorem Consumes.weaken (first : Consumes task state cs divisors goal)
    (weaker : ∀ last, goal last → next last) : Consumes task state cs divisors next := by
  cases divisors with
  | nil =>
      obtain ⟨last, reached, leads⟩ := first
      exact ⟨last, weaker last reached, leads⟩
  | cons divisor others => exact first

/-- What is read in two parts has the zero divisors of both. -/
theorem Consumes.append (first : Consumes task state cs divisors goal) (ends : EndsLiteral ds)
    (second : ∀ middle, goal middle → Consumes task middle ds more next) :
    Consumes task state (cs ++ ds) (divisors ++ more) next := by
  cases divisors with
  | cons divisor others => exact Fails.append first ends
  | nil =>
      obtain ⟨middle, reached, leads⟩ := first
      cases more with
      | nil =>
          obtain ⟨last, reachedToo, leadsOn⟩ := second middle reached
          exact ⟨last, reachedToo, leads.trans leadsOn ends⟩
      | cons divisor others => exact leads.fails (second middle reached) ends

theorem consumes_append_of_walk (walked : state.walk task cs = some middle)
    (second : Consumes task middle ds divisors goal) :
    Consumes task state (cs ++ ds) divisors goal := by
  cases divisors with
  | nil =>
      obtain ⟨last, reached, leads⟩ := second
      exact ⟨last, reached, leads_append_of_walk walked leads⟩
  | cons divisor others => exact fails_append_of_walk walked second

/-- A state may decide about itself before the run goes on. -/
theorem Consumes.andThen (first : Consumes task state cs divisors goal)
    (second : ∀ middle, goal middle → Consumes task middle [] more next) :
    Consumes task state cs (divisors ++ more) next := by
  simpa using first.append endsLiteral_nil second

/-- Two operands are read one after the other, with the blanks and the operator between them. -/
theorem Consumes.joined {blanks : List Char} {symbol : Char}
    (first : Consumes task state cs divisors goal) (blank : Phrase.AllBlank blanks)
    (plain : Plain symbol)
    (second : ∀ middle, goal middle → ∃ behind,
      middle.walk task (blanks ++ [symbol]) = some behind ∧
        Consumes task behind ds more next) :
    Consumes task state (cs ++ blanks ++ symbol :: ds) (divisors ++ more) next := by
  have parts : cs ++ blanks ++ symbol :: ds = cs ++ ((blanks ++ [symbol]) ++ ds) := by simp
  have ends : EndsLiteral ((blanks ++ [symbol]) ++ ds) := by
    rw [List.append_assoc]
    exact endsLiteral_symbol blank plain ds
  rw [parts]
  apply first.append ends
  intro middle reached
  obtain ⟨behind, walked, consumes⟩ := second middle reached
  exact consumes_append_of_walk walked consumes

end Consuming

namespace State

/-- The state a number of characters further on, all else being the same. -/
def forward (state : State) (count : Nat) : State :=
  { state with position := state.position + count }

@[simp] theorem position_forward (state : State) (count : Nat) :
    (state.forward count).position = state.position + count := rfl

@[simp] theorem phase_forward (state : State) (count : Nat) :
    (state.forward count).phase = state.phase := rfl

@[simp] theorem level_forward (state : State) (count : Nat) :
    (state.forward count).level = state.level := rfl

@[simp] theorem groups_forward (state : State) (count : Nat) :
    (state.forward count).groups = state.groups := rfl

@[simp] theorem forward_zero (state : State) : state.forward 0 = state := rfl

theorem forward_forward (state : State) (count more : Nat) :
    (state.forward count).forward more = state.forward (count + more) := by
  simp [forward, Nat.add_assoc]

theorem advance_eq_forward (state : State) : state.advance = state.forward 1 := rfl

/-- The state a number of characters further on that awaits a factor on that level. -/
def awaiting (state : State) (count : Nat) (level : Level) : State :=
  { state.forward count with phase := .operand, level := level }

@[simp] theorem position_awaiting (state : State) (count : Nat) (level : Level) :
    (state.awaiting count level).position = state.position + count := rfl

@[simp] theorem level_awaiting (state : State) (count : Nat) (level : Level) :
    (state.awaiting count level).level = level := rfl

@[simp] theorem groups_awaiting (state : State) (count : Nat) (level : Level) :
    (state.awaiting count level).groups = state.groups := rfl

end State

section Symbols

variable {limits : Limits} {state : State}

/-- Blanks are skipped before a factor, and behind it where a chain may go on. -/
theorem walk_allBlank (task : Task) {blanks : List Char} (blank : Phrase.AllBlank blanks)
    (between : state.phase = .operand ∨
      (∃ term, state.phase = .operator term) ∧ state.allows task.rule.multiplies = true) :
    state.walk task blanks = some (state.forward blanks.length) := by
  induction blanks generalizing state with
  | nil => rfl
  | cons c blanks ih =>
      have first : Text.isBlank c = true := blank c (by simp)
      have others : Phrase.AllBlank blanks := fun d mem => blank d (by simp [mem])
      have stepped : state.step task c = some (state.forward 1) := by
        rcases between with operand | ⟨⟨term, operator⟩, allowed⟩
        · exact step_of_move (.blankBefore operand first)
        · have closed := State.closeLiteral_of_operator task operator
          rw [← closed] at operator
          rw [step_of_move (.blankAfter operator allowed first), closed, State.advance_eq_forward]
      have onward : (state.forward 1).phase = .operand ∨
          (∃ term, (state.forward 1).phase = .operator term) ∧
            (state.forward 1).allows task.rule.multiplies = true := between
      rw [State.walk, stepped, Option.bind_some, ih others onward, State.forward_forward,
        List.length_cons, Nat.add_comm]

/-- An evaluation skips blanks before and after a factor. -/
theorem walk_blanks (limits : Limits) {blanks : List Char} (blank : Phrase.AllBlank blanks)
    (between : state.phase = .operand ∨ ∃ term, state.phase = .operator term) :
    state.walk limits.task blanks = some (state.forward blanks.length) :=
  walk_allBlank limits.task blank
    (between.imp_right fun operator => ⟨operator, state.allows_multiplies_task limits⟩)

/-- Digits prolong a literal. -/
theorem walk_digits (task : Task) {digits : List Char} {start count value : Nat}
    (allDigits : ∀ c ∈ digits, Text.isDigit c = true)
    (literal : state.phase = .literal start count value) :
    state.walk task digits =
      some { state.forward digits.length with
        phase := .literal start (count + digits.length)
          (digits.foldl (fun value c => 10 * value + (Text.digitValue? c).getD 0) value) } := by
  induction digits generalizing state count value with
  | nil => simp [State.walk, ← literal]
  | cons c digits ih =>
      obtain ⟨d, digit⟩ := Option.isSome_iff_exists.1 (allDigits c (by simp))
      have others : ∀ c ∈ digits, Text.isDigit c = true := fun c mem => allDigits c (by simp [mem])
      have stepped : state.step task c =
          some { state.advance with phase := .literal start (count + 1) (10 * value + d) } :=
        step_of_move (.nextDigit literal digit)
      rw [State.walk, stepped, Option.bind_some, ih others rfl]
      simp [State.forward, State.advance, digit]
      omega

/-- A symbol with the blanks before it. -/
theorem walk_symbol {task : Task} {blanks : List Char} {c : Char} {next : State}
    (blank : Phrase.AllBlank blanks)
    (between : state.phase = .operand ∨
      (∃ term, state.phase = .operator term) ∧ state.allows task.rule.multiplies = true)
    (stepped : (state.forward blanks.length).step task c = some next) :
    state.walk task (blanks ++ [c]) = some next := by
  rw [State.walk_append, walk_allBlank task blank between, Option.bind_some, State.walk, stepped]
  rfl

theorem step_product (limits : Limits) {term : Int} (phase : state.phase = .operator term)
    (op : ProductOp) :
    state.step limits.task op.symbol =
      some (state.awaiting 1 { state.level with product := some (term, op) }) := by
  have closed := State.closeLiteral_of_operator limits.task phase
  rw [← closed] at phase
  rw [step_of_move (.product op phase (state.allows_multiplies_task limits)), closed]
  rfl

theorem step_sum (limits : Limits) {term : Int} (phase : state.phase = .operator term)
    (op : SumOp) :
    state.step limits.task op.symbol =
      some (state.awaiting 1 { sum := some (state.level.total term, op) }) := by
  have closed := State.closeLiteral_of_operator limits.task phase
  rw [← closed] at phase
  rw [step_of_move (.sum op phase (state.allows_adds_task limits)), closed]
  rfl

theorem step_closing (limits : Limits) {term : Int} (phase : state.phase = .operator term)
    {group : Group} {groups : List Group} (opened : state.groups = group :: groups) :
    state.step limits.task ')' =
      some ({ state.forward 1 with level := group.outer, groups := groups }.factorRead
        group.opening (state.level.total term)) := by
  have closed := State.closeLiteral_of_operator limits.task phase
  rw [← closed] at phase
  rw [step_of_move (.closing phase opened), closed]
  rfl

/-- An operator between factors waits for the next one. -/
theorem walk_product (limits : Limits) {term : Int} (phase : state.phase = .operator term)
    (op : ProductOp) {blanks : List Char} (blank : Phrase.AllBlank blanks) :
    state.walk limits.task (blanks ++ [op.symbol]) =
      some (state.awaiting (blanks.length + 1)
        { state.level with product := some (term, op) }) := by
  have phaseThere : (state.forward blanks.length).phase = .operator term := phase
  exact walk_symbol blank (.inr ⟨⟨term, phase⟩, rfl⟩) (step_product limits phaseThere op)

/-- An operator between terms waits for the next one, and the level adds up what it has. -/
theorem walk_sum (limits : Limits) {term : Int} (phase : state.phase = .operator term)
    (op : SumOp) {blanks : List Char} (blank : Phrase.AllBlank blanks) :
    state.walk limits.task (blanks ++ [op.symbol]) =
      some (state.awaiting (blanks.length + 1)
        { sum := some (state.level.total term, op) }) := by
  have phaseThere : (state.forward blanks.length).phase = .operator term := phase
  exact walk_symbol blank (.inr ⟨⟨term, phase⟩, rfl⟩) (step_sum limits phaseThere op)

/-- A group is a factor once its parenthesis is closed. -/
theorem walk_closing (limits : Limits) {term : Int} (phase : state.phase = .operator term)
    {group : Group} {groups : List Group} (opened : state.groups = group :: groups)
    {blanks : List Char} (blank : Phrase.AllBlank blanks) :
    state.walk limits.task (blanks ++ [')']) =
      some ({ state.forward (blanks.length + 1) with
        level := group.outer, groups := groups }.factorRead
          group.opening (state.level.total term)) := by
  have phaseThere : (state.forward blanks.length).phase = .operator term := phase
  have openedThere : (state.forward blanks.length).groups = group :: groups := opened
  exact walk_symbol blank (.inr ⟨⟨term, phase⟩, rfl⟩) (step_closing limits phaseThere openedThere)

end Symbols

/-! ### Levels -/

/-- Whether a phrase of the rule may start in the state. -/
def State.Awaits (state : State) (rule : Rule) : Prop :=
  state.phase = .operand ∧
    (rule = .term → state.level.product = none) ∧ (rule = .expression → state.level = {})

theorem State.Awaits.number {state : State} (phase : state.phase = .operand) :
    state.Awaits .number :=
  ⟨phase, by simp, by simp⟩

theorem State.Awaits.factor {state : State} (phase : state.phase = .operand) :
    state.Awaits .factor :=
  ⟨phase, by simp, by simp⟩

theorem State.Awaits.term {state : State} (phase : state.phase = .operand)
    (product : state.level.product = none) : state.Awaits .term :=
  ⟨phase, fun _ => product, by simp⟩

/-- Where the run goes on behind a phrase of the rule with that start, length and value.  An
expression leaves its last term to be added, since more of it may follow. -/
def State.Delivers (state : State) (start length : Nat) (value : Int) (last : State) : Rule → Prop
  | .expression => ∃ sum term,
      last = { state.forward length with phase := .operator term, level := { sum := sum } } ∧
        last.level.total term = value
  | .term => last = { state.forward length with phase := .operator value }
  | .factor | .number => last = (state.forward length).factorRead start value

/-- The phase does not matter to a factor that is complete. -/
theorem factorRead_congr {one two : State} (position : one.position = two.position)
    (level : one.level = two.level) (groups : one.groups = two.groups) (start : Nat)
    (factor : Int) : one.factorRead start factor = two.factorRead start factor := by
  simp only [State.factorRead, position, level, groups]

theorem literalRefusal?_eq_none_iff {limits : Limits} {count : Nat} :
    State.literalRefusal? limits count = none ↔
      count ≤ Numeral.capacity ∧ (limits.digits = 0 ∨ (count : Int) ≤ limits.digits) := by
  rw [← Limits.exceeded_eq_false_iff, State.literalRefusal?]
  cases exceeded : Limits.exceeded limits.digits count with
  | true => simp
  | false =>
      by_cases long : Numeral.capacity < count
      · simp [long]
      · simp [long, Nat.not_lt.1 long]

namespace Phrase

/-! ### Phrases -/

/-- What the run makes of the phrase, from any state that awaits it. -/
def Reads (limits : Limits) {rule : Rule} (phrase : Phrase rule) : Prop :=
  ∀ state : State, state.Awaits rule → phrase.Legal →
    phrase.Fits limits state.groups.length → state.groups.length + phrase.height ≤ room →
    Consumes limits.task state phrase.text (phrase.zeroDivisors state.position) fun last =>
      ∃ value, phrase.value? = some value ∧
        state.Delivers (state.position + phrase.indent) phrase.text.length value last rule

variable {limits : Limits}

/-- The digits of a number make one literal. -/
theorem walk_number (task : Task) {state : State} (phase : state.phase = .operand)
    {blanks digits : List Char} (blank : AllBlank blanks) (nonempty : digits ≠ [])
    (allDigits : ∀ c ∈ digits, Text.isDigit c = true) :
    state.walk task (blanks ++ digits) =
      some { state.forward (blanks ++ digits).length with
        phase := .literal (state.position + blanks.length) digits.length
          (literalValue digits) } := by
  obtain ⟨c, digits, rfl⟩ := List.exists_cons_of_ne_nil nonempty
  obtain ⟨d, digit⟩ := Option.isSome_iff_exists.1 (allDigits c (by simp))
  have others : ∀ c ∈ digits, Text.isDigit c = true := fun c mem => allDigits c (by simp [mem])
  have first : state.walk task (blanks ++ [c]) =
      some { (state.forward blanks.length).advance with
        phase := .literal (state.position + blanks.length) 1 d } :=
    walk_symbol blank (.inl phase) (step_of_move (.firstDigit phase digit))
  have value : literalValue (c :: digits) =
      digits.foldl (fun value c => 10 * value + (Text.digitValue? c).getD 0) d := by
    simp [literalValue, digit]
  have parts : blanks ++ c :: digits = (blanks ++ [c]) ++ digits := by simp
  rw [parts, State.walk_append, first, Option.bind_some, walk_digits _ others rfl, value]
  simp [State.forward, State.advance, Nat.add_assoc, Nat.add_comm 1]

theorem reads_number (blanks digits : List Char) : (number blanks digits).Reads limits := by
  intro state awaits legal fits _
  obtain ⟨blank, nonempty, allDigits⟩ := legal
  have accepted : State.literalRefusal? limits digits.length = none :=
    literalRefusal?_eq_none_iff.2 fits
  have leads := leads_of_walk (walk_number limits.task awaits.1 blank nonempty allDigits)
  rw [State.closeLiteral_of_accepted rfl accepted] at leads
  exact leads.consumes ⟨literalValue digits, rfl, factorRead_congr rfl rfl rfl _ _⟩

theorem reads_ofNumber {inner : Phrase .number} (reads : inner.Reads limits) :
    (ofNumber inner).Reads limits := by
  intro state awaits legal fits height
  exact reads state (.number awaits.1) legal fits height

theorem reads_ofFactor {inner : Phrase .factor} (reads : inner.Reads limits) :
    (ofFactor inner).Reads limits := by
  intro state awaits legal fits height
  have product : state.level.product = none := awaits.2.1 rfl
  apply (reads state (.factor awaits.1) legal fits height).weaken
  rintro last ⟨value, valued, delivered⟩
  have multiplied : (state.forward inner.text.length).level.multiply? value = some value := by
    simp [Level.multiply?, product]
  rw [State.Delivers, State.factorRead_of_some multiplied] at delivered
  refine ⟨value, valued, ?_⟩
  rw [State.Delivers, delivered]
  simp [text, State.forward, ← product]

theorem reads_ofTerm {inner : Phrase .term} (reads : inner.Reads limits) :
    (ofTerm inner).Reads limits := by
  intro state awaits legal fits height
  have level : state.level = {} := awaits.2.2 rfl
  apply (reads state (.term awaits.1 (by rw [level])) legal fits height).weaken
  rintro last ⟨value, valued, delivered⟩
  rw [State.Delivers] at delivered
  refine ⟨value, valued, none, value, ?_, ?_⟩
  · rw [delivered]
    simp [text, State.forward, level]
  · rw [delivered]
    simp [State.forward, level, Level.total]

/-- Blanks and the parenthesis at the start of a group. -/
theorem walk_opening {state : State} (phase : state.phase = .operand) {blanks : List Char}
    (blank : AllBlank blanks)
    (within : limits.depth = 0 ∨ ((state.groups.length + 1 : Nat) : Int) ≤ limits.depth)
    (fits : state.groups.length < room) :
    state.walk limits.task (blanks ++ ['(']) = some (state.forward blanks.length).inside := by
  have stepped : (state.forward blanks.length).step limits.task '(' =
      some ((state.forward blanks.length).openGroup limits.task) :=
    step_of_move (.opening phase (State.allows_opens_task _ _))
  rw [State.openGroup_of_fits] at stepped
  · exact walk_symbol blank (.inl phase) stepped
  · simpa [Limits.exceeded_eq_false_iff] using within
  · exact fits

theorem reads_group {body : Phrase .expression} (reads : body.Reads limits)
    (before after : List Char) : (group before body after).Reads limits := by
  intro state awaits legal fits height
  obtain ⟨blankBefore, legalBody, blankAfter⟩ := legal
  obtain ⟨within, fitsBody⟩ := fits
  rw [Phrase.height] at height
  have text_eq : (group before body after).text =
      (before ++ ['(']) ++ (body.text ++ (after ++ [')'])) := by
    simp [text]
  have entered := walk_opening awaits.1 blankBefore within (by omega)
  have bodyRead := reads (state.forward before.length).inside ⟨rfl, by simp, fun _ => rfl⟩ legalBody
    fitsBody (by simp only [State.inside, State.groups_forward, List.length_cons]; omega)
  rw [zeroDivisors, text_eq, ← List.append_nil (zeroDivisors _ body)]
  apply consumes_append_of_walk entered
  apply bodyRead.append (endsLiteral_symbol blankAfter plain_closing [])
  rintro last ⟨value, valued, sum, term, lastEq, total⟩
  have phase : last.phase = .operator term := by rw [lastEq]
  have opened : last.groups =
      { outer := state.level, opening := state.position + before.length } :: state.groups := by
    rw [lastEq]
    rfl
  have position : last.position + (after.length + 1) =
      state.position + ((before ++ ['(']) ++ (body.text ++ (after ++ [')']))).length := by
    simp [lastEq, State.inside, State.forward]
    omega
  -- What waited before the group is on the level again, for the group as its factor.
  have closes := leads_of_walk (walk_closing limits phase opened blankAfter)
  rw [total, closeLiteral_factorRead] at closes
  refine closes.consumes ⟨value, valued, ?_⟩
  apply factorRead_congr
  · exact position
  · rfl
  · rfl

/-- A factor is complete behind a division by zero or behind a term with a value. -/
theorem consumes_factorRead (task : Task) {state : State} {left right : Int} {op : ProductOp}
    (pending : state.level.product = some (left, op)) (start stop : Nat) :
    Consumes task (state.factorRead start right) []
      (if op = .divide ∧ right = 0 then [(start, stop)] else [])
      fun last => ∃ value, op.join? left right = some value ∧
        last = { state with
          phase := .operator value, level := { state.level with product := none } } := by
  have multiplied : state.level.multiply? right = op.join? left right := by
    simp [Level.multiply?, pending]
  cases applied : op.join? left right with
  | none =>
      rw [if_pos (ProductOp.join?_eq_none_iff.1 applied),
        State.factorRead_of_none (multiplied.trans applied)]
      exact fails_of_failed rfl []
  | some value =>
      have defined : ¬(op = .divide ∧ right = 0) := by
        intro zero
        rw [ProductOp.join?_eq_none_iff.2 zero] at applied
        cases applied
      rw [if_neg defined, State.factorRead_of_some (multiplied.trans applied)]
      exact Leads.consumes (fun rest _ => rfl) ⟨value, rfl, rfl⟩

theorem reads_product {left : Phrase .term} {right : Phrase .factor}
    (readsLeft : left.Reads limits) (readsRight : right.Reads limits) (blanks : List Char)
    (op : ProductOp) : (product left blanks op right).Reads limits := by
  intro state awaits legal fits height
  obtain ⟨legalLeft, blank, legalRight⟩ := legal
  obtain ⟨fitsLeft, fitsRight⟩ := fits
  rw [Phrase.height] at height
  have low : state.groups.length + right.height ≤ room := by omega
  rw [zeroDivisors, List.append_assoc]
  apply (readsLeft state awaits legalLeft fitsLeft (by omega)).joined blank op.plain_symbol
  rintro middle ⟨first, valuedLeft, delivered⟩
  rw [State.Delivers] at delivered
  subst delivered
  refine ⟨_, walk_product limits rfl op blank, ?_⟩
  refine (readsRight _ (.factor rfl) legalRight ?_ ?_).andThen ?_
  · exact fitsRight
  · exact low
  rintro last ⟨second, valuedRight, delivered⟩
  rw [State.Delivers] at delivered
  rw [delivered]
  -- Only now is the divisor known, so its own zero divisors come before it.
  simp only [valuedRight, Option.some.injEq]
  apply (consumes_factorRead limits.task rfl _ _).weaken
  rintro last ⟨value, applied, lastEq⟩
  refine ⟨value, ?_, ?_⟩
  · exact value?_product_eq_some_iff.2 ⟨first, second, valuedLeft, valuedRight, applied⟩
  · rw [State.Delivers, lastEq]
    simp [text, State.awaiting, State.forward, ← awaits.2.1 rfl]
    omega

theorem reads_sum {left : Phrase .expression} {right : Phrase .term}
    (readsLeft : left.Reads limits) (readsRight : right.Reads limits) (blanks : List Char)
    (op : SumOp) : (sum left blanks op right).Reads limits := by
  intro state awaits legal fits height
  obtain ⟨legalLeft, blank, legalRight⟩ := legal
  obtain ⟨fitsLeft, fitsRight⟩ := fits
  rw [Phrase.height] at height
  have low : state.groups.length + right.height ≤ room := by omega
  rw [zeroDivisors]
  apply (readsLeft state awaits legalLeft fitsLeft (by omega)).joined blank op.plain_symbol
  rintro middle ⟨first, valuedLeft, before, term, rfl, total⟩
  refine ⟨_, walk_sum limits rfl op blank, ?_⟩
  refine (readsRight _ (.term rfl rfl) legalRight ?_ ?_).weaken ?_
  · exact fitsRight
  · exact low
  rintro last ⟨second, valuedRight, delivered⟩
  rw [State.Delivers] at delivered
  refine ⟨op.join first second, ?_, some (first, op), second, ?_, ?_⟩
  · exact value?_sum_eq_some_iff.2 ⟨first, second, valuedLeft, valuedRight, rfl⟩
  · rw [delivered, total]
    simp [text, State.awaiting, State.forward]
    omega
  · rw [delivered, total]
    simp [Level.total]

/-- Every phrase is read as the grammar says. -/
theorem reads (limits : Limits) {rule : Rule} (phrase : Phrase rule) : phrase.Reads limits := by
  induction phrase with
  | number blanks digits => exact reads_number blanks digits
  | ofNumber inner ih => exact reads_ofNumber ih
  | group before body after ih => exact reads_group ih before after
  | ofFactor inner ih => exact reads_ofFactor ih
  | product left blanks op right ihLeft ihRight => exact reads_product ihLeft ihRight blanks op
  | ofTerm inner ih => exact reads_ofTerm ih
  | sum left blanks op right ihLeft ihRight => exact reads_sum ihLeft ihRight blanks op

end Phrase

end Abacus
