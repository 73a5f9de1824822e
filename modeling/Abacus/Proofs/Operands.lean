/-
Module: Abacus.Proofs.Operands
Purpose: A rule that meets one of its operators goes on, so the operator needs an operand.
Main exports: Phrase.Valid, StartsOperand, startsOperand_behind, Proceeds, Phrase.proceeds,
  Session.startsOperand_of_read, Session.read_whole_phrase
-/
import Abacus.Proofs.Parentheses
import Abacus.Proofs.Rules

namespace Abacus

/-!
Behind every operator of a phrase stands an operand, in groups and outside of them.  And the machine
never gives an operator back: once it has read a phrase of its rule, an operator that the rule
accepts belongs to what is read, or the run has failed already.
-/

/-! ### Operands of a phrase -/

namespace Phrase

variable {limits : Limits} {depth : Nat}

/-- The phrase is written as it should be, keeps to the limits where `depth` groups are open around
it, and has a value. -/
def Valid (limits : Limits) (depth : Nat) {rule : Rule} (phrase : Phrase rule) : Prop :=
  phrase.Legal ∧ phrase.Fits limits depth ∧ ∃ value, phrase.value? = some value

theorem Means.valid {rule : Rule} {phrase : Phrase rule} {value : Int}
    (means : phrase.Means limits depth value) : phrase.Valid limits depth :=
  ⟨means.legal, means.fits, value, means.valued⟩

/-- Fewer groups around a phrase leave it more room. -/
theorem fits_of_deeper {rule : Rule} (phrase : Phrase rule) {depth : Nat}
    (fits : phrase.Fits limits (depth + 1)) : phrase.Fits limits depth := by
  induction phrase generalizing depth with
  | number blanks digits => exact fits
  | ofNumber inner ih => exact ih fits
  | group before body after ih =>
      obtain ⟨within, fitsBody⟩ := fits
      exact ⟨by omega, ih fitsBody⟩
  | ofFactor inner ih => exact ih fits
  | product left blanks op right ihLeft ihRight => exact ⟨ihLeft fits.1, ihRight fits.2⟩
  | ofTerm inner ih => exact ih fits
  | sum left blanks op right ihLeft ihRight => exact ⟨ihLeft fits.1, ihRight fits.2⟩

theorem Valid.of_deeper {rule : Rule} {phrase : Phrase rule}
    (valid : phrase.Valid limits (depth + 1)) : phrase.Valid limits depth := by
  obtain ⟨legal, fits, valued⟩ := valid
  exact ⟨legal, phrase.fits_of_deeper fits, valued⟩

/-- Both operands of a product have values. -/
theorem valid_of_product {left : Phrase .term} {blanks : List Char} {op : ProductOp}
    {right : Phrase .factor} (valid : (product left blanks op right).Valid limits depth) :
    left.Valid limits depth ∧ Phrase.AllBlank blanks ∧ right.Valid limits depth := by
  obtain ⟨⟨legalLeft, blank, legalRight⟩, ⟨fitsLeft, fitsRight⟩, value, valued⟩ := valid
  obtain ⟨first, valuedLeft, rest⟩ := Option.bind_eq_some_iff.1 valued
  obtain ⟨second, valuedRight, _⟩ := Option.bind_eq_some_iff.1 rest
  exact ⟨⟨legalLeft, fitsLeft, first, valuedLeft⟩, blank, legalRight, fitsRight, second,
    valuedRight⟩

/-- Both operands of a sum have values. -/
theorem valid_of_sum {left : Phrase .expression} {blanks : List Char} {op : SumOp}
    {right : Phrase .term} (valid : (sum left blanks op right).Valid limits depth) :
    left.Valid limits depth ∧ Phrase.AllBlank blanks ∧ right.Valid limits depth := by
  obtain ⟨⟨legalLeft, blank, legalRight⟩, ⟨fitsLeft, fitsRight⟩, value, valued⟩ := valid
  obtain ⟨first, valuedLeft, rest⟩ := Option.bind_eq_some_iff.1 valued
  obtain ⟨second, valuedRight, _⟩ := Option.bind_eq_some_iff.1 rest
  exact ⟨⟨legalLeft, fitsLeft, first, valuedLeft⟩, blank, legalRight, fitsRight, second,
    valuedRight⟩

end Phrase

theorem cutsNoLiteral_of_endsLiteral {ds : List Char} (ends : EndsLiteral ds) (cs : List Char) :
    CutsNoLiteral cs ds :=
  fun _ _ _ c next => isDigit_eq_false_iff.2 (ends c next)

/-- The text starts with a factor that has a value, within the limits where `depth` groups are open
around it.  Its last literal goes no further. -/
def StartsOperand (limits : Limits) (depth : Nat) (cs : List Char) : Prop :=
  ∃ (operand : Phrase .factor) (left : List Char), operand.Valid limits depth ∧
    cs = operand.text ++ left ∧ CutsNoLiteral operand.text left

section Operands

variable {limits : Limits} {depth : Nat} {cs ds : List Char}

theorem StartsOperand.append (starts : StartsOperand limits depth cs)
    (whole : CutsNoLiteral cs ds) : StartsOperand limits depth (cs ++ ds) := by
  obtain ⟨operand, left, valid, rfl, cut⟩ := starts
  refine ⟨operand, left ++ ds, valid, List.append_assoc _ _ _, ?_⟩
  cases left with
  | nil => simpa using whole
  | cons c left => exact cut

/-- A symbol that is no digit ends the operand before it. -/
theorem StartsOperand.symbol (starts : StartsOperand limits depth cs) {blanks : List Char}
    (blank : Phrase.AllBlank blanks) {c : Char} (plain : Plain c) (rest : List Char) :
    StartsOperand limits depth (cs ++ (blanks ++ c :: rest)) :=
  starts.append (cutsNoLiteral_of_endsLiteral (endsLiteral_symbol blank plain rest) cs)

/-- Every phrase starts with an operand. -/
theorem startsOperand_text {rule : Rule} {phrase : Phrase rule}
    (valid : phrase.Valid limits depth) : StartsOperand limits depth phrase.text := by
  have alone (operand : Phrase .factor) (valid : operand.Valid limits depth) :
      StartsOperand limits depth operand.text :=
    ⟨operand, [], valid, (List.append_nil _).symm,
      cutsNoLiteral_of_endsLiteral endsLiteral_nil _⟩
  induction phrase with
  | number blanks digits => exact alone (.ofNumber (.number blanks digits)) valid
  | ofNumber inner ih => exact alone _ valid
  | group before body after ih => exact alone _ valid
  | ofFactor inner ih => exact alone inner valid
  | product left blanks op right ihLeft ihRight =>
      obtain ⟨validLeft, blank, _⟩ := Phrase.valid_of_product valid
      rw [Phrase.text, List.append_assoc]
      exact (ihLeft validLeft).symbol blank op.plain_symbol _
  | ofTerm inner ih => exact ih valid
  | sum left blanks op right ihLeft ihRight =>
      obtain ⟨validLeft, blank, _⟩ := Phrase.valid_of_sum valid
      rw [Phrase.text, List.append_assoc]
      exact (ihLeft validLeft).symbol blank op.plain_symbol _

/-- A character of two texts stands in the first or in the second. -/
theorem append_eq_append_cons {xs ys front behind : List Char} {c : Char}
    (split : xs ++ ys = front ++ c :: behind) :
    (∃ between, xs = front ++ c :: between ∧ behind = between ++ ys) ∨
      ∃ between, front = xs ++ between ∧ ys = between ++ c :: behind := by
  rcases List.append_eq_append_iff.1 split with ⟨between, rfl, same⟩ | ⟨between, rfl, same⟩
  · exact .inr ⟨between, rfl, same⟩
  · cases between with
    | nil => exact .inr ⟨[], by simp, same.symm⟩
    | cons d between =>
        obtain ⟨rfl, rfl⟩ := List.cons.inj same
        exact .inl ⟨between, rfl, rfl⟩

/-- Where the character is a symbol, no blanks hold it. -/
theorem symbol_of_blanks {blanks rest front behind : List Char} {c d : Char}
    (blank : Phrase.AllBlank blanks) (plain : Plain c)
    (split : blanks ++ d :: rest = front ++ c :: behind) :
    (d = c ∧ behind = rest) ∨ ∃ between, rest = between ++ c :: behind := by
  rcases append_eq_append_cons split with ⟨between, rfl, _⟩ | ⟨between, rfl, same⟩
  · exact absurd rfl (plain.ne_of_isBlank (blank c (by simp)))
  · cases between with
    | nil =>
        obtain ⟨rfl, rfl⟩ := List.cons.inj same
        exact .inl ⟨rfl, rfl⟩
    | cons e between =>
        obtain ⟨rfl, rfl⟩ := List.cons.inj same
        exact .inr ⟨between, rfl⟩

/-- An operator of the language. -/
def IsOperator (c : Char) : Prop :=
  (∃ op : ProductOp, c = op.symbol) ∨ ∃ op : SumOp, c = op.symbol

theorem IsOperator.plain {c : Char} (operator : IsOperator c) : Plain c := by
  rcases operator with ⟨op, rfl⟩ | ⟨op, rfl⟩
  · exact op.plain_symbol
  · exact op.plain_symbol

theorem IsOperator.ne_parenthesis {c : Char} (operator : IsOperator c) : c ≠ '(' ∧ c ≠ ')' := by
  rcases operator with ⟨op, rfl⟩ | ⟨op, rfl⟩
  · exact op.symbol_ne_parenthesis
  · exact op.symbol_ne_parenthesis

/-- Behind every operator of a phrase stands an operand. -/
theorem startsOperand_behind {rule : Rule} {phrase : Phrase rule}
    (valid : phrase.Valid limits depth) {front behind : List Char} {c : Char}
    (operator : IsOperator c) (split : phrase.text = front ++ c :: behind) :
    StartsOperand limits depth behind := by
  induction phrase generalizing depth front behind with
  | number blanks digits =>
      obtain ⟨⟨blank, _, allDigits⟩, _⟩ := valid
      have mem : c ∈ blanks ++ digits := by
        rw [show blanks ++ digits = front ++ c :: behind from split]
        simp
      rcases List.mem_append.1 mem with inBlanks | inDigits
      · exact absurd rfl (operator.plain.ne_of_isBlank (blank c inBlanks))
      · have digit := allDigits c inDigits
        rw [isDigit_eq_false_iff.2 operator.plain.2] at digit
        cases digit
  | ofNumber inner ih => exact ih valid split
  | group before body after ih =>
      obtain ⟨⟨blankBefore, legal, blankAfter⟩, ⟨_, fits⟩, valued⟩ := valid
      have parts : before ++ '(' :: (body.text ++ (after ++ [')'])) = front ++ c :: behind := by
        rw [← split]
        simp [Phrase.text]
      rcases symbol_of_blanks blankBefore operator.plain parts with ⟨same, _⟩ | ⟨inner, inside⟩
      · exact absurd same.symm operator.ne_parenthesis.1
      rcases append_eq_append_cons inside with ⟨between, here, rfl⟩ | ⟨between, _, closes⟩
      · have starts := ih ⟨legal, fits, valued⟩ here
        obtain ⟨operand, left, validDeeper, rfl, cut⟩ := starts
        have start : StartsOperand limits depth (operand.text ++ left) :=
          ⟨operand, left, validDeeper.of_deeper, rfl, cut⟩
        exact start.symbol blankAfter plain_closing []
      · rcases symbol_of_blanks blankAfter operator.plain closes with ⟨same, _⟩ | ⟨_, none⟩
        · exact absurd same.symm operator.ne_parenthesis.2
        · simp at none
  | ofFactor inner ih => exact ih valid split
  | product left blanks op right ihLeft ihRight =>
      obtain ⟨validLeft, blank, validRight⟩ := Phrase.valid_of_product valid
      rw [Phrase.text, List.append_assoc] at split
      rcases append_eq_append_cons split with ⟨between, here, rfl⟩ | ⟨between, _, inside⟩
      · exact (ihLeft validLeft here).symbol blank op.plain_symbol _
      · rcases symbol_of_blanks blank operator.plain inside with ⟨_, rfl⟩ | ⟨between, here⟩
        · exact startsOperand_text validRight
        · exact ihRight validRight here
  | ofTerm inner ih => exact ih valid split
  | sum left blanks op right ihLeft ihRight =>
      obtain ⟨validLeft, blank, validRight⟩ := Phrase.valid_of_sum valid
      rw [Phrase.text, List.append_assoc] at split
      rcases append_eq_append_cons split with ⟨between, here, rfl⟩ | ⟨between, _, inside⟩
      · exact (ihLeft validLeft here).symbol blank op.plain_symbol _
      · rcases symbol_of_blanks blank operator.plain inside with ⟨_, rfl⟩ | ⟨between, here⟩
        · exact startsOperand_text validRight
        · exact ihRight validRight here

end Operands

/-! ### Committed runs -/

/-- What a phrase of the rule is made of is in place. -/
structure State.Offers (task : Task) (state : State) (rule : Rule) : Prop where
  opens : rule.opens = true → state.allows task.rule.opens = true
  multiplies : rule.multiplies = true → state.allows task.rule.multiplies = true
  adds : rule.adds = true → state.allows task.rule.adds = true

/-- The state is behind a whole factor, or has failed. -/
def State.Decided (state : State) : Prop :=
  (∃ term, state.phase = .operator term) ∨ ∃ failure, state.phase = .failed failure

/-- Reading `cs` leads behind a whole factor with the same groups around it, or fails. -/
def Proceeds (task : Task) (state : State) (cs : List Char) : Prop :=
  (∃ (last : State) (term : Int), last.phase = .operator term ∧ last.groups = state.groups ∧
    last.position = state.position + cs.length ∧ Leads task state cs last) ∨
  ∃ failure, Fails task state cs failure

section Committing

variable {task : Task} {state middle last : State} {cs ds blanks : List Char} {c : Char}

/-- The rule of the task is in place from the start. -/
theorem offers_rule (task : Task) (state : State) : state.Offers task task.rule where
  opens := fun offered => by rw [offered]; rfl
  multiplies := fun offered => by rw [offered]; rfl
  adds := fun offered => by rw [offered]; rfl

theorem State.Offers.of_groups {rule : Rule} (offers : state.Offers task rule)
    (same : middle.groups = state.groups) : middle.Offers task rule := by
  have allows (offered : Bool) : middle.allows offered = state.allows offered := by
    rw [State.allows, State.allows, same]
  exact ⟨by rw [allows]; exact offers.opens, by rw [allows]; exact offers.multiplies,
    by rw [allows]; exact offers.adds⟩

/-- Inside a group everything is in place. -/
theorem offers_of_cons {group : Group} {groups : List Group}
    (opened : state.groups = group :: groups) (rule : Rule) : state.Offers task rule where
  opens := fun _ => State.allows_of_cons opened _
  multiplies := fun _ => State.allows_of_cons opened _
  adds := fun _ => State.allows_of_cons opened _

theorem offers_number (task : Task) (state : State) : state.Offers task .number where
  opens := fun impossible => by cases impossible
  multiplies := fun impossible => by cases impossible
  adds := fun impossible => by cases impossible

theorem State.Offers.factor {rule : Rule} (offers : state.Offers task rule)
    (opens : rule.opens = true) : state.Offers task .factor where
  opens := fun _ => offers.opens opens
  multiplies := fun impossible => by cases impossible
  adds := fun impossible => by cases impossible

theorem State.Offers.term {rule : Rule} (offers : state.Offers task rule)
    (multiplies : rule.multiplies = true) : state.Offers task .term where
  opens := fun _ => offers.opens (Rule.opens_of_multiplies multiplies)
  multiplies := fun _ => offers.multiplies multiplies
  adds := fun impossible => by cases impossible

theorem decided_factorRead (state : State) (start : Nat) (factor : Int) :
    (state.factorRead start factor).Decided := by
  cases multiplied : state.level.multiply? factor with
  | none =>
      rw [State.factorRead_of_none multiplied]
      exact .inr ⟨_, rfl⟩
  | some value =>
      rw [State.factorRead_of_some multiplied]
      exact .inl ⟨value, rfl⟩

theorem decided_closeLiteral {start count value : Nat}
    (literal : state.phase = .literal start count value) : (state.closeLiteral task).Decided := by
  rcases State.phase_closeLiteral task literal with ⟨_, failed⟩ | decided
  · exact .inr ⟨_, failed⟩
  · exact .inl decided

/-- What leads behind a whole factor proceeds, and so does what leads to a failure. -/
theorem proceeds_of_leads (leads : Leads task state cs last) (same : last.groups = state.groups)
    (position : last.position = state.position + cs.length) (decided : last.Decided) :
    Proceeds task state cs := by
  rcases decided with ⟨term, phase⟩ | ⟨failure, phase⟩
  · exact .inl ⟨last, term, phase, same, position, leads⟩
  · have failing := leads.fails (fails_of_failed phase []) endsLiteral_nil
    rw [List.append_nil] at failing
    exact .inr ⟨failure, failing⟩

/-- A run proceeds in two parts. -/
theorem proceeds_append_of_walk (walked : state.walk task cs = some middle)
    (same : middle.groups = state.groups) (onward : Proceeds task middle ds) :
    Proceeds task state (cs ++ ds) := by
  rcases onward with ⟨last, term, phase, groups, position, leads⟩ | ⟨failure, failing⟩
  · refine .inl ⟨last, term, phase, groups.trans same, ?_, leads_append_of_walk walked leads⟩
    rw [position, State.position_walk walked, List.length_append, Nat.add_assoc]
  · exact .inr ⟨failure, fails_append_of_walk walked failing⟩

theorem Proceeds.append (first : Proceeds task state cs) (ends : EndsLiteral ds)
    (second : ∀ (middle : State) (term : Int), middle.phase = .operator term →
      middle.groups = state.groups → Proceeds task middle ds) :
    Proceeds task state (cs ++ ds) := by
  rcases first with ⟨middle, term, phase, groups, position, leads⟩ | ⟨failure, failing⟩
  · rcases second middle term phase groups with
      ⟨last, value, phaseToo, groupsToo, positionToo, leadsOn⟩ | ⟨failure, failing⟩
    · refine .inl ⟨last, value, phaseToo, groupsToo.trans groups, ?_, leads.trans leadsOn ends⟩
      rw [positionToo, position, List.length_append, Nat.add_assoc]
    · exact .inr ⟨failure, leads.fails failing ends⟩
  · exact .inr ⟨failure, failing.append ends⟩

/-- Behind a whole factor, blanks and an operator of the rule lead to the next operand. -/
theorem exists_walk_operator {rule : Rule} (offers : state.Offers task rule) {term : Int}
    (phase : state.phase = .operator term) (blank : Phrase.AllBlank blanks)
    (joins : rule.Joins c) :
    ∃ next, state.walk task (blanks ++ [c]) = some next ∧ next.phase = .operand ∧
      next.groups = state.groups := by
  have phaseThere : (state.forward blanks.length).phase = .operator term := phase
  have closed := State.closeLiteral_of_operator task phaseThere
  have groups : ((state.forward blanks.length).closeLiteral task).groups = state.groups := by
    rw [closed, State.groups_forward]
  rw [← closed] at phaseThere
  rcases operator_of_joins joins with ⟨multiplies, op, rfl⟩ | ⟨adds, op, rfl⟩
  · have allowed := offers.multiplies multiplies
    exact ⟨_, walk_symbol blank (.inr ⟨⟨term, phase⟩, allowed⟩)
      (step_of_move (.product op phaseThere allowed)), rfl, groups⟩
  · have allowed := offers.multiplies (Rule.multiplies_of_adds adds)
    exact ⟨_, walk_symbol blank (.inr ⟨⟨term, phase⟩, allowed⟩)
      (step_of_move (.sum op phaseThere (offers.adds adds))), rfl, groups⟩

theorem joins_product {rule : Rule} (op : ProductOp) (multiplies : rule.multiplies = true) :
    rule.Joins op.symbol := by
  cases rule with
  | number | factor => cases multiplies
  | term | expression => cases op <;> simp [Rule.Joins, ProductOp.symbol]

theorem joins_sum {rule : Rule} (op : SumOp) (adds : rule.adds = true) :
    rule.Joins op.symbol := by
  cases rule with
  | number | factor | term => cases adds
  | expression => cases op <;> simp [Rule.Joins, SumOp.symbol]

/-- Two operands are read one after the other, with the blanks and the operator between them. -/
theorem Proceeds.joined {rule : Rule} (offers : state.Offers task rule)
    (first : Proceeds task state cs) (blank : Phrase.AllBlank blanks) (joins : rule.Joins c)
    (plain : Plain c)
    (second : ∀ behind : State, behind.phase = .operand → behind.groups = state.groups →
      Proceeds task behind ds) : Proceeds task state (cs ++ blanks ++ c :: ds) := by
  have parts : cs ++ blanks ++ c :: ds = cs ++ ((blanks ++ [c]) ++ ds) := by simp
  have ends : EndsLiteral ((blanks ++ [c]) ++ ds) := by
    rw [List.append_assoc]
    exact endsLiteral_symbol blank plain ds
  rw [parts]
  apply first.append ends
  intro middle term phase groups
  obtain ⟨behind, walked, operand, same⟩ :=
    exists_walk_operator (offers.of_groups groups) phase blank joins
  exact proceeds_append_of_walk walked same (second behind operand (same.trans groups))

/-- A factor is complete behind the closing parenthesis, or its term has no value. -/
theorem exists_walk_closing {group : Group} {groups : List Group} {term : Int}
    (phase : state.phase = .operator term) (opened : state.groups = group :: groups)
    (blank : Phrase.AllBlank blanks) :
    ∃ last, state.walk task (blanks ++ [')']) = some last ∧ last.groups = groups ∧
      (last.closeLiteral task).Decided := by
  have phaseThere : (state.forward blanks.length).phase = .operator term := phase
  have openedThere : (state.forward blanks.length).groups = group :: groups := opened
  have closed := State.closeLiteral_of_operator task phaseThere
  rw [← closed] at phaseThere
  refine ⟨_, walk_symbol blank
    (.inr ⟨⟨term, phase⟩, State.allows_of_cons opened task.rule.multiplies⟩)
    (step_of_move (.closing phaseThere openedThere)), ?_, ?_⟩
  · rw [State.groups_factorRead]
  · rw [closeLiteral_factorRead]
    exact decided_factorRead _ _ _

end Committing

namespace Phrase

variable {task : Task}

/-- A group that may be opened is read if its body is, or the run fails. -/
theorem proceeds_group {before after : List Char} {body : Phrase .expression} {state : State}
    (blankBefore : AllBlank before) (blankAfter : AllBlank after) (phase : state.phase = .operand)
    (offered : state.allows task.rule.opens = true)
    (inner : ∀ inside : State, inside.phase = .operand → inside.Offers task .expression →
      Proceeds task inside body.text) :
    Proceeds task state (group before body after).text := by
  have parts : (group before body after).text =
      (before ++ ['(']) ++ (body.text ++ (after ++ [')'])) := by
    simp [text]
  have allowed : (state.forward before.length).allows task.rule.opens = true := offered
  have entered : state.walk task (before ++ ['(']) =
      some ((state.forward before.length).openGroup task) :=
    walk_symbol blankBefore (.inl phase) (step_of_move (.opening phase allowed))
  rw [parts]
  rcases State.openGroup_cases task (state.forward before.length) with
    ⟨_, refused⟩ | full | ⟨_, opened⟩
  · exact .inr ⟨_, fails_append_of_walk entered (fails_of_failed refused _)⟩
  · exact .inr ⟨_, fails_append_of_walk entered (fails_of_failed full _)⟩
  · rw [opened] at entered
    have ends : EndsLiteral (after ++ [')']) := endsLiteral_symbol blankAfter plain_closing []
    have around : (state.forward before.length).inside.groups =
        { outer := state.level, opening := state.position + before.length } ::
          state.groups := rfl
    rcases inner _ rfl (offers_of_cons around .expression) with
      ⟨last, term, operator, groups, position, leads⟩ | ⟨failure, failing⟩
    · obtain ⟨behind, walked, same, decided⟩ :=
        exists_walk_closing operator (groups.trans around) blankAfter
      refine proceeds_of_leads
        (leads_append_of_walk entered (leads.trans (leads_of_walk walked) ends)) ?_ ?_ decided
      · rw [State.groups_closeLiteral, same]
      · rw [State.position_closeLiteral, State.position_walk walked, position]
        simp [State.inside]
        omega
    · exact .inr ⟨failure, fails_append_of_walk entered (failing.append ends)⟩

/-- A phrase that is in place is read, or the run fails. -/
theorem proceeds {rule : Rule} (phrase : Phrase rule) (legal : phrase.Legal) {state : State}
    (phase : state.phase = .operand) (offers : state.Offers task rule) :
    Proceeds task state phrase.text := by
  induction phrase generalizing state with
  | number blanks digits =>
      obtain ⟨blank, nonempty, allDigits⟩ := legal
      have walked := walk_number task phase blank nonempty allDigits
      refine proceeds_of_leads (leads_of_walk walked) (State.groups_closeLiteral task _) ?_ ?_
      · rw [State.position_closeLiteral, State.position_walk walked, text]
      · exact decided_closeLiteral rfl
  | ofNumber inner ih => exact ih legal phase (offers_number task state)
  | group before body after ih =>
      obtain ⟨blankBefore, legalBody, blankAfter⟩ := legal
      exact proceeds_group blankBefore blankAfter phase (offers.opens rfl)
        fun inside operand offered => ih legalBody operand offered
  | ofFactor inner ih => exact ih legal phase (offers.factor rfl)
  | product left blanks op right ihLeft ihRight =>
      obtain ⟨legalLeft, blank, legalRight⟩ := legal
      refine (ihLeft legalLeft phase offers).joined offers blank (joins_product op rfl)
        op.plain_symbol ?_
      intro behind operand same
      exact ihRight legalRight operand ((offers.of_groups same).factor rfl)
  | ofTerm inner ih => exact ih legal phase (offers.term rfl)
  | sum left blanks op right ihLeft ihRight =>
      obtain ⟨legalLeft, blank, legalRight⟩ := legal
      refine (ihLeft legalLeft phase offers).joined offers blank (joins_sum op rfl)
        op.plain_symbol ?_
      intro behind operand same
      exact ihRight legalRight operand ((offers.of_groups same).term rfl)

end Phrase

/-! ### Rules of a session -/

section Cuts

variable {cs ds more : List Char}

/-- What is cut behind a text is cut behind its last part. -/
theorem CutsNoLiteral.of_append (cut : CutsNoLiteral (cs ++ ds) more) : CutsNoLiteral ds more := by
  intro d last
  refine cut d ?_
  rw [List.getLast?_append, Option.mem_def.1 last]
  rfl

/-- Blanks may go to the other side of the cut. -/
theorem CutsNoLiteral.blanks {blanks : List Char} (cut : CutsNoLiteral (cs ++ blanks) ds)
    (blank : Phrase.AllBlank blanks) : CutsNoLiteral cs (blanks ++ ds) := by
  cases blanks with
  | nil => rwa [List.append_nil] at cut
  | cons c blanks =>
      have ends := endsLiteral_cons (digitValue?_of_isBlank (blank c List.mem_cons_self))
      exact cutsNoLiteral_of_endsLiteral (ends (blanks ++ ds)) cs

end Cuts

theorem isOperator_of_joins {rule : Rule} {c : Char} (joins : rule.Joins c) : IsOperator c :=
  (operator_of_joins joins).imp And.right And.right

namespace Session

variable {session after : Session} {rule : Rule} {value : Int}

/-- Where a value is read, an operator behind a phrase of the rule has been passed. -/
theorem passes_operator (read : session.read rule = (.ok value, after)) {phrase : Phrase rule}
    {blanks more : List Char} {c : Char} (legal : phrase.Legal) (blank : Phrase.AllBlank blanks)
    (joins : rule.Joins c)
    (written : session.cursor.rest = phrase.text ++ (blanks ++ c :: more)) :
    session.cursor.position + (phrase.text ++ (blanks ++ [c])).length ≤ after.cursor.position := by
  rw [Session.read] at read
  obtain ⟨answered, rfl⟩ := Prod.mk.inj read
  dsimp only
  have ends : EndsLiteral (blanks ++ c :: more) :=
    endsLiteral_symbol blank (isOperator_of_joins joins).plain more
  have proceeding : Proceeds { rule := rule, limits := session.limits, depth := session.depth }
      { position := session.cursor.position } phrase.text :=
    phrase.proceeds legal rfl (offers_rule _ _)
  rcases proceeding with
    ⟨last, term, phase, groups, position, leads⟩ | ⟨failure, failing⟩
  · obtain ⟨behind, walked, _, _⟩ := exists_walk_operator
      ((offers_rule { rule := rule, limits := session.limits, depth := session.depth } _).of_groups
        groups) phase blank joins
    have split : blanks ++ c :: more = (blanks ++ [c]) ++ more := by simp
    rw [written, leads _ ends, split, run_append_of_walk walked]
    have bound := (position_run { rule := rule, limits := session.limits, depth := session.depth }
      behind more).1
    rw [State.position_walk walked, position] at bound
    dsimp only at bound
    rw [List.length_append]
    omega
  · rw [written, failing _ ends] at answered
    cases answered

/-- Where a value is read from a text with an operator behind a phrase of the rule, an operand
stands behind the operator. -/
theorem startsOperand_of_read (read : session.read rule = (.ok value, after))
    {phrase : Phrase rule} {blanks more : List Char} {c : Char} (legal : phrase.Legal)
    (blank : Phrase.AllBlank blanks) (joins : rule.Joins c)
    (written : session.cursor.rest = phrase.text ++ (blanks ++ c :: more)) :
    StartsOperand session.limits session.depth more := by
  have passed := passes_operator read legal blank joins written
  obtain ⟨found, behind, split, same, blankBehind, means, _, cut⟩ := exists_phrase_of_read read
  have operator := isOperator_of_joins joins
  have moved : after.cursor.position =
      session.cursor.position + (found.text ++ behind).length := by
    rw [same]
    rfl
  generalize after.cursor.rest = left at split cut
  -- What has been read goes past the operator, and the operator is no blank behind the phrase.
  have start : phrase.text ++ (blanks ++ [c]) <+: found.text ++ behind := by
    have first : phrase.text ++ (blanks ++ [c]) <+: session.cursor.rest :=
      ⟨more, by rw [written]; simp⟩
    have second : found.text ++ behind <+: session.cursor.rest := ⟨left, split.symm⟩
    exact List.prefix_of_prefix_length_le first second (by omega)
  obtain ⟨rest, whole⟩ := start
  have parts : found.text ++ behind = (phrase.text ++ blanks) ++ c :: rest := by
    rw [← whole]
    simp
  have remaining : more = rest ++ left := by
    rw [← whole, written] at split
    simpa using split
  rcases append_eq_append_cons parts with ⟨between, here, rfl⟩ | ⟨between, _, rfl⟩
  · have starts := startsOperand_behind means.valid operator here
    rw [here, List.append_cons] at cut
    rw [remaining, List.append_assoc]
    exact starts.append (cut.blanks blankBehind).of_append
  · exact absurd rfl (operator.plain.ne_of_isBlank (blankBehind c (by simp)))

/-- **Every rule reads its own phrase, and all of it.**  From any session, a rule that yields a
value has passed a phrase of its own with this value, and perhaps blanks behind it; it has not
changed the depth, and it stops where nothing more belongs to the phrase.  A phrase is never
returned without an operator that follows it: where no operand stands behind that operator, the
rule fails. -/
theorem read_whole_phrase (session : Session) (rule : Rule) :
    (∀ (value : Int) (after : Session), session.read rule = (.ok value, after) →
      ∃ (phrase : Phrase rule) (blanks : List Char),
        session.cursor.rest = phrase.text ++ blanks ++ after.cursor.rest ∧
          after = { session with
            cursor := session.cursor.forward (phrase.text ++ blanks).length } ∧
          phrase.Legal ∧ Phrase.AllBlank blanks ∧
            phrase.Fits session.limits session.depth ∧ phrase.value? = some value ∧
              phrase.Stops blanks after.cursor.rest.head?) ∧
    ∀ (phrase : Phrase rule) (blanks more : List Char) (c : Char), phrase.Legal →
      Phrase.AllBlank blanks → rule.Joins c →
        session.cursor.rest = phrase.text ++ (blanks ++ c :: more) →
          ¬ StartsOperand session.limits session.depth more →
            ∃ failure, (session.read rule).1 = .error failure := by
  constructor
  · intro value after read
    obtain ⟨phrase, blanks, split, same, blank, means, stops, _⟩ := exists_phrase_of_read read
    exact ⟨phrase, blanks, split, same, means.legal, blank, means.fits, means.valued, stops⟩
  · intro phrase blanks more c legal blank joins written noOperand
    rcases answer : session.read rule with ⟨result, after⟩
    cases result with
    | error failure => exact ⟨failure, rfl⟩
    | ok value =>
        exact absurd (startsOperand_of_read answer legal blank joins written) noOperand

/-- A term between other symbols, and an operator at the end of the text. -/
theorem read_whole_phrase_of_term :
    let inside : Session :=
      { cursor := { text := "2-(8/3)* 3 )".toList, position := 2 }, depth := 1 }
    let cut : Session := { cursor := { text := "1 +".toList } }
    (∃ (phrase : Phrase .term) (blanks : List Char),
      phrase.text ++ blanks = "(8/3)* 3 ".toList ∧ phrase.Legal ∧ phrase.value? = some 6) ∧
      inside.read .term = (.ok 6, { inside with cursor := inside.cursor.forward 9 }) ∧
        ¬ StartsOperand cut.limits cut.depth [] ∧
          ∃ failure, (cut.read .expression).1 = .error failure := by
  intro inside cut
  have read : inside.read .term = (.ok 6, { inside with cursor := inside.cursor.forward 9 }) := by
    rfl
  have noOperand : ¬ StartsOperand cut.limits cut.depth [] := by
    rintro ⟨operand, left, ⟨legal, _⟩, nothing, _⟩
    have empty : operand.text = [] := (List.append_eq_nil_iff.1 nothing.symm).1
    cases operand with
    | ofNumber number =>
        cases number with
        | number blanks digits => exact legal.2.1 (List.append_eq_nil_iff.1 empty).2
    | group before body after => simp [Phrase.text] at empty
  obtain ⟨phrase, blanks, split, _, legal, _, _, valued, _⟩ :=
    (read_whole_phrase inside .term).1 6 _ read
  refine ⟨⟨phrase, blanks, ?_, legal, valued⟩, read, noOperand, ?_⟩
  · have taken : "(8/3)* 3 )".toList = phrase.text ++ blanks ++ [')'] := split
    exact (List.append_left_inj [')']).1 taken.symm
  · have one : (Phrase.ofTerm (.ofFactor (.ofNumber (.number [] ['1'])))).Legal :=
      ⟨allBlank_nil, by simp, List.all_eq_true.1 rfl⟩
    have space : Phrase.AllBlank [' '] := List.all_eq_true.1 rfl
    have joins : Rule.expression.Joins '+' := .inr (.inr (.inl rfl))
    exact (read_whole_phrase cut .expression).2 _ [' '] [] '+' one space joins rfl noOperand

end Session

end Abacus
