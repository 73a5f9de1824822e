/-
Module: Abacus.Proofs.Rules
Purpose: A rule that returns a value has read a phrase of its own, as far as the phrase goes.
Main exports: State.Modest, modest_of_walk, Rule.Joins, Phrase.Stops, Session.exists_phrase_of_read
-/
import Abacus.Proofs.Evaluation
import Abacus.Proofs.Spelling

namespace Abacus

/-!
What a rule does not offer may still be in place inside a group, and nowhere else.  So the level
outside of all groups never holds an operation that the rule lacks, and where no group is open the
pieces that a state stands for make up a phrase of the rule itself.
-/

/-! ### Outside of all groups -/

/-- The level outside of all groups, of which the first is on the given level. -/
def baseLevel : Level → List Group → Level
  | level, [] => level
  | _, group :: groups => baseLevel group.outer groups

/-- The level holds no operation that the rule does not offer. -/
structure Level.Modest (rule : Rule) (level : Level) : Prop where
  product : rule.multiplies = false → level.product = none
  sum : rule.adds = false → level.sum = none

/-- What the rule does not offer is not in place outside of all groups. -/
structure State.Modest (task : Task) (state : State) : Prop where
  groups : task.rule.opens = false → state.groups = []
  base : (baseLevel state.level state.groups).Modest task.rule

section Bases

variable {task : Task} {state next last : State} {c : Char} {cs : List Char}

/-- The level inside a group does not matter outside of it. -/
theorem modest_baseLevel {rule : Rule} {level other : Level} {groups : List Group}
    (modest : (baseLevel level groups).Modest rule)
    (alone : groups = [] → level.Modest rule → other.Modest rule) :
    (baseLevel other groups).Modest rule := by
  cases groups with
  | nil => exact alone rfl modest
  | cons group groups => exact modest

theorem State.Modest.factorRead (modest : state.Modest task) (start : Nat) (factor : Int) :
    (state.factorRead start factor).Modest task := by
  cases multiplied : state.level.multiply? factor with
  | none =>
      rw [State.factorRead_of_none multiplied]
      exact ⟨modest.groups, modest.base⟩
  | some value =>
      rw [State.factorRead_of_some multiplied]
      exact ⟨modest.groups, modest_baseLevel modest.base fun _ level => ⟨fun _ => rfl, level.sum⟩⟩

theorem State.Modest.closeLiteral (modest : state.Modest task) :
    (state.closeLiteral task).Modest task := by
  unfold State.closeLiteral
  split
  · split
    · exact ⟨modest.groups, modest.base⟩
    · exact modest.factorRead _ _
  · exact modest

/-- Outside of all groups only what the rule offers is allowed. -/
theorem State.offered_of_allows {offered : Bool} (allowed : state.allows offered = true)
    (closed : state.groups = []) : offered = true := by
  simpa [State.allows, closed] using allowed

theorem Rule.opens_of_multiplies {rule : Rule} (multiplies : rule.multiplies = true) :
    rule.opens = true := by
  cases rule with
  | number | factor => cases multiplies
  | term | expression => rfl

theorem Rule.multiplies_of_adds {rule : Rule} (adds : rule.adds = true) :
    rule.multiplies = true := by
  cases rule <;> first | rfl | cases adds

/-- No character puts in place what the rule does not offer. -/
theorem modest_of_move (move : Move task state c next) (modest : state.Modest task) :
    next.Modest task := by
  have closed := modest.closeLiteral
  cases move with
  | blankBefore phase blank => exact ⟨modest.groups, modest.base⟩
  | firstDigit phase digit => exact ⟨modest.groups, modest.base⟩
  | nextDigit phase digit => exact ⟨modest.groups, modest.base⟩
  | blankAfter phase allowed blank => exact ⟨closed.groups, closed.base⟩
  | opening phase allowed =>
      refine ⟨?_, ?_⟩
      · intro lacks
        rw [State.offered_of_allows allowed (modest.groups lacks)] at lacks
        cases lacks
      · rw [State.groups_openGroup]
        exact modest.base
  | @product value op phase allowed =>
      refine ⟨closed.groups, modest_baseLevel closed.base fun alone level => ⟨?_, level.sum⟩⟩
      intro lacks
      have outside : state.groups = [] := (State.groups_closeLiteral task state).symm.trans alone
      rw [State.offered_of_allows allowed outside] at lacks
      cases lacks
  | @sum value op phase allowed =>
      refine ⟨closed.groups, modest_baseLevel closed.base fun alone _ => ⟨fun _ => rfl, ?_⟩⟩
      intro lacks
      have outside : state.groups = [] := (State.groups_closeLiteral task state).symm.trans alone
      rw [State.offered_of_allows allowed outside] at lacks
      cases lacks
  | @closing value group groups phase opened =>
      have base := closed.base
      rw [State.groups_closeLiteral, opened] at base
      refine State.Modest.factorRead ⟨?_, base⟩ _ _
      intro lacks
      cases opened.symm.trans (modest.groups lacks)

theorem modest_of_walk (walked : state.walk task cs = some last) (modest : state.Modest task) :
    last.Modest task := by
  induction cs generalizing state with
  | nil =>
      cases walked
      exact modest
  | cons c cs ih =>
      obtain ⟨middle, stepped, onward⟩ := Option.bind_eq_some_iff.1 walked
      exact ih onward (modest_of_move (move_of_step stepped) modest)

theorem modest_start (task : Task) (position : Nat) :
    State.Modest task { position := position } where
  groups := fun _ => rfl
  base := ⟨fun _ => rfl, fun _ => rfl⟩

end Bases

/-! ### Phrases of the rule -/

section Readings

variable {task : Task} {state last : State} {cs : List Char} {position : Nat}

/-- What has been read without failing. -/
structure Read (task : Task) (cs : List Char) (state : State) : Prop where
  modest : state.Modest task
  spells : state.Spells task cs

theorem read_of_walk (walked : State.walk task { position := position } cs = some last) :
    Read task cs last where
  modest := modest_of_walk walked (modest_start task position)
  spells := spells_of_walk (spells_start task position) walked

/-- Outside of all groups an expression has been read, and blanks. -/
theorem Read.expression (read : Read task cs state) {term : Int}
    (phase : state.phase = .operator term) (alone : state.groups = []) :
    ∃ (expression : Phrase .expression) (blanks : List Char),
      cs = expression.text ++ blanks ∧ Phrase.AllBlank blanks ∧
        expression.Means task.limits task.depth (state.level.total term) := by
  obtain ⟨outside, blanks, expression, rfl, groups, means, blank⟩ :=
    exists_phrase_of_operator phase read.spells
  rw [alone] at groups
  obtain rfl : outside = [] := groups
  rw [State.depth, alone] at means
  exact ⟨expression, blanks, rfl, blank, means⟩

/-- Where the level holds no sum, a term is its total. -/
theorem State.Modest.total (modest : state.Modest task) (noSums : task.rule.adds = false)
    (alone : state.groups = []) (term : Int) : state.level.total term = term := by
  have base := modest.base
  rw [alone] at base
  rw [Level.total, show state.level.sum = none from base.sum noSums]

/-- A rule without sums has read a term, and blanks. -/
theorem Read.term (read : Read task cs state) (noSums : task.rule.adds = false) {term : Int}
    (phase : state.phase = .operator term) (alone : state.groups = []) :
    ∃ (phrase : Phrase .term) (blanks : List Char),
      cs = phrase.text ++ blanks ∧ Phrase.AllBlank blanks ∧
        phrase.Means task.limits task.depth term := by
  have base := read.modest.base
  obtain ⟨outside, sums, blanks, phrase, rfl, groups, waits, _, means, blank⟩ :=
    (spells_iff_of_operator phase).1 read.spells
  rw [alone] at groups base
  obtain rfl : outside = [] := groups
  rw [show state.level.sum = none from base.sum noSums] at waits
  obtain rfl : sums = [] := waits
  rw [State.depth, alone] at means
  exact ⟨phrase, blanks, rfl, blank, means⟩

theorem Rule.adds_eq_false {rule : Rule} (noProducts : rule.multiplies = false) :
    rule.adds = false := by
  cases adds : rule.adds with
  | false => rfl
  | true =>
      rw [Rule.multiplies_of_adds adds] at noProducts
      cases noProducts

/-- A level without operations is empty, and stands for nothing. -/
theorem Level.Modest.eq_empty {rule : Rule} {level : Level} (modest : level.Modest rule)
    (noProducts : rule.multiplies = false) : level = {} := by
  obtain ⟨sum, product⟩ := level
  obtain rfl : product = none := modest.product noProducts
  obtain rfl : sum = none := modest.sum (Rule.adds_eq_false noProducts)
  rfl

theorem eq_nil_of_spells_empty {limits : Limits} {depth : Nat}
    (spells : Level.Spells limits depth {} cs) : cs = [] := by
  obtain ⟨sums, products, rfl, waitsSum, waitsProduct⟩ := spells
  obtain rfl : sums = [] := waitsSum
  obtain rfl : products = [] := waitsProduct
  rfl

theorem multiply?_of_empty {level : Level} (empty : level = {}) (factor : Int) :
    level.multiply? factor = some factor := by
  rw [empty]
  rfl

/-- A rule without products has read a number when it has read digits. -/
theorem Read.number (read : Read task cs state) (noProducts : task.rule.multiplies = false)
    {start count value : Nat} (literal : state.phase = .literal start count value)
    (alone : state.groups = []) {term : Int}
    (closed : (state.closeLiteral task).phase = .operator term) :
    ∃ number : Phrase .number, cs = number.text ∧ number.Means task.limits task.depth term := by
  obtain ⟨outside, here, rfl, groups, spellsHere⟩ := read.spells (by simp [literal])
  have base := read.modest.base
  rw [alone] at groups base
  obtain rfl : outside = [] := groups
  have empty : state.level = {} := base.eq_empty noProducts
  rw [State.SpellsHere, literal] at spellsHere
  obtain ⟨before, blanks, digits, rfl, level, legal, rfl, rfl⟩ := spellsHere
  rw [empty] at level
  obtain rfl := eq_nil_of_spells_empty level
  cases refusal : State.literalRefusal? task.limits digits.length with
  | some cause =>
      rw [State.closeLiteral_of_refused literal refusal] at closed
      cases closed
  | none =>
      rw [State.closeLiteral_of_accepted literal refusal,
        State.factorRead_of_some (multiply?_of_empty empty _)] at closed
      cases closed
      exact ⟨.number blanks digits, rfl, legal, literalRefusal?_eq_none_iff.1 refusal, rfl⟩

/-- A rule without products has read a group when it has read a closing parenthesis. -/
theorem Read.group (read : Read task cs state) (noProducts : task.rule.multiplies = false)
    {value : Int} (phase : (state.closeLiteral task).phase = .operator value) {group : Group}
    (opened : state.groups = [group]) :
    ∃ (before : List Char) (body : Phrase .expression) (after : List Char),
      cs ++ [')'] = (Phrase.group before body after).text ∧
        (Phrase.group before body after).Means task.limits task.depth
          ((state.closeLiteral task).level.total value) ∧ group.outer = {} := by
  obtain ⟨outside, after, body, rfl, groups, means, blankAfter⟩ :=
    exists_phrase_of_operator phase (spells_closeLiteral read.spells)
  have base := read.modest.base
  rw [opened] at base
  have empty : group.outer = {} := base.eq_empty noProducts
  have depth : (state.closeLiteral task).depth task = task.depth + 1 := by
    simp [State.depth, opened]
  rw [State.groups_closeLiteral, opened] at groups
  obtain ⟨outer, here, before, rfl, outerSpell, level, blankBefore, within⟩ := groups
  obtain rfl : outer = [] := outerSpell
  rw [empty] at level
  obtain rfl := eq_nil_of_spells_empty level
  rw [depth] at means
  exact ⟨before, body, after, by simp [Phrase.text],
    .group means within blankBefore blankAfter, empty⟩

/-- Without products, only a closing parenthesis leads behind a whole factor. -/
theorem closing_of_move {c : Char} (move : Move task state c last)
    (noProducts : task.rule.multiplies = false) (alone : last.groups = []) {term : Int}
    (phase : last.phase = .operator term) :
    c = ')' ∧ ∃ (value : Int) (group : Group),
      (state.closeLiteral task).phase = .operator value ∧ state.groups = [group] ∧
        last = { (state.closeLiteral task).advance with
          level := group.outer, groups := [] }.factorRead group.opening
            ((state.closeLiteral task).level.total value) := by
  cases move with
  | blankBefore operand blank =>
      rw [State.phase_advance, operand] at phase
      cases phase
  | firstDigit operand digit => cases phase
  | nextDigit literal digit => cases phase
  | product op operator allowed => cases phase
  | sum op operator allowed => cases phase
  | opening operand allowed =>
      rw [State.groups_openGroup] at alone
      cases alone
  | blankAfter operator allowed blank =>
      have outside : state.groups = [] := (State.groups_closeLiteral task state).symm.trans alone
      rw [State.offered_of_allows allowed outside] at noProducts
      cases noProducts
  | @closing value group groups operator opened =>
      rw [State.groups_factorRead] at alone
      obtain rfl : groups = [] := alone
      exact ⟨rfl, value, group, operator, opened, rfl⟩

/-- A rule without products that is behind a whole factor, and reads no literal, has read a
group. -/
theorem exists_group_of_walk (walked : State.walk task { position := position } cs = some last)
    (noProducts : task.rule.multiplies = false) (alone : last.groups = []) {term : Int}
    (phase : last.phase = .operator term) :
    task.rule.opens = true ∧
      ∃ (before : List Char) (body : Phrase .expression) (after : List Char),
        cs = (Phrase.group before body after).text ∧
          (Phrase.group before body after).Means task.limits task.depth term := by
  rcases State.exists_last_step walked with ⟨rfl, rfl⟩ | ⟨front, c, middle, rfl, reached, stepped⟩
  · cases phase
  · obtain ⟨rfl, value, group, operator, opened, rfl⟩ :=
      closing_of_move (move_of_step stepped) noProducts alone phase
    have read := read_of_walk reached
    obtain ⟨before, body, after, written, means, empty⟩ :=
      read.group noProducts operator opened
    rw [State.factorRead_of_some (multiply?_of_empty empty _)] at phase
    cases phase
    refine ⟨?_, before, body, after, written, means⟩
    cases opens : task.rule.opens with
    | true => rfl
    | false => cases opened.symm.trans (read.modest.groups opens)

end Readings

/-! ### Where a rule stops -/

/-- The operators that a phrase of the rule may hold outside of all groups. -/
def Rule.Joins : Rule → Char → Prop
  | .number, _ => False
  | .factor, _ => False
  | .term, c => c = '*' ∨ c = '/'
  | .expression, c => c = '*' ∨ c = '/' ∨ c = '+' ∨ c = '-'

namespace Phrase

/-- The phrase, with blanks behind it, is all that its rule can read in front of that character: a
number takes every digit, a group ends with its parenthesis, and a chain stops neither in front of
a blank nor in front of an operator that would prolong it. -/
def Stops : {rule : Rule} → (phrase : Phrase rule) → (blanks : List Char) → Option Char → Prop
  | .number, _, blanks, next => blanks = [] ∧ ∀ c ∈ next, Text.isDigit c = false
  | .factor, ofNumber inner, blanks, next => inner.Stops blanks next
  | .factor, group before body after, blanks, _ =>
      blanks = [] ∧ (group before body after).text.getLast? = some ')'
  | .term, _, _, next => ∀ c ∈ next, Text.isBlank c = false ∧ ¬ Rule.term.Joins c
  | .expression, _, _, next => ∀ c ∈ next, Text.isBlank c = false ∧ ¬ Rule.expression.Joins c

theorem stops_term {term : Phrase .term} {blanks : List Char} {next : Option Char} :
    term.Stops blanks next ↔
      ∀ c ∈ next, Text.isBlank c = false ∧ ¬ Rule.term.Joins c := by
  cases term <;> rfl

theorem stops_expression {expression : Phrase .expression} {blanks : List Char}
    {next : Option Char} :
    expression.Stops blanks next ↔
      ∀ c ∈ next, Text.isBlank c = false ∧ ¬ Rule.expression.Joins c := by
  cases expression <;> rfl

theorem stops_number {number : Phrase .number} {next : Option Char}
    (ends : ∀ c ∈ next, Text.isDigit c = false) : number.Stops [] next := by
  cases number
  exact ⟨rfl, ends⟩

theorem stops_group (before : List Char) (body : Phrase .expression) (after : List Char)
    (next : Option Char) : (group before body after).Stops [] next :=
  ⟨rfl, List.getLast?_concat⟩

end Phrase

section Stopping

variable {task : Task} {state : State} {c : Char}

theorem operator_of_joins {rule : Rule} (joins : rule.Joins c) :
    (rule.multiplies = true ∧ ∃ op : ProductOp, c = op.symbol) ∨
      rule.adds = true ∧ ∃ op : SumOp, c = op.symbol := by
  cases rule with
  | number | factor => cases joins
  | term =>
      rcases joins with rfl | rfl
      · exact .inl ⟨rfl, .multiply, rfl⟩
      · exact .inl ⟨rfl, .divide, rfl⟩
  | expression =>
      rcases joins with rfl | rfl | rfl | rfl
      · exact .inl ⟨rfl, .multiply, rfl⟩
      · exact .inl ⟨rfl, .divide, rfl⟩
      · exact .inr ⟨rfl, .add, rfl⟩
      · exact .inr ⟨rfl, .subtract, rfl⟩

/-- Behind a whole factor the rule goes on with its operators. -/
theorem exists_step_of_joins {term : Int}
    (phase : (state.closeLiteral task).phase = .operator term) (joins : task.rule.Joins c) :
    ∃ next, state.step task c = some next ∧ next.phase = .operand ∧
      next.groups = state.groups := by
  have offers {offered : Bool} (offer : offered = true) : state.allows offered = true := by
    rw [offer]
    rfl
  rcases operator_of_joins joins with ⟨multiplies, op, rfl⟩ | ⟨adds, op, rfl⟩
  · exact ⟨_, step_of_move (.product op phase (offers multiplies)), rfl,
      State.groups_closeLiteral task state⟩
  · exact ⟨_, step_of_move (.sum op phase (offers adds)), rfl, State.groups_closeLiteral task state⟩

/-- A chain does not stop in front of a blank or of one of its operators. -/
theorem not_joins_of_refused {term : Int}
    (phase : (state.closeLiteral task).phase = .operator term)
    (multiplies : task.rule.multiplies = true) (refused : state.step task c = none) :
    Text.isBlank c = false ∧ ¬ task.rule.Joins c := by
  constructor
  · cases blank : Text.isBlank c with
    | false => rfl
    | true =>
        have allowed : state.allows task.rule.multiplies = true := by
          rw [multiplies]
          rfl
        rw [step_of_move (.blankAfter phase allowed blank)] at refused
        cases refused
  · intro joins
    obtain ⟨next, stepped, _⟩ := exists_step_of_joins phase joins
    cases refused.symm.trans stepped

/-- A number does not stop in front of a digit. -/
theorem isDigit_of_refused {start count value : Nat}
    (literal : state.phase = .literal start count value)
    (refused : state.step task c = none) : Text.isDigit c = false := by
  rw [isDigit_eq_false_iff]
  cases digit : Text.digitValue? c with
  | none => rfl
  | some d =>
      rw [step_of_move (.nextDigit literal digit)] at refused
      cases refused

/-- No literal is cut in two between the texts. -/
def CutsNoLiteral (cs ds : List Char) : Prop :=
  ∀ d ∈ cs.getLast?, Text.isDigit d = true → ∀ c ∈ ds.head?, Text.isDigit c = false

/-- A run stops behind all digits of a literal. -/
theorem cutsNoLiteral_of_walk {start last : State} {taken left : List Char}
    (walked : start.walk task taken = some last)
    (refused : ∀ c ∈ left.head?, last.step task c = none) : CutsNoLiteral taken left := by
  intro d final digit c next
  rcases State.exists_last_step walked with ⟨rfl, _⟩ | ⟨before, e, middle, rfl, _, stepped⟩
  · cases final
  · obtain rfl : e = d := by simpa using final
    obtain ⟨worth, digit⟩ := Option.isSome_iff_exists.1 digit
    rcases digit_of_move digit (move_of_step stepped) with
      ⟨_, rfl⟩ | ⟨start, count, value, _, rfl⟩
    · exact isDigit_of_refused rfl (refused c next)
    · exact isDigit_of_refused rfl (refused c next)

end Stopping

/-- A rule without products has read a number up to its last digit, or a group. -/
theorem factor_cases_of_walk {task : Task} {position : Nat} {taken left : List Char}
    {last : State} (walked : State.walk task { position := position } taken = some last)
    (refused : ∀ c ∈ left.head?, last.step task c = none)
    (noProducts : task.rule.multiplies = false) (alone : last.groups = []) {term : Int}
    (phase : (last.closeLiteral task).phase = .operator term) :
    (∃ number : Phrase .number, taken = number.text ∧
      number.Means task.limits task.depth term ∧ number.Stops [] left.head?) ∨
    task.rule.opens = true ∧
      ∃ (before : List Char) (body : Phrase .expression) (after : List Char),
        taken = (Phrase.group before body after).text ∧
          (Phrase.group before body after).Means task.limits task.depth term := by
  cases here : last.phase with
  | literal start count value =>
      obtain ⟨number, written, means⟩ :=
        (read_of_walk walked).number noProducts here alone phase
      exact .inl ⟨number, written, means, Phrase.stops_number fun c next =>
        isDigit_of_refused here (refused c next)⟩
  | operand | failed =>
      rw [State.closeLiteral_eq_self (by simp [here]), here] at phase
      cases phase
  | operator value =>
      rw [State.closeLiteral_of_operator task here] at phase
      exact .inr (exists_group_of_walk walked noProducts alone phase)

/-- A walk to a state with a value spells a phrase of the rule, as far as the phrase goes. -/
theorem exists_phrase_of_walk {task : Task} {position : Nat} {taken left : List Char}
    {last : State} (walked : State.walk task { position := position } taken = some last)
    (refused : ∀ c ∈ left.head?, last.step task c = none) {value : Int}
    (answered : (last.closeLiteral task).answer = .ok value) :
    ∃ (phrase : Phrase task.rule) (blanks : List Char),
      taken = phrase.text ++ blanks ∧ Phrase.AllBlank blanks ∧
        phrase.Means task.limits task.depth value ∧ phrase.Stops blanks left.head? := by
  obtain ⟨term, phase, alone, rfl⟩ := State.answer_eq_ok_iff.1 answered
  have read := read_of_walk walked
  have closed : Read task taken (last.closeLiteral task) :=
    ⟨read.modest.closeLiteral, spells_closeLiteral read.spells⟩
  have outside : last.groups = [] := (State.groups_closeLiteral task last).symm.trans alone
  obtain ⟨rule, limits, depth⟩ := task
  cases rule with
  | expression =>
      obtain ⟨phrase, blanks, written, blank, means⟩ := closed.expression phase alone
      exact ⟨phrase, blanks, written, blank, means, Phrase.stops_expression.2 fun c next =>
        not_joins_of_refused phase rfl (refused c next)⟩
  | term =>
      obtain ⟨phrase, blanks, written, blank, means⟩ := closed.term rfl phase alone
      rw [closed.modest.total rfl alone]
      exact ⟨phrase, blanks, written, blank, means, Phrase.stops_term.2 fun c next =>
        not_joins_of_refused phase rfl (refused c next)⟩
  | factor =>
      rw [closed.modest.total rfl alone]
      rcases factor_cases_of_walk walked refused rfl outside phase with
        ⟨number, written, means, stops⟩ | ⟨_, before, body, after, written, means⟩
      · exact ⟨.ofNumber number, [], by rw [List.append_nil]; exact written, allBlank_nil,
          ⟨means.legal, means.fits, means.valued⟩, stops⟩
      · exact ⟨.group before body after, [], by rw [List.append_nil]; exact written, allBlank_nil,
          means, Phrase.stops_group before body after _⟩
  | number =>
      rw [closed.modest.total rfl alone]
      rcases factor_cases_of_walk walked refused rfl outside phase with
        ⟨number, written, means, stops⟩ | ⟨opens, _⟩
      · exact ⟨number, [], by rw [List.append_nil]; exact written, allBlank_nil, means, stops⟩
      · cases opens

/-- **A rule that returns has read its own phrase, and as much as it can.**  Where a session reads
a value, the cursor passes a phrase of the rule with that value, within the limits, and blanks
behind a chain; the depth is as before, and the phrase stops where nothing more belongs to it. -/
theorem Session.exists_phrase_of_read {session after : Session} {rule : Rule} {value : Int}
    (read : session.read rule = (.ok value, after)) :
    ∃ (phrase : Phrase rule) (blanks : List Char),
      session.cursor.rest = phrase.text ++ blanks ++ after.cursor.rest ∧
        after = { session with
          cursor := session.cursor.forward (phrase.text ++ blanks).length } ∧
        Phrase.AllBlank blanks ∧ phrase.Means session.limits session.depth value ∧
          phrase.Stops blanks after.cursor.rest.head? ∧
            CutsNoLiteral (phrase.text ++ blanks) after.cursor.rest := by
  obtain ⟨taken, left, last, split, walked, stop, refused⟩ := exists_walk_of_run
    { rule := rule, limits := session.limits, depth := session.depth }
    { position := session.cursor.position } session.cursor.rest
  rw [Session.read] at read
  dsimp only at read
  rw [stop] at read
  obtain ⟨answered, behind⟩ := Prod.mk.inj read
  obtain ⟨term, _, alone, _⟩ := State.answer_eq_ok_iff.1 answered
  rw [State.groups_closeLiteral] at alone
  obtain ⟨phrase, blanks, rfl, blank, means, stops⟩ :=
    exists_phrase_of_walk walked refused answered
  have position : last.position = session.cursor.position + (phrase.text ++ blanks).length :=
    State.position_walk walked
  have same : after =
      { session with cursor := session.cursor.forward (phrase.text ++ blanks).length } := by
    rw [← behind]
    simp only [State.settle, State.depth, alone, position, List.length_nil, Nat.add_zero]
    rfl
  have rest : after.cursor.rest = left := by
    rw [same, Cursor.rest_forward, split, List.drop_left]
  rw [rest]
  exact ⟨phrase, blanks, split, same, blank, means, stops, cutsNoLiteral_of_walk walked refused⟩

end Abacus
