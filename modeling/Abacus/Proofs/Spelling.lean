/-
Module: Abacus.Proofs.Spelling
Purpose: Every state of the machine spells out what has been read as parts of phrases.
Main exports: Phrase.Means, State.Spells, spells_of_move, spells_of_walk,
  exists_phrase_of_operator
-/
import Abacus.Phrase
import Abacus.Proofs.Reading

namespace Abacus

/-!
The machine forgets the text that it has read, but every part of its state stands for a piece of
it: an operation that waits for its right-hand side stands for the chain to its left, an open
group for what was read before its parenthesis, and the phase for what has been read since.  The
pieces in this order make up the whole text.  One character keeps this so; where the machine has
a value, the pieces then make up one expression with that value.
-/

/-- The phrase is written as it should be, keeps to the limits where `depth` groups are open
around it, and has that value. -/
structure Phrase.Means (limits : Limits) (depth : Nat) {rule : Rule} (phrase : Phrase rule)
    (value : Int) : Prop where
  legal : phrase.Legal
  fits : phrase.Fits limits depth
  valued : phrase.value? = some value

namespace Phrase.Means

variable {limits : Limits} {depth : Nat}

theorem ofNumber {blanks digits : List Char} (legal : (number blanks digits).Legal)
    (accepted : State.literalRefusal? limits digits.length = none) :
    (Phrase.ofNumber (number blanks digits)).Means limits depth (literalValue digits) where
  legal := legal
  fits := literalRefusal?_eq_none_iff.1 accepted
  valued := rfl

theorem group {body : Phrase .expression} {value : Int}
    (body_means : body.Means limits (depth + 1) value)
    (within : limits.depth = 0 ∨ ((depth + 1 : Nat) : Int) ≤ limits.depth)
    {before after : List Char} (blankBefore : AllBlank before) (blankAfter : AllBlank after) :
    (Phrase.group before body after).Means limits depth value where
  legal := ⟨blankBefore, body_means.legal, blankAfter⟩
  fits := ⟨within, body_means.fits⟩
  valued := body_means.valued

theorem ofFactor {factor : Phrase .factor} {value : Int} (means : factor.Means limits depth value) :
    (Phrase.ofFactor factor).Means limits depth value where
  legal := means.legal
  fits := means.fits
  valued := means.valued

theorem product {left : Phrase .term} {right : Phrase .factor} {first second value : Int}
    {op : ProductOp} (leftMeans : left.Means limits depth first)
    (rightMeans : right.Means limits depth second)
    (applied : op.join? first second = some value) {blanks : List Char} (blank : AllBlank blanks) :
    (Phrase.product left blanks op right).Means limits depth value where
  legal := ⟨leftMeans.legal, blank, rightMeans.legal⟩
  fits := ⟨leftMeans.fits, rightMeans.fits⟩
  valued := value?_product_eq_some_iff.2
    ⟨first, second, leftMeans.valued, rightMeans.valued, applied⟩

theorem ofTerm {term : Phrase .term} {value : Int} (means : term.Means limits depth value) :
    (Phrase.ofTerm term).Means limits depth value where
  legal := means.legal
  fits := means.fits
  valued := means.valued

theorem sum {left : Phrase .expression} {right : Phrase .term} {first second : Int} (op : SumOp)
    (leftMeans : left.Means limits depth first) (rightMeans : right.Means limits depth second)
    {blanks : List Char} (blank : AllBlank blanks) :
    (Phrase.sum left blanks op right).Means limits depth (op.join first second) where
  legal := ⟨leftMeans.legal, blank, rightMeans.legal⟩
  fits := ⟨leftMeans.fits, rightMeans.fits⟩
  valued := value?_sum_eq_some_iff.2
    ⟨first, second, leftMeans.valued, rightMeans.valued, rfl⟩

end Phrase.Means

/-! ### Pieces of text -/

/-- What an operation stands for that waits for its right-hand side: a phrase with the value to
its left, blanks, and the symbol. -/
def WaitsBehind (limits : Limits) (depth : Nat) (rule : Rule) {Op : Type} (symbol : Op → Char) :
    Option (Int × Op) → List Char → Prop
  | none, cs => cs = []
  | some (value, op), cs => ∃ (left : Phrase rule) (blanks : List Char),
      left.Means limits depth value ∧ Phrase.AllBlank blanks ∧
        cs = left.text ++ blanks ++ [symbol op]

/-- What a level stands for: the waiting sum and then the waiting product. -/
def Level.Spells (limits : Limits) (depth : Nat) (level : Level) (cs : List Char) : Prop :=
  ∃ sums products, cs = sums ++ products ∧
    WaitsBehind limits depth .expression SumOp.symbol level.sum sums ∧
    WaitsBehind limits depth .term ProductOp.symbol level.product products

/-- What open groups stand for: all that was read up to the parenthesis of the innermost one. -/
def GroupsSpell (task : Task) : List Group → List Char → Prop
  | [], cs => cs = []
  | group :: groups, cs => ∃ outside here blanks,
      cs = outside ++ (here ++ (blanks ++ ['('])) ∧ GroupsSpell task groups outside ∧
        group.outer.Spells task.limits (task.depth + groups.length) here ∧
        Phrase.AllBlank blanks ∧
        (task.limits.depth = 0 ∨
          ((task.depth + groups.length + 1 : Nat) : Int) ≤ task.limits.depth)

namespace State

/-- What has been read since the innermost open parenthesis.  A failed state no longer says. -/
def SpellsHere (limits : Limits) (depth : Nat) (state : State) (cs : List Char) : Prop :=
  match state.phase with
  | .operand => ∃ before blanks, cs = before ++ blanks ∧
      state.level.Spells limits depth before ∧ Phrase.AllBlank blanks
  | .literal _ count value => ∃ before blanks digits, cs = before ++ (blanks ++ digits) ∧
      state.level.Spells limits depth before ∧ (Phrase.number blanks digits).Legal ∧
        digits.length = count ∧ Phrase.literalValue digits = value
  | .operator value => ∃ sums blanks, ∃ term : Phrase .term, cs = sums ++ (term.text ++ blanks) ∧
      WaitsBehind limits depth .expression SumOp.symbol state.level.sum sums ∧
        state.level.product = none ∧ term.Means limits depth value ∧ Phrase.AllBlank blanks
  | .failed _ => True

/-- The text that a state stands for, if it starts where the run started. -/
def Spells (task : Task) (state : State) (cs : List Char) : Prop :=
  (∀ failure, state.phase ≠ .failed failure) →
    ∃ outside here, cs = outside ++ here ∧ GroupsSpell task state.groups outside ∧
      state.SpellsHere task.limits (state.depth task) here

end State

section Steps

variable {limits : Limits} {depth : Nat} {task : Task} {state next : State} {cs : List Char}

theorem allBlank_nil : Phrase.AllBlank [] := by
  simp [Phrase.AllBlank]

/-- A part of one class of characters is prolonged by another of them. -/
theorem forall_mem_append_singleton {belongs : Char → Bool} {ds : List Char} {c : Char}
    (all : ∀ d ∈ ds, belongs d = true) (last : belongs c = true) :
    ∀ d ∈ ds ++ [c], belongs d = true := by
  intro d mem
  rcases List.mem_append.1 mem with earlier | new
  · exact all d earlier
  · rw [List.mem_singleton.1 new]
    exact last

/-- A failed state may have read anything. -/
theorem spells_of_failed {failure : Failure} (phase : state.phase = .failed failure) :
    state.Spells task cs := by
  intro unfailed
  exact absurd phase (unfailed failure)

/-- Before a factor stands what the level stands for, and then blanks. -/
theorem spells_iff_of_operand (phase : state.phase = .operand) :
    state.Spells task cs ↔ ∃ outside before blanks, cs = outside ++ (before ++ blanks) ∧
      GroupsSpell task state.groups outside ∧
        state.level.Spells task.limits (state.depth task) before ∧ Phrase.AllBlank blanks := by
  constructor
  · intro spells
    obtain ⟨outside, here, rfl, groups, spellsHere⟩ := spells (by simp [phase])
    rw [State.SpellsHere, phase] at spellsHere
    obtain ⟨before, blanks, rfl, level, blank⟩ := spellsHere
    exact ⟨outside, before, blanks, rfl, groups, level, blank⟩
  · rintro ⟨outside, before, blanks, rfl, groups, level, blank⟩ _
    refine ⟨outside, before ++ blanks, rfl, groups, ?_⟩
    rw [State.SpellsHere, phase]
    exact ⟨before, blanks, rfl, level, blank⟩

/-- Behind a factor stands the waiting sum, and then a term and blanks. -/
theorem spells_iff_of_operator {value : Int} (phase : state.phase = .operator value) :
    state.Spells task cs ↔ ∃ outside sums blanks, ∃ term : Phrase .term,
      cs = outside ++ (sums ++ (term.text ++ blanks)) ∧ GroupsSpell task state.groups outside ∧
        WaitsBehind task.limits (state.depth task) .expression SumOp.symbol state.level.sum sums ∧
          state.level.product = none ∧ term.Means task.limits (state.depth task) value ∧
            Phrase.AllBlank blanks := by
  constructor
  · intro spells
    obtain ⟨outside, here, rfl, groups, spellsHere⟩ := spells (by simp [phase])
    rw [State.SpellsHere, phase] at spellsHere
    obtain ⟨sums, blanks, term, rfl, waits, none, means, blank⟩ := spellsHere
    exact ⟨outside, sums, blanks, term, rfl, groups, waits, none, means, blank⟩
  · rintro ⟨outside, sums, blanks, term, rfl, groups, waits, none, means, blank⟩ _
    refine ⟨outside, sums ++ (term.text ++ blanks), rfl, groups, ?_⟩
    rw [State.SpellsHere, phase]
    exact ⟨sums, blanks, term, rfl, waits, none, means, blank⟩

/-- Behind a chain of terms stands an expression with the total of the level. -/
theorem exists_phrase_of_operator {value : Int} (phase : state.phase = .operator value)
    (spells : state.Spells task cs) :
    ∃ (outside blanks : List Char) (expression : Phrase .expression),
      cs = outside ++ (expression.text ++ blanks) ∧ GroupsSpell task state.groups outside ∧
        expression.Means task.limits (state.depth task) (state.level.total value) ∧
          Phrase.AllBlank blanks := by
  obtain ⟨outside, sums, blanks, term, rfl, groups, waits, _, means, blank⟩ :=
    (spells_iff_of_operator phase).1 spells
  cases waiting : state.level.sum with
  | none =>
      rw [waiting] at waits
      obtain rfl : sums = [] := waits
      refine ⟨outside, blanks, .ofTerm term, rfl, groups, ?_, blank⟩
      rw [Level.total, waiting]
      exact means.ofTerm
  | some pending =>
      obtain ⟨left, op⟩ := pending
      rw [waiting] at waits
      obtain ⟨chain, between, chainMeans, blankBetween, rfl⟩ := waits
      refine ⟨outside, blanks, .sum chain between op term, by simp [Phrase.text], groups, ?_, blank⟩
      rw [Level.total, waiting]
      exact .sum op chainMeans means blankBetween

/-- A factor becomes part of the term that waits for it. -/
theorem spellsHere_factorRead {factor : Phrase .factor} {value : Int}
    (level : state.level.Spells limits depth cs) (means : factor.Means limits depth value)
    (start : Nat) : (state.factorRead start value).SpellsHere limits depth (cs ++ factor.text) := by
  obtain ⟨sums, products, rfl, waitsSum, waitsProduct⟩ := level
  cases multiplied : state.level.multiply? value with
  | none =>
      rw [State.factorRead_of_none multiplied]
      trivial
  | some result =>
      rw [State.factorRead_of_some multiplied]
      cases waiting : state.level.product with
      | none =>
          rw [waiting] at waitsProduct
          obtain rfl : products = [] := waitsProduct
          obtain rfl : value = result := by simpa [Level.multiply?, waiting] using multiplied
          exact ⟨sums, [], .ofFactor factor, by simp [Phrase.text], waitsSum, rfl,
            means.ofFactor, allBlank_nil⟩
      | some pending =>
          obtain ⟨left, op⟩ := pending
          rw [waiting] at waitsProduct
          obtain ⟨chain, blanks, chainMeans, blank, rfl⟩ := waitsProduct
          have applied : op.join? left value = some result := by
            simpa [Level.multiply?, waiting] using multiplied
          exact ⟨sums, [], .product chain blanks op factor, by simp [Phrase.text], waitsSum, rfl,
            .product chainMeans means applied blank, allBlank_nil⟩

/-- A closed literal is a factor. -/
theorem spells_closeLiteral (spells : state.Spells task cs) :
    (state.closeLiteral task).Spells task cs := by
  cases phase : state.phase with
  | operand | operator | failed =>
      rw [State.closeLiteral_eq_self (by simp [phase])]
      exact spells
  | literal start count value =>
      obtain ⟨outside, here, rfl, groups, spellsHere⟩ := spells (by simp [phase])
      intro _
      refine ⟨outside, here, rfl, by simpa using groups, ?_⟩
      rw [State.SpellsHere, phase] at spellsHere
      obtain ⟨before, blanks, digits, rfl, level, legal, rfl, rfl⟩ := spellsHere
      cases refusal : State.literalRefusal? task.limits digits.length with
      | some cause =>
          rw [State.closeLiteral_of_refused phase refusal]
          trivial
      | none =>
          rw [State.closeLiteral_of_accepted phase refusal]
          simp only [State.depth, State.groups_factorRead]
          exact spellsHere_factorRead level (.ofNumber legal refusal) start

/-- A group that is closed becomes a factor. -/
theorem spells_closing {value : Int} (phase : state.phase = .operator value) {group : Group}
    {groups : List Group} (opened : state.groups = group :: groups)
    (spells : state.Spells task cs) :
    ({ state.advance with level := group.outer, groups := groups }.factorRead
      group.opening (state.level.total value)).Spells task (cs ++ [')']) := by
  obtain ⟨outside, after, body, rfl, groupsSpell, means, blankAfter⟩ :=
    exists_phrase_of_operator phase spells
  rw [opened] at groupsSpell
  obtain ⟨outer, before, blanks, rfl, outerSpell, level, blankBefore, within⟩ := groupsSpell
  have depth : state.depth task = task.depth + groups.length + 1 := by
    simp [State.depth, opened, Nat.add_assoc]
  rw [depth] at means
  intro _
  refine ⟨outer, before ++ (Phrase.group blanks body after).text, by simp [Phrase.text],
    by simpa using outerSpell, ?_⟩
  simp only [State.depth, State.groups_factorRead]
  exact spellsHere_factorRead level (.group means within blankBefore blankAfter) _

/-- Another digit makes the literal worth ten times as much, and the digit. -/
theorem literalValue_append_singleton (digits : List Char) {c : Char} {d : Nat}
    (digit : Text.digitValue? c = some d) :
    Phrase.literalValue (digits ++ [c]) = 10 * Phrase.literalValue digits + d := by
  simp [Phrase.literalValue, List.foldl_append, digit]

/-- One character keeps the text of a state in step with what has been read. -/
theorem spells_of_move {c : Char} (move : Move task state c next)
    (spells : state.Spells task cs) : next.Spells task (cs ++ [c]) := by
  cases move with
  | blankBefore phase blank =>
      obtain ⟨outside, before, blanks, rfl, groups, level, blankHere⟩ :=
        (spells_iff_of_operand phase).1 spells
      have onward : state.advance.phase = .operand := phase
      exact (spells_iff_of_operand onward).2 ⟨outside, before, blanks ++ [c], by simp, groups,
        level, forall_mem_append_singleton blankHere blank⟩
  | @firstDigit c d phase digit =>
      obtain ⟨outside, before, blanks, rfl, groups, level, blankHere⟩ :=
        (spells_iff_of_operand phase).1 spells
      intro _
      refine ⟨outside, before ++ (blanks ++ [c]), by simp, groups, before, blanks, [c], rfl, level,
        ⟨blankHere, by simp, by simp [Text.isDigit, digit]⟩, rfl, ?_⟩
      simp [Phrase.literalValue, digit]
  | opening phase allowed =>
      obtain ⟨outside, before, blanks, rfl, groups, level, blankHere⟩ :=
        (spells_iff_of_operand phase).1 spells
      rcases State.openGroup_cases task state with ⟨_, refused⟩ | refused | ⟨within, opened⟩
      · exact spells_of_failed refused
      · exact spells_of_failed refused
      · have around : GroupsSpell task state.inside.groups
            (outside ++ (before ++ (blanks ++ ['(']))) :=
          ⟨outside, before, blanks, rfl, groups, level, blankHere,
            Limits.exceeded_eq_false_iff.1 within⟩
        have phaseInside : state.inside.phase = .operand := rfl
        rw [opened]
        exact (spells_iff_of_operand phaseInside).2 ⟨_, [], [], by simp, around,
          ⟨[], [], rfl, rfl, rfl⟩, allBlank_nil⟩
  | @nextDigit c start count value d phase digit =>
      obtain ⟨outside, here, rfl, groups, spellsHere⟩ := spells (by simp [phase])
      rw [State.SpellsHere, phase] at spellsHere
      obtain ⟨before, blanks, digits, rfl, level, ⟨blankHere, _, allDigits⟩, rfl, rfl⟩ := spellsHere
      have another : Text.isDigit c = true := by simp [Text.isDigit, digit]
      intro _
      exact ⟨outside, before ++ (blanks ++ (digits ++ [c])), by simp, groups, before, blanks,
        digits ++ [c], rfl, level,
        ⟨blankHere, by simp, forall_mem_append_singleton allDigits another⟩, by simp,
        literalValue_append_singleton digits digit⟩
  | blankAfter phase allowed blank =>
      obtain ⟨outside, sums, blanks, term, rfl, groups, waits, none, means, blankHere⟩ :=
        (spells_iff_of_operator phase).1 (spells_closeLiteral spells)
      rw [← State.phase_advance] at phase
      exact (spells_iff_of_operator phase).2 ⟨outside, sums, blanks ++ [c], term, by simp, groups,
        waits, none, means, forall_mem_append_singleton blankHere blank⟩
  | product op phase allowed =>
      obtain ⟨outside, sums, blanks, term, rfl, groups, waits, _, means, blank⟩ :=
        (spells_iff_of_operator phase).1 (spells_closeLiteral spells)
      refine (spells_iff_of_operand ?_).2 ⟨outside, sums ++ (term.text ++ blanks ++ [op.symbol]),
        [], by simp, groups, ⟨sums, _, rfl, waits, term, blanks, means, blank, rfl⟩, allBlank_nil⟩
      rfl
  | sum op phase allowed =>
      obtain ⟨outside, blanks, chain, rfl, groups, means, blank⟩ :=
        exists_phrase_of_operator phase (spells_closeLiteral spells)
      refine (spells_iff_of_operand ?_).2 ⟨outside, chain.text ++ blanks ++ [op.symbol], [],
        by simp, groups, ⟨_, [], by simp, ⟨chain, blanks, means, blank, rfl⟩, rfl⟩, allBlank_nil⟩
      rfl
  | closing phase opened =>
      rw [← State.groups_closeLiteral task] at opened
      exact spells_closing phase opened (spells_closeLiteral spells)

/-- A run stands for what it has read. -/
theorem spells_of_walk {ds : List Char} (spells : state.Spells task cs)
    (walked : state.walk task ds = some next) : next.Spells task (cs ++ ds) := by
  induction ds generalizing state cs with
  | nil =>
      cases walked
      simpa using spells
  | cons c ds ih =>
      obtain ⟨middle, stepped, walked⟩ := Option.bind_eq_some_iff.1 walked
      have onward := ih (spells_of_move (move_of_step stepped) spells) walked
      simpa using onward

/-- A state that has read nothing stands for nothing. -/
theorem spells_start (task : Task) (position : Nat) :
    State.Spells task { position := position } [] := by
  have phase : ({ position := position } : State).phase = .operand := rfl
  exact (spells_iff_of_operand phase).2
    ⟨[], [], [], rfl, rfl, ⟨[], [], rfl, rfl, rfl⟩, allBlank_nil⟩

end Steps

end Abacus
