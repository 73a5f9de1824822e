/-
Module: Abacus.Proofs.TokenSequence
Purpose: What an evaluation comes to is decided by the tokens of its text.
Main exports: Token.Layout, layout_located, run_alike_of_layout, SamePlace, evaluate_of_alike_tokens
-/
import Abacus.Proofs.Language
import Abacus.Proofs.Locality
import Abacus.Proofs.Simulation

namespace Abacus

/-!
Two texts with the same tokens differ in the blanks between them and in the script of their digits.
The machine is followed from token to token: blanks move it on and change nothing else, and a
number becomes a factor by the values of its digits.  So after each token the two runs are in
states that are alike, where the positions that correspond are those of the same token.
-/

/-! ### The layout of a text -/

/-- How tokens are laid out in a text that starts at `offset`: blanks stand before each of them and
at the end, and no digit directly behind a number.  Each token comes with its position. -/
inductive Token.Layout : Nat → List Char → List (Nat × Token) → Prop where
  | nil {offset : Nat} {blanks : List Char} (blank : Phrase.AllBlank blanks) :
      Layout offset blanks []
  | symbol {offset : Nat} {blanks rest : List Char} {c : Char} {tokens : List (Nat × Token)}
      (blank : Phrase.AllBlank blanks) (plain : Plain c)
      (next : Layout (offset + blanks.length + 1) rest tokens) :
      Layout offset (blanks ++ c :: rest) ((offset + blanks.length, .symbol c) :: tokens)
  | number {offset : Nat} {blanks digits rest : List Char} {tokens : List (Nat × Token)}
      (blank : Phrase.AllBlank blanks) (nonempty : digits ≠ [])
      (allDigits : ∀ c ∈ digits, Text.isDigit c = true) (ends : EndsLiteral rest)
      (next : Layout (offset + blanks.length + digits.length) rest tokens) :
      Layout offset (blanks ++ (digits ++ rest))
        ((offset + blanks.length, .number digits) :: tokens)

namespace Token

variable {offset : Nat} {cs : List Char} {tokens : List (Nat × Token)}

/-- One more blank in front of the text. -/
theorem Layout.blank_cons {c : Char} (first : Text.isBlank c = true)
    (layout : Layout (offset + 1) cs tokens) : Layout offset (c :: cs) tokens := by
  have more : ∀ {blanks : List Char}, Phrase.AllBlank blanks → Phrase.AllBlank (c :: blanks) := by
    intro blanks blank d mem
    rcases List.mem_cons.1 mem with rfl | later
    · exact first
    · exact blank d later
  have shift : ∀ count : Nat, offset + 1 + count = offset + (count + 1) := by
    intro count
    omega
  cases layout with
  | nil blank => exact .nil (more blank)
  | symbol blank plain next =>
      rw [shift] at next ⊢
      exact .symbol (more blank) plain next
  | number blank nonempty allDigits ends next =>
      rw [shift] at next ⊢
      exact .number (more blank) nonempty allDigits ends next

/-- Behind the longest run of digits a literal ends. -/
theorem endsLiteral_dropWhile (cs : List Char) : EndsLiteral (cs.dropWhile Text.isDigit) := by
  intro c head
  rw [← isDigit_eq_false_iff]
  have stops := List.head?_dropWhile_not Text.isDigit cs
  rw [head] at stops
  simpa using stops

/-- The tokens of a text, as they are found in it. -/
theorem layout_located (offset : Nat) (cs : List Char) : Layout offset cs (located offset cs) := by
  induction offset, cs using located.induct with
  | case1 offset =>
      rw [located]
      exact .nil (by simp [Phrase.AllBlank])
  | case2 offset c cs blank ih =>
      rw [located, if_pos blank]
      exact ih.blank_cons blank
  | case3 offset c cs notBlank digit ih =>
      rw [located, if_neg notBlank, if_pos digit]
      have split : c :: cs =
          [] ++ ((c :: cs.takeWhile Text.isDigit) ++ cs.dropWhile Text.isDigit) := by
        simp
      have allDigits : ∀ d ∈ c :: cs.takeWhile Text.isDigit, Text.isDigit d = true := by
        intro d mem
        rcases List.mem_cons.1 mem with rfl | later
        · exact digit
        · exact List.all_eq_true.1 List.all_takeWhile d later
      conv => arg 2; rw [split]
      exact .number allBlank_nil (by simp) allDigits (endsLiteral_dropWhile cs) ih
  | case4 offset c cs notBlank notDigit ih =>
      rw [located, if_neg notBlank, if_neg notDigit]
      have plain : Plain c := by
        refine ⟨by simpa using notBlank, ?_⟩
        rw [← isDigit_eq_false_iff]
        simpa using notDigit
      have first := Layout.symbol allBlank_nil plain ih
      exact first

/-- Leaving out the positions gives the tokens of the text. -/
theorem Layout.map_snd (layout : Layout offset cs tokens) :
    tokens.map Prod.snd = ofText cs := by
  induction layout with
  | nil blank =>
      have none := ofText_blanks_append blank []
      rw [List.append_nil, ofText_nil] at none
      rw [none]
      rfl
  | symbol blank plain next ih =>
      rw [ofText_symbol blank plain, ← ih]
      rfl
  | number blank nonempty allDigits ends next ih =>
      rw [ofText_blanks_append blank, ofText_digits_append nonempty allDigits ends, ← ih]
      rfl

/-- Every token starts before the end of the text. -/
theorem Layout.start_lt (layout : Layout offset cs tokens) :
    ∀ located ∈ tokens, located.1 < offset + cs.length := by
  induction layout with
  | nil blank =>
      intro located mem
      cases mem
  | symbol blank plain next ih =>
      intro located mem
      rw [List.length_append, List.length_cons]
      rcases List.mem_cons.1 mem with rfl | later
      · dsimp only
        omega
      · have before := ih located later
        omega
  | number blank nonempty allDigits ends next ih =>
      intro located mem
      have long := List.length_pos_iff.2 nonempty
      rw [List.length_append, List.length_append]
      rcases List.mem_cons.1 mem with rfl | later
      · dsimp only
        omega
      · have before := ih located later
        omega

end Token

/-! ### Two runs over the same tokens -/

/-- The runs answer alike, and where they have a value they stop at corresponding positions. -/
structure Stop.Alike (places : Nat → Nat → Prop) (one two : Stop) : Prop where
  result : ResultAlike places one.result two.result
  position : ∀ value, one.result = .ok value → places one.position two.position

/-- The number that digits denote depends on their values alone. -/
theorem literalValue_congr {digits others : List Char}
    (same : digits.map Text.digitValue? = others.map Text.digitValue?) :
    Phrase.literalValue digits = Phrase.literalValue others := by
  have byValues : ∀ cs : List Char, Phrase.literalValue cs =
      (cs.map Text.digitValue?).foldl (fun value d => 10 * value + d.getD 0) 0 := by
    intro cs
    rw [List.foldl_map]
    rfl
  rw [byValues, byValues, same]

section Runs

variable {limits : Limits} {places : Nat → Nat → Prop} {one two next : State} {c : Char}

/-- Alike states settle alike at corresponding positions. -/
theorem alike_settle (alike : one.Alike places two)
    (placed : places one.position two.position) :
    (one.settle limits.task).Alike places (two.settle limits.task) where
  result := by
    have closed : (one.closeLiteral limits.task).Alike places (two.closeLiteral limits.task) :=
      alike_closeLiteral alike
    apply answer_of_alike closed
    · simpa using placed
    · exact State.closeLiteral_ne_literal
  position := fun _ _ => placed

/-- A failed state reads nothing more. -/
theorem run_of_failed {failure : Failure} (phase : one.phase = .failed failure)
    (cs : List Char) : run limits.task one cs = one.settle limits.task := by
  cases cs with
  | nil => rfl
  | cons c cs =>
      apply run_cons_of_refused
      rw [State.step, phase]

theorem State.Alike.forward (alike : one.Alike places two) (count countToo : Nat) :
    (one.forward count).Alike places (two.forward countToo) :=
  ⟨alike.phase, alike.level, alike.groups⟩

/-- Failed states answer alike wherever they stand. -/
theorem run_alike_of_failed (alike : one.Alike places two) {failure : Failure}
    (phase : one.phase = .failed failure) (cs csToo : List Char) :
    (run limits.task one cs).Alike places (run limits.task two csToo) := by
  obtain ⟨failureToo, phaseToo, same⟩ := failed_of_alike alike phase
  have answers : ∀ {state : State} {why : Failure}, state.phase = .failed why →
      (state.settle limits.task).result = .error why := by
    intro state why failed
    rw [State.settle, State.closeLiteral_eq_self (by simp [failed]), State.answer, failed]
  rw [run_of_failed phase, run_of_failed phaseToo]
  constructor
  · rw [answers phase, answers phaseToo]
    exact .failure same
  · intro value answered
    rw [answers phase] at answered
    cases answered

variable {rest restToo : List Char}

/-- Blanks before a token, not as many in both texts: what follows decides. -/
theorem run_blanks_alike (alike : one.Alike places two)
    (complete : ∀ start count value, one.phase ≠ .literal start count value)
    {blanks blanksToo : List Char} (blank : Phrase.AllBlank blanks)
    (blankToo : Phrase.AllBlank blanksToo)
    (onward : (one.phase = .operand ∨ ∃ term, one.phase = .operator term) →
      (run limits.task (one.forward blanks.length) rest).Alike places
        (run limits.task (two.forward blanksToo.length) restToo)) :
    (run limits.task one (blanks ++ rest)).Alike places
      (run limits.task two (blanksToo ++ restToo)) := by
  cases phase : one.phase with
  | literal start count value => exact absurd phase (complete start count value)
  | failed failure => exact run_alike_of_failed alike phase _ _
  | operand =>
      have phaseToo := operand_of_alike alike phase
      rw [run_append_of_walk (walk_blanks limits blank (.inl phase)),
        run_append_of_walk (walk_blanks limits blankToo (.inl phaseToo))]
      exact onward (.inl phase)
  | operator term =>
      have phaseToo := operator_of_alike alike phase
      rw [run_append_of_walk (walk_blanks limits blank (.inr ⟨term, phase⟩)),
        run_append_of_walk (walk_blanks limits blankToo (.inr ⟨term, phaseToo⟩))]
      exact onward (.inr ⟨term, phase⟩)

/-- A symbol at corresponding positions: both runs stop in front of it, or what follows decides. -/
theorem run_symbol_alike (alike : one.Alike places two)
    (placed : places one.position two.position) (notDigit : Text.digitValue? c = none)
    (onward : ∀ next nextToo : State, next.Alike places nextToo →
      (∀ start count value, next.phase ≠ .literal start count value) →
        next.position = one.position + 1 → nextToo.position = two.position + 1 →
          (run limits.task next rest).Alike places (run limits.task nextToo restToo)) :
    (run limits.task one (c :: rest)).Alike places (run limits.task two (c :: restToo)) := by
  cases stepped : one.step limits.task c with
  | none =>
      have refused := step_none_of_alike alike placed stepped
      rw [run_cons_of_refused stepped, run_cons_of_refused refused]
      exact alike_settle alike placed
  | some next =>
      obtain ⟨nextToo, steppedToo, alikeNext⟩ := exists_step_of_alike alike placed stepped
      rw [run_cons_of_step stepped, run_cons_of_step steppedToo]
      apply onward next nextToo alikeNext
      · exact phase_ne_literal_of_step notDigit stepped
      · exact State.position_step stepped
      · exact State.position_step steppedToo

/-- Behind a factor a number is refused. -/
theorem run_digits_of_operator {term : Int} (phase : one.phase = .operator term)
    {digits : List Char} (nonempty : digits ≠ [])
    (allDigits : ∀ c ∈ digits, Text.isDigit c = true) (rest : List Char) :
    run limits.task one (digits ++ rest) = one.settle limits.task := by
  obtain ⟨c, others, rfl⟩ := List.exists_cons_of_ne_nil nonempty
  obtain ⟨d, digit⟩ := Option.isSome_iff_exists.1 (allDigits c List.mem_cons_self)
  exact run_cons_of_refused (step_digit_of_operator phase digit) _

/-- Where a factor must start, a number is read as a literal and closed. -/
theorem run_digits_of_operand (phase : one.phase = .operand) {digits : List Char}
    (nonempty : digits ≠ []) (allDigits : ∀ c ∈ digits, Text.isDigit c = true)
    (ends : EndsLiteral rest) :
    run limits.task one (digits ++ rest) =
      run limits.task
        (State.closeLiteral limits.task { one.forward digits.length with
          phase := .literal one.position digits.length (Phrase.literalValue digits) }) rest := by
  have walked := Phrase.walk_number limits.task phase allBlank_nil nonempty allDigits
  rw [run_closeLiteral ends]
  exact run_append_of_walk walked rest

/-- Numbers of the same digits at corresponding positions: both runs stop in front of them, or what
follows decides. -/
theorem run_number_alike (alike : one.Alike places two)
    (placed : places one.position two.position)
    (between : one.phase = .operand ∨ ∃ term, one.phase = .operator term)
    {digits digitsToo : List Char}
    (same : digits.map Text.digitValue? = digitsToo.map Text.digitValue?)
    (nonempty : digits ≠ []) (nonemptyToo : digitsToo ≠ [])
    (allDigits : ∀ c ∈ digits, Text.isDigit c = true)
    (allDigitsToo : ∀ c ∈ digitsToo, Text.isDigit c = true) (ends : EndsLiteral rest)
    (endsToo : EndsLiteral restToo)
    (onward : ∀ next nextToo : State, next.Alike places nextToo →
      (∀ start count value, next.phase ≠ .literal start count value) →
        next.position = one.position + digits.length →
          nextToo.position = two.position + digitsToo.length →
            (run limits.task next rest).Alike places (run limits.task nextToo restToo)) :
    (run limits.task one (digits ++ rest)).Alike places
      (run limits.task two (digitsToo ++ restToo)) := by
  rcases between with operand | ⟨term, operator⟩
  · rw [run_digits_of_operand operand nonempty allDigits ends,
      run_digits_of_operand (operand_of_alike alike operand) nonemptyToo allDigitsToo endsToo]
    have long : digits.length = digitsToo.length := by
      simpa using congrArg List.length same
    apply onward
    · apply alike_closeLiteral
      refine ⟨?_, alike.level, alike.groups⟩
      rw [← literalValue_congr same, ← long]
      exact .literal placed _ _
    · exact State.closeLiteral_ne_literal
    · exact State.position_closeLiteral _ _
    · exact State.position_closeLiteral _ _
  · rw [run_digits_of_operator operator nonempty allDigits,
      run_digits_of_operator (operator_of_alike alike operator) nonemptyToo allDigitsToo]
    exact alike_settle alike placed

/-- Over texts with the same tokens, alike states run alike. -/
theorem run_alike_of_layout {offset offsetToo : Nat} {cs csToo : List Char}
    {tokens tokensToo : List (Nat × Token)} (layout : Token.Layout offset cs tokens)
    (layoutToo : Token.Layout offsetToo csToo tokensToo)
    (same : List.Forall₂ (fun located other => places located.1 other.1 ∧ located.2.Alike other.2)
      tokens tokensToo)
    (ends : places (offset + cs.length) (offsetToo + csToo.length))
    (alike : one.Alike places two)
    (complete : ∀ start count value, one.phase ≠ .literal start count value)
    (here : one.position = offset) (hereToo : two.position = offsetToo) :
    (run limits.task one cs).Alike places (run limits.task two csToo) := by
  -- Between tokens no literal is being read: this and the likeness of the states go along.
  induction layout generalizing offsetToo csToo tokensToo one two with
  | @nil offset blanks blank =>
      cases same
      cases layoutToo with
      | nil blankToo =>
          rw [← List.append_nil blanks, ← List.append_nil csToo]
          apply run_blanks_alike alike complete blank blankToo
          intro _
          apply alike_settle (alike.forward _ _)
          simpa [here, hereToo] using ends
  | symbol blank plain next ih =>
      cases same with
      | cons first others =>
          obtain ⟨placed, alikeToken⟩ := first
          cases layoutToo with
          | number => exact alikeToken.elim
          | symbol blankToo plainToo nextToo =>
              cases alikeToken
              apply run_blanks_alike alike complete blank blankToo
              intro _
              apply run_symbol_alike (alike.forward _ _) _ plain.2
              · intro after afterToo alikeAfter completeAfter behind behindToo
                apply ih nextToo others _ alikeAfter completeAfter
                · rw [behind, State.position_forward, here]
                · rw [behindToo, State.position_forward, hereToo]
                · simpa [Nat.add_assoc, Nat.add_comm 1] using ends
              · simpa [here, hereToo] using placed
  | number blank nonempty allDigits endsLiteral next ih =>
      cases same with
      | cons first others =>
          obtain ⟨placed, alikeToken⟩ := first
          cases layoutToo with
          | symbol => exact alikeToken.elim
          | number blankToo nonemptyToo allDigitsToo endsToo nextToo =>
              apply run_blanks_alike alike complete blank blankToo
              intro between
              apply run_number_alike (alike.forward _ _) _ between alikeToken nonempty nonemptyToo
                allDigits allDigitsToo endsLiteral endsToo
              · intro after afterToo alikeAfter completeAfter behind behindToo
                apply ih nextToo others _ alikeAfter completeAfter
                · rw [behind, State.position_forward, here]
                · rw [behindToo, State.position_forward, hereToo]
                · simpa [Nat.add_assoc] using ends
              · simpa [here, hereToo] using placed

end Runs

/-! ### Two evaluations -/

/-- The two positions name the same token of two texts, by its place in the sequence, or both name
the end. -/
def SamePlace (text other : List Char) (here there : Nat) : Prop :=
  (∃ k : Nat, (Token.starts text)[k]? = some here ∧ (Token.starts other)[k]? = some there) ∨
    here = text.length ∧ there = other.length

/-- A position is at the end of the text if and only if the other is at the end of the other. -/
theorem SamePlace.end_iff {text other : List Char} {here there : Nat}
    (same : SamePlace text other here there) : here = text.length ↔ there = other.length := by
  rcases same with ⟨k, starts, startsToo⟩ | ⟨last, lastToo⟩
  · have before : ∀ {cs : List Char} {position : Nat},
        (Token.starts cs)[k]? = some position → position < cs.length := by
      intro cs position found
      obtain ⟨located, mem, rfl⟩ := List.mem_map.1 (List.mem_of_getElem? found)
      simpa using (Token.layout_located 0 cs).start_lt located mem
    have inside := before starts
    have insideToo := before startsToo
    constructor
    · intro last
      omega
    · intro last
      omega
  · exact ⟨fun _ => lastToo, fun _ => last⟩

/-- Where the tokens of two texts are alike one by one, so are they with their positions. -/
theorem alike_located {text other : List Char}
    (alike : List.Forall₂ Token.Alike (Token.ofText text) (Token.ofText other)) :
    List.Forall₂ (fun located found => SamePlace text other located.1 found.1 ∧
      located.2.Alike found.2) (Token.located 0 text) (Token.located 0 other) := by
  rw [← (Token.layout_located 0 text).map_snd, ← (Token.layout_located 0 other).map_snd,
    List.forall₂_map_left_iff, List.forall₂_map_right_iff] at alike
  rw [List.forall₂_iff_get] at alike ⊢
  obtain ⟨length, each⟩ := alike
  refine ⟨length, ?_⟩
  intro k inside insideToo
  refine ⟨.inl ⟨k, ?_, ?_⟩, each k inside insideToo⟩
  · simp [Token.starts, inside]
  · simp [Token.starts, insideToo]

/-- The runs over two texts with the same tokens stop alike. -/
theorem run_alike_of_alike_tokens (limits : Limits) {text other : List Char}
    (alike : List.Forall₂ Token.Alike (Token.ofText text) (Token.ofText other)) :
    (run limits.task .first text).Alike (SamePlace text other)
      (run limits.task .first other) := by
  have first : State.first.Alike (SamePlace text other) State.first := ⟨.operand, rfl, .nil⟩
  apply run_alike_of_layout (Token.layout_located 0 text) (Token.layout_located 0 other)
    (alike_located alike) _ first
  · intro start count value literal
    cases literal
  · rfl
  · rfl
  · exact .inr ⟨Nat.zero_add _, Nat.zero_add _⟩

/-- The answer of an evaluation, from where its run stops. -/
theorem evaluate_eq_of_stop (text : String) (limits : Limits) :
    evaluate text limits =
      match (run limits.task .first text.toList).result with
      | .error failure => .error failure
      | .ok value =>
          let position := (run limits.task .first text.toList).position
          if position = text.toList.length then .ok value
          else .error (.fault (.trailing (text.toList.drop position)) position) := by
  obtain ⟨taken, left, last, halts⟩ := exists_halts limits text.toList
  have remains : text.toList.drop taken.length = left := by
    rw [halts.split, List.drop_left]
  have nothing : taken.length = text.toList.length ↔ left = [] := by
    rw [halts.split, List.length_append, ← List.length_eq_zero_iff]
    omega
  rw [evaluate_eq_verdict halts, halts.run, State.verdict, State.settle]
  dsimp only
  cases (last.closeLiteral limits.task).answer with
  | error failure => rfl
  | ok value =>
      dsimp only
      rw [halts.position, remains]
      by_cases whole : left = []
      · rw [if_pos whole, if_pos (nothing.2 whole)]
      · rw [if_neg whole, if_neg (mt nothing.1 whole)]

/-- A run quotes nothing of the text behind it. -/
theorem requote_of_run_error {text : List Char} {limits : Limits} {cause : Cause} {position : Nat}
    (failed : (run limits.task .first text).result = .error (.fault cause position))
    (rest : List Char) : cause.requote rest = cause := by
  obtain ⟨taken, left, last, halts⟩ := exists_halts limits text
  rw [halts.run] at failed
  exact halts.requote_of_answer failed rest

/-- **Only the tokens count.**  Two texts with the same tokens evaluate to the same value, or fail
for the same cause at positions that name the same token, or both names the end.  Blanks between
the tokens and the scripts of digits do not matter; only trailing characters are quoted as they
stand in each text. -/
theorem evaluate_of_alike_tokens (text other : String) (limits : Limits)
    (alike : List.Forall₂ Token.Alike (Token.ofText text.toList) (Token.ofText other.toList)) :
    (∃ value, evaluate text limits = .ok value ∧ evaluate other limits = .ok value) ∨
      (∃ cause here there,
        evaluate text limits = .error (.fault cause here) ∧
          evaluate other limits =
            .error (.fault (cause.requote (other.toList.drop there)) there) ∧
          (cause.requote (other.toList.drop there)).category = cause.category ∧
          ((∀ rest, cause ≠ .trailing rest) →
            (cause.requote (other.toList.drop there)).message = cause.message) ∧
          SamePlace text.toList other.toList here there) ∨
        evaluate text limits = .error .exhausted ∧ evaluate other limits = .error .exhausted := by
  have runs := run_alike_of_alike_tokens limits alike
  have quotesNothing : ∀ {cause position},
      (run limits.task .first text.toList).result = .error (.fault cause position) →
        ∀ rest, cause.requote rest = cause := requote_of_run_error
  rw [evaluate_eq_of_stop text, evaluate_eq_of_stop other]
  generalize run limits.task .first text.toList = stop at runs quotesNothing ⊢
  generalize run limits.task .first other.toList = stopToo at runs ⊢
  have result := runs.result
  cases answered : stop.result with
  | ok value =>
      have answeredToo : stopToo.result = .ok value := by
        rw [answered] at result
        generalize stopToo.result = resultToo at result ⊢
        cases result
        rfl
      have placed := runs.position value answered
      rw [answeredToo]
      by_cases whole : stop.position = text.toList.length
      · have wholeToo := placed.end_iff.1 whole
        simp [whole, wholeToo]
      · have notWhole := mt placed.end_iff.2 whole
        simp only [whole, notWhole, if_false]
        refine .inr (.inl ⟨_, _, _, rfl, rfl, rfl, ?_, placed⟩)
        intro notTrailing
        exact absurd rfl (notTrailing _)
  | error failure =>
      rw [answered] at result quotesNothing
      generalize stopToo.result = resultToo at result ⊢
      cases result with
      | failure alikeFailure =>
          cases alikeFailure with
          | exhausted => exact .inr (.inr ⟨rfl, rfl⟩)
          | fault cause placed =>
              refine .inr (.inl ⟨cause, _, _, rfl, ?_, cause.category_requote _, ?_, placed⟩)
              · rw [quotesNothing rfl]
              · intro _
                rw [quotesNothing rfl]

/-- A zero divisor written with other blanks and with a digit of another script. -/
theorem evaluate_of_alike_tokens_scripts :
    List.Forall₂ Token.Alike (Token.ofText "8 /( ٢-2)x".toList) (Token.ofText "8/(2-2) x".toList) ∧
      evaluate "8 /( ٢-2)x" = .error (.fault .zeroDivisor 3) ∧
        ∃ there, evaluate "8/(2-2) x" = .error (.fault .zeroDivisor there) ∧
          SamePlace "8 /( ٢-2)x".toList "8/(2-2) x".toList 3 there := by
  have alike : List.Forall₂ Token.Alike (Token.ofText "8 /( ٢-2)x".toList)
      (Token.ofText "8/(2-2) x".toList) := by
    have tokens : Token.ofText "8 /( ٢-2)x".toList = [.number ['8'], .symbol '/', .symbol '(',
        .number ['٢'], .symbol '-', .number ['2'], .symbol ')', .symbol 'x'] := by
      cbv
    have tokensToo : Token.ofText "8/(2-2) x".toList = [.number ['8'], .symbol '/', .symbol '(',
        .number ['2'], .symbol '-', .number ['2'], .symbol ')', .symbol 'x'] := by
      cbv
    rw [tokens, tokensToo]
    exact .cons rfl (.cons rfl (.cons rfl (.cons rfl (.cons rfl (.cons rfl (.cons rfl
      (.cons rfl .nil)))))))
  have failed : evaluate "8 /( ٢-2)x" = .error (.fault .zeroDivisor 3) := by rfl
  refine ⟨alike, failed, ?_⟩
  rcases evaluate_of_alike_tokens _ _ {} alike with
    ⟨value, evaluated, _⟩ | ⟨cause, here, there, found, foundToo, _, _, placed⟩ | ⟨exhausted, _⟩
  · rw [failed] at evaluated
    cases evaluated
  · rw [failed] at found
    cases found
    exact ⟨there, foundToo, placed⟩
  · rw [failed] at exhausted
    cases exhausted

end Abacus
