/-
Module: Abacus.Proofs.Depth
Purpose: The depth of a session counts the parentheses that its cursor has passed.
Main exports: groups_of_walk, Session.Passes, Session.Tallies, passes_serve, Session.after,
  depth_counts_parentheses
-/
import Abacus.Proofs.Evaluation
import Abacus.Proofs.Parentheses

namespace Abacus

/-!
A group counts from the moment its opening parenthesis is read, even if the limit refuses it, and
no longer when its closing parenthesis is read, even if it then turns out to be a zero divisor.
So it does not matter to the depth of a session whether a request fails.  Each request passes some
characters and moves the depth by the parentheses among them; the sum over a whole history is the
count over everything before the cursor.
-/

/-! ### Walks -/

/-- A balanced text leaves a count of open groups as it is. -/
theorem Balanced.keeps {cs : List Char} {height : Nat} (balanced : Balanced cs height)
    {before after : Nat} (kept : after = before) :
    after + cs.count ')' = before + cs.count '(' := by
  rw [balanced.closed, kept]

section Runs

variable {task : Task} {state next last : State} {c : Char} {cs : List Char}

/-- The groups that one character opens or closes. -/
theorem groups_of_move (move : Move task state c next) :
    next.groups.length + [c].count ')' = state.groups.length + [c].count '(' := by
  rcases groups_cases_of_move move with ⟨same, other⟩ | ⟨rfl, _, rfl⟩ | ⟨rfl, closed, split⟩
  · exact (balanced_symbol other).keeps (congrArg List.length same)
  · rw [State.groups_openGroup]
    simp
  · rw [split]
    simp

/-- The groups that a walk leaves open. -/
theorem groups_of_walk (walked : state.walk task cs = some last) :
    last.groups.length + cs.count ')' = state.groups.length + cs.count '(' := by
  induction cs generalizing state with
  | nil =>
      cases walked
      rfl
  | cons c cs ih =>
      obtain ⟨middle, stepped, onward⟩ := Option.bind_eq_some_iff.1 walked
      have here := groups_of_move (move_of_step stepped)
      have there := ih onward
      rw [List.count_cons, List.count_cons]
      simp only [List.count_cons, List.count_nil] at here
      omega

end Runs

/-! ### Requests -/

/-- From the first session to the second the cursor passes some characters, and the depth moves
by the parentheses among them. -/
structure Session.Passes (session : Session) (passed : List Char) (after : Session) : Prop where
  text : after.cursor.text = session.cursor.text
  next : passed <+: session.cursor.rest
  position : after.cursor.position = session.cursor.position + passed.length
  depth : after.depth + passed.count ')' = session.depth + passed.count '('

namespace Session

/-- Whether a request leaves it to the rules to read parentheses. -/
def Request.Neutral (request : Request) : Prop :=
  ∀ symbol, request = .query (.accept symbol) → symbol ≠ "(" ∧ symbol ≠ ")"

namespace Passes

variable {session middle after : Session} {passed more : List Char}

/-- What remains behind the characters that have been passed. -/
theorem rest (passes : session.Passes passed after) :
    after.cursor.rest = session.cursor.rest.drop passed.length := by
  rw [Cursor.rest, Cursor.rest, passes.text, passes.position, List.drop_drop]

theorem trans (first : session.Passes passed middle) (second : middle.Passes more after) :
    session.Passes (passed ++ more) after where
  text := second.text.trans first.text
  next := by
    obtain ⟨left, split⟩ := first.next
    have onward := second.next
    rw [first.rest, ← split, List.drop_left] at onward
    rw [← split]
    exact (List.prefix_append_right_inj passed).2 onward
  position := by
    rw [second.position, first.position, List.length_append, Nat.add_assoc]
  depth := by
    have here := first.depth
    have there := second.depth
    rw [List.count_append, List.count_append]
    omega

/-- A balanced text does not matter to the depth. -/
theorem of_forward (session : Session) {passed : List Char} (next : passed <+: session.cursor.rest)
    {height : Nat} (balanced : Balanced passed height) :
    session.Passes passed { session with cursor := session.cursor.forward passed.length } where
  text := rfl
  next := next
  position := rfl
  depth := balanced.keeps rfl

theorem skipBlanks (session : Session) :
    ∃ passed, session.Passes passed { session with cursor := session.cursor.skipBlanks } := by
  have blank : Phrase.AllBlank (session.cursor.rest.takeWhile Text.isBlank) :=
    List.all_eq_true.1 List.all_takeWhile
  exact ⟨_, of_forward session (List.takeWhile_prefix Text.isBlank) (balanced_of_allBlank blank)⟩

end Passes

/-- A symbol that comes next is a single character, the first one behind the blanks. -/
theorem exists_rest_of_sees {cursor : Cursor} {symbol : String} (seen : cursor.sees symbol = true) :
    ∃ c rest, cursor.skipBlanks.rest = c :: rest ∧ symbol = String.singleton c := by
  rw [Cursor.sees, beq_iff_eq, Option.map_eq_some_iff] at seen
  obtain ⟨c, head, same⟩ := seen
  obtain ⟨rest, split⟩ := List.head?_eq_some_iff.1 head
  exact ⟨c, rest, split, same.symm⟩

/-- A query passes blanks, digits, or the symbol that it asks for. -/
theorem passes_ask (session : Session) {query : Cursor.Query}
    (neutral : (Request.query query).Neutral) :
    ∃ passed, session.Passes passed { session with cursor := (session.cursor.ask query).2 } := by
  have stays : ∃ passed, session.Passes passed session :=
    ⟨[], rfl, List.nil_prefix, rfl, rfl⟩
  cases query with
  | skipBlanks => exact Passes.skipBlanks session
  | peek => exact Passes.skipBlanks session
  | atEnd => exact stays
  | remainder => exact stays
  | takeDigits =>
      have allDigits : ∀ c ∈ session.cursor.digits, Text.isDigit c = true :=
        List.all_eq_true.1 List.all_takeWhile
      have next : session.cursor.digits <+: session.cursor.rest :=
        List.takeWhile_prefix Text.isDigit
      exact ⟨_, Passes.of_forward session next (balanced_of_allDigit allDigits)⟩
  | accept symbol =>
      obtain ⟨blanks, passes⟩ := Passes.skipBlanks session
      by_cases seen : session.cursor.sees symbol = true
      · obtain ⟨c, rest, next, rfl⟩ := exists_rest_of_sees seen
        obtain ⟨notOpening, notClosing⟩ := neutral _ rfl
        have other : c ≠ '(' ∧ c ≠ ')' := by
          constructor
          · rintro rfl
            exact notOpening rfl
          · rintro rfl
            exact notClosing rfl
        have here : [c] <+: session.cursor.skipBlanks.rest := by
          rw [next]
          exact ⟨rest, rfl⟩
        have one := Passes.of_forward { session with cursor := session.cursor.skipBlanks } here
          (balanced_symbol other)
        have consumed : (session.cursor.ask (.accept (String.singleton c))).2 =
            session.cursor.skipBlanks.forward 1 := by
          rw [Cursor.ask, if_pos seen]
        rw [consumed]
        exact ⟨blanks ++ [c], passes.trans one⟩
      · have left : (session.cursor.ask (.accept symbol)).2 = session.cursor.skipBlanks := by
          rw [Cursor.ask, if_neg seen]
        rw [left]
        exact ⟨blanks, passes⟩

/-- A rule passes what belongs to the phrase, and the parentheses that it opens and closes move
the depth.  A phrase with a value leaves no group open. -/
theorem passes_read (session : Session) (rule : Rule) :
    (∃ passed, session.Passes passed (session.read rule).2) ∧
      ∀ value, (session.read rule).1 = .ok value → (session.read rule).2.depth = session.depth := by
  obtain ⟨taken, left, last, split, walked, stop, _⟩ := exists_walk_of_run
    { rule := rule, limits := session.limits, depth := session.depth }
    { position := session.cursor.position } session.cursor.rest
  have groups := groups_of_walk walked
  simp only [List.length_nil, Nat.zero_add] at groups
  rw [read]
  dsimp only
  rw [stop]
  constructor
  · refine ⟨taken, rfl, ⟨left, split.symm⟩, State.position_walk walked, ?_⟩
    simp only [State.settle, State.depth]
    omega
  · intro value answered
    obtain ⟨term, _, closed, _⟩ := State.answer_eq_ok_iff.1 answered
    rw [State.groups_closeLiteral] at closed
    simp [State.settle, State.depth, closed]

/-- Evaluating reads an expression and then skips blanks, unless the expression fails. -/
theorem passes_evaluate (session : Session) :
    (∃ passed, session.Passes passed session.evaluate.2) ∧
      ∀ value, session.evaluate.1 = .ok value → session.evaluate.2.depth = session.depth := by
  obtain ⟨⟨passed, passes⟩, kept⟩ := session.passes_read .expression
  rw [evaluate]
  rcases answer : session.read .expression with ⟨result, after⟩
  rw [answer] at passes kept
  cases result with
  | error failure =>
      refine ⟨⟨passed, passes⟩, ?_⟩
      intro value failed
      cases failed
  | ok found =>
      obtain ⟨blanks, skipped⟩ := Passes.skipBlanks after
      refine ⟨⟨passed ++ blanks, passes.trans skipped⟩, ?_⟩
      intro value _
      exact kept found rfl

/-- Every request passes some characters, and one that yields a value keeps the depth. -/
theorem passes_serve (session : Session) {request : Request} (neutral : request.Neutral) :
    (∃ passed, session.Passes passed (session.serve request).2) ∧
      ∀ value, (session.serve request).1 = .value (.ok value) →
        (session.serve request).2.depth = session.depth := by
  cases request with
  | query query =>
      refine ⟨session.passes_ask neutral, ?_⟩
      intro value answered
      cases answered
  | read rule =>
      obtain ⟨passes, kept⟩ := session.passes_read rule
      refine ⟨passes, ?_⟩
      intro value answered
      apply kept value
      injection answered
  | evaluate =>
      obtain ⟨passes, kept⟩ := session.passes_evaluate
      refine ⟨passes, ?_⟩
      intro value answered
      apply kept value
      injection answered

/-! ### Histories -/

/-- The session stands in the text, and its depth counts the groups that are open there. -/
structure Tallies (text : List Char) (session : Session) : Prop where
  reads : session.cursor.text = text
  inside : session.cursor.position ≤ text.length
  depth : session.depth + (text.take session.cursor.position).count ')' =
    (text.take session.cursor.position).count '('

theorem tallies_start (text : String) (limits : Limits) :
    (start text limits).Tallies text.toList where
  reads := rfl
  inside := Nat.zero_le _
  depth := by simp [start]

/-- The tally holds at the end of whatever is passed. -/
theorem Tallies.of_passes {text : List Char} {session after : Session} {passed : List Char}
    (tallies : session.Tallies text) (passes : session.Passes passed after) :
    after.Tallies text where
  reads := passes.text.trans tallies.reads
  inside := by
    have fits := passes.next.length_le
    have inside := tallies.inside
    rw [Cursor.rest, tallies.reads, List.length_drop] at fits
    rw [passes.position]
    omega
  depth := by
    have before : text.take (session.cursor.position + passed.length) =
        text.take session.cursor.position ++ passed := by
      have next := passes.next
      rw [Cursor.rest, tallies.reads, List.prefix_iff_eq_take] at next
      rw [List.take_add, ← next]
    have moved := passes.depth
    have counted := tallies.depth
    rw [passes.position, before, List.count_append, List.count_append]
    omega

/-- The session after the last of some requests. -/
def after (session : Session) (requests : List Request) : Session :=
  ((session.serveAll requests).getLast?.map Prod.snd).getD session

theorem after_cons (session : Session) (request : Request) (requests : List Request) :
    session.after (request :: requests) = (session.serve request).2.after requests := by
  rw [after, serveAll, List.getLast?_cons, after]
  cases (serveAll (session.serve request).2 requests).getLast? with
  | none => rfl
  | some answer => rfl

/-- The tally holds after every history. -/
theorem tallies_after {text : List Char} {session : Session} {requests : List Request}
    (tallies : session.Tallies text) (neutral : ∀ request ∈ requests, request.Neutral) :
    (session.after requests).Tallies text := by
  induction requests generalizing session with
  | nil => exact tallies
  | cons request requests ih =>
      rw [after_cons]
      obtain ⟨⟨passed, passes⟩, _⟩ := session.passes_serve (neutral request List.mem_cons_self)
      apply ih (tallies.of_passes passes)
      intro other mem
      exact neutral other (List.mem_cons_of_mem request mem)

/-- **The depth counts parentheses.**  Whatever has been requested of a session, and whether or
not it failed, the cursor stands in the text and the depth is the number of parentheses opened
before it less the number of those closed.  One more request never moves the cursor back, and
where it yields a value it leaves the depth as it was.  Only symbols that are asked for one by one
must not be parentheses. -/
theorem depth_counts_parentheses (text : String) (limits : Limits) (history : List Request)
    (request : Request) (neutral : ∀ each ∈ history ++ [request], each.Neutral) :
    let session := (start text limits).after history
    let passed := text.toList.take session.cursor.position
    session.cursor.position ≤ text.toList.length ∧
      session.depth + passed.count ')' = passed.count '(' ∧
        session.cursor.position ≤ (session.serve request).2.cursor.position ∧
          ∀ value, (session.serve request).1 = .value (.ok value) →
            (session.serve request).2.depth = session.depth := by
  have tallies : ((start text limits).after history).Tallies text.toList := by
    apply tallies_after (tallies_start text limits)
    intro each mem
    exact neutral each (List.mem_append_left _ mem)
  have last : request.Neutral := neutral request (by simp)
  obtain ⟨⟨passed, passes⟩, kept⟩ := passes_serve ((start text limits).after history) last
  refine ⟨tallies.inside, tallies.depth, ?_, kept⟩
  rw [passes.position]
  exact Nat.le_add_right _ _

/-- An evaluation fails at a zero divisor inside a group, and a factor is read from there on. -/
theorem depth_counts_parentheses_resumed :
    (∀ each ∈ [Request.evaluate, .query (.accept "+")] ++ [.read .factor], each.Neutral) ∧
      let session := (start "(2/(1-1)+(4)").after [.evaluate, .query (.accept "+")]
      session.cursor.position = 9 ∧ session.depth = 1 ∧
        (session.serve (.read .factor)).2.depth = session.depth := by
  have neutral :
      ∀ each ∈ [Request.evaluate, .query (.accept "+")] ++ [.read .factor], each.Neutral := by
    intro each mem symbol asked
    subst asked
    simp only [List.cons_append, List.nil_append, List.mem_cons, reduceCtorEq, Request.query.injEq,
      Cursor.Query.accept.injEq, List.not_mem_nil, or_false, false_or] at mem
    subst mem
    decide
  have counts := depth_counts_parentheses "(2/(1-1)+(4)" {} _ _ neutral
  refine ⟨neutral, by rfl, by rfl, counts.2.2.2 4 ?_⟩
  rfl

end Session

end Abacus
