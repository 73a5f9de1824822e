/-
Module: Abacus.Proofs.Diagnosis
Purpose: The caret that is shown after a failure stands under the position of the failure.
Main exports: unmarked_of_walk, diagnose_failure, Pointed, caret_under_position
-/
import Abacus.Proofs.Caret
import Abacus.Proofs.Escaping
import Abacus.Proofs.Faults
import Abacus.Proofs.Message
import Abacus.Report.Misfit

namespace Abacus

open Text

/-!
What stands in front of the position of a failure has been read as part of an expression: blanks,
digits, operators and parentheses.  None of these can act as markup, nor keep what follows from
doing so, and so the line in front of the position is shown as it is, however the line goes on.
The padding of the caret consists of blanks, and takes as many cells.
-/

/-! ### What has been read -/

theorem unmarked_of_isBlank {c : Char} (blank : isBlank c = true) : c ≠ '[' ∧ c ≠ '\\' := by
  constructor
  · rintro rfl
    revert blank
    decide
  · rintro rfl
    revert blank
    decide

theorem unmarked_of_digit {c : Char} {d : Nat} (digit : digitValue? c = some d) :
    c ≠ '[' ∧ c ≠ '\\' := by
  have bracket : digitValue? '[' = none := by decide
  have slash : digitValue? '\\' = none := by decide
  constructor
  · rintro rfl
    rw [bracket] at digit
    cases digit
  · rintro rfl
    rw [slash] at digit
    cases digit

/-- No character of an expression can act as markup. -/
theorem unmarked_of_move {task : Task} {state next : State} {c : Char}
    (move : Move task state c next) : c ≠ '[' ∧ c ≠ '\\' := by
  cases move with
  | blankBefore phase blank => exact unmarked_of_isBlank blank
  | blankAfter phase allowed blank => exact unmarked_of_isBlank blank
  | firstDigit phase digit => exact unmarked_of_digit digit
  | nextDigit phase digit => exact unmarked_of_digit digit
  | opening phase allowed => decide
  | closing phase opened => decide
  | product op phase allowed => cases op <;> decide
  | sum op phase allowed => cases op <;> decide

theorem unmarked_of_walk {task : Task} {state next : State} {cs : List Char}
    (walked : state.walk task cs = some next) : Display.Markup.Unmarked cs := by
  induction cs generalizing state with
  | nil =>
      intro c mem
      cases mem
  | cons c cs ih =>
      obtain ⟨middle, stepped, onward⟩ := Option.bind_eq_some_iff.1 walked
      intro d mem
      rcases List.mem_cons.1 mem with rfl | later
      · exact unmarked_of_move (move_of_step stepped)
      · exact ih onward d later

/-- A fault lies in the text, and what stands in front of it has been read. -/
theorem unmarked_before_fault {text : String} {limits : Limits} {cause : Cause} {position : Nat}
    (failed : evaluate text limits = .error (.fault cause position)) :
    position ≤ text.toList.length ∧ Display.Markup.Unmarked (text.toList.take position) := by
  obtain ⟨taken, left, last, halts⟩ := exists_halts limits text.toList
  have inText : taken <+: text.toList := ⟨left, halts.split.symm⟩
  rw [evaluate_eq_verdict halts] at failed
  -- A fault is seen where the reading ends, or it points back to where a factor was awaited.
  have read : ∃ head state, head <+: text.toList ∧ head.length = position ∧
      State.first.walk limits.task head = some state := by
    rcases halts.fault_cases failed with ⟨⟨head, state, start, length, walked, _⟩, _⟩ | ⟨here, _⟩
    · exact ⟨head, state, start.trans inText, length, walked⟩
    · exact ⟨taken, last, inText, here.symm, halts.walked⟩
  obtain ⟨head, state, start, rfl, walked⟩ := read
  refine ⟨start.length_le, ?_⟩
  rw [List.prefix_iff_eq_take.1 start] at walked
  exact unmarked_of_walk walked

namespace Report

open Display Markup

/-! ### The headline -/

/-- The labels of the kinds of failures need no escaping. -/
theorem unmarked_kindLabel (category : Category) :
    Unmarked (kindLabel (.text category.name)) := by
  cases category <;> decide

theorem printable_kindLabel (category : Category) :
    Printable (kindLabel (.text category.name)) := by
  cases category <;> exact printable_of_ascii (by decide)

/-- The message of an outcome is the text of its diagnostic. -/
theorem messageText_failure (expression : String) (diagnostic : Diagnostic) :
    messageText (.failure expression diagnostic) = diagnostic.text.toList := by
  cases position : diagnostic.position <;>
    simp [messageText, Outcome.failure, Diagnostic.text, position]

theorem printable_text (failure : Failure) : Printable failure.diagnostic.text.toList := by
  have message := printable_diagnostic failure
  rw [Diagnostic.text]
  split
  · exact message
  · rw [String.toList_append, String.toList_append]
    exact .append (.append message (printable_of_ascii (by decide))) (printable_integer _)

/-- The words in front of the message. -/
def labelText (category : Category) : List Char :=
  "Error (".toList ++ kindLabel (.text category.name) ++ "):".toList

theorem unmarked_labelText (category : Category) : Unmarked (labelText category) := by
  have before : Unmarked "Error (".toList := by decide
  have behind : Unmarked "):".toList := by decide
  exact (before.append (unmarked_kindLabel category)).append behind

/-- The headline is styled up to the message, and escaped from there on. -/
theorem headline_failure (expression : String) (diagnostic : Diagnostic) :
    headline (.failure expression diagnostic) =
      styled "red" (labelText diagnostic.category) ++ ' ' :: escape diagnostic.text.toList := by
  have kind : (Outcome.failure expression diagnostic).kind = .text diagnostic.category.name := rfl
  unfold headline labelText
  rw [messageText_failure, kind]
  simp [styled]

/-- The tags around the label make sense, and the message has none that work. -/
theorem nest_headline (expression : String) (diagnostic : Diagnostic) :
    nest 0 0 [] (pieces (headline (.failure expression diagnostic))) = .ok [redLabel] := by
  have unmarked := unmarked_labelText diagnostic.category
  have bracketless : Bracketless ['r', 'e', 'd'] := by decide
  have blank : Unmarked [' '] := by decide
  have parts : pieces (headline (.failure expression diagnostic)) =
      .tag "[red]".toList :: ((labelText diagnostic.category).map .plain ++
        .tag "[/red]".toList :: ([' '].map .plain ++ pieces (escape diagnostic.text.toList))) := by
    have behind := pieces_append blank.noBracket (escape diagnostic.text.toList)
    rw [List.singleton_append] at behind
    rw [headline_failure, pieces_styled rfl rfl bracketless unmarked, behind]
    rfl
  rw [parts, nest_red_opening, nest_unmarked unmarked, nest_red_closing, nest_unmarked blank,
    nest_escape]
  rfl

/-- Nothing is wrong with markup that opens no other style than that of labels. -/
theorem misfits_of_nest {markup : List Char} {opened : List Opened}
    (nested : nest 0 0 [] (pieces markup) = .ok opened) (labels : ∀ o ∈ opened, o = redLabel) :
    markupMisfit? markup = none ∧ styleMisfit? markup = none := by
  have name : redLabel.fullName = ['r', 'e', 'd'] := by decide
  rw [markupMisfit?, styleMisfit?, fault?, styleFault?, nested]
  refine ⟨rfl, ?_⟩
  rw [Option.map_eq_none_iff, List.findSome?_eq_none_iff]
  intro o mem
  rw [labels o mem, name, ofName?_red]

theorem messageMisfit?_failure (expression : String) (diagnostic : Diagnostic) :
    messageMisfit? (.failure expression diagnostic) = none := by
  unfold messageMisfit?
  split
  · rfl
  · rfl

/-- A failure can always be shown, whatever its message holds. -/
theorem diagnose_failure (tabSize : Nat) (expression : String) (diagnostic : Diagnostic) :
    diagnose tabSize (.failure expression diagnostic) =
      .ok (showDiagnosis tabSize (.failure expression diagnostic)) := by
  have kind : kindMisfit? (Outcome.failure expression diagnostic).kind = none := rfl
  have message := messageMisfit?_failure expression diagnostic
  obtain ⟨tags, styles⟩ := misfits_of_nest (nest_headline expression diagnostic) (by simp)
  have source : excerptMisfit? (.failure expression diagnostic) = none := by
    cases position : diagnostic.position with
    | none => simp [excerptMisfit?, Outcome.failure, position]
    | some position => simp [excerptMisfit?, Outcome.failure, position, Json.index?]
  have fits : diagnosisMisfit? (.failure expression diagnostic) = none := by
    rw [diagnosisMisfit?, kind, message, tags, styles, source]
    rfl
  rw [diagnose, fits]
  rfl

/-! ### Lines -/

/-- Markup without newlines is shown on one line. -/
theorem noNewline_plain {markup : List Char} (noNewline : '\n' ∉ markup) (tabSize : Nat) :
    '\n' ∉ plain tabSize markup := by
  intro mem
  rcases mem_expandTabs mem with space | kept
  · exact absurd space (by decide)
  · rcases mem_render (List.mem_filter.1 kept).1 with slash | shown
    · exact absurd slash (by decide)
    · exact noNewline shown

theorem noNewline_escape {cs : List Char} (noNewline : '\n' ∉ cs) : '\n' ∉ escape cs := by
  intro mem
  rcases mem_escape mem with slash | before
  · exact absurd slash (by decide)
  · exact noNewline before

theorem noNewline_headline (expression : String) (failure : Failure) :
    '\n' ∉ headline (.failure expression failure.diagnostic) := by
  have label := (printable_kindLabel failure.diagnostic.category).noNewline
  have message := noNewline_escape (printable_text failure).noNewline
  unfold headline
  rw [messageText_failure]
  simp only [List.mem_append, not_or]
  exact ⟨⟨⟨by decide, label⟩, by decide⟩, message⟩

/-! ### The excerpt -/

/-- The start of a source line as it is shown, up to a position on it. -/
def shownBefore (tabSize : Nat) (cs : List Char) (position : Nat) : List Char :=
  expandTabs tabSize 0 (dropControls ("  ".toList ++ lineBefore cs position))

/-- A source line as it is shown, with a caret under a position on it. -/
structure Pointed (tabSize : Nat) (cs : List Char) (position : Nat)
    (source caret : List Char) : Prop where
  /-- The line is the one around the position. -/
  line : source = plain tabSize ("  ".toList ++ escape (lineAround cs position))
  /-- It starts with what stands in front of the position, from which nothing is missing. -/
  start : shownBefore tabSize cs position <+: source
  /-- The caret, the only one on its line, has as many cells in front of it. -/
  aligned : ∃ padding, caret = padding ++ ['^'] ∧ '^' ∉ padding ∧
    cells padding = cells (shownBefore tabSize cs position)

section Excerpt

variable {cs : List Char} {position : Nat}

theorem unmarked_lineBefore (unmarked : Unmarked (cs.take position)) :
    Unmarked (lineBefore cs position) :=
  fun c mem => unmarked c (List.mem_of_mem_drop mem)

theorem unmarked_caret (cs : List Char) : Unmarked (cs.flatMap padChar ++ ['^']) := by
  have caret : Unmarked ['^'] := by decide
  have padding : Unmarked (cs.flatMap padChar) :=
    fun c mem => unmarked_of_isBlank (isBlank_of_mem_padding mem)
  exact padding.append caret

/-- The markup of the two lines for a position in the text. -/
theorem excerpt_eq (inside : position ≤ cs.length) :
    excerpt cs position = ["  ".toList ++ escape (lineAround cs position),
      "  ".toList ++ styled "bold red" ((lineBefore cs position).flatMap padChar ++ ['^'])] := by
  have place : placeOf cs.length position = position := by
    rw [placeOf, if_pos (Int.natCast_nonneg _), Int.toNat_natCast]
  have column : ((position - lineStart cs position : Nat) : Int) + (position - position : Int) =
      (position - lineStart cs position : Nat) := by
    omega
  rw [excerpt, place, sourceLine_eq]
  dsimp only
  rw [column, caretLine_lineAround cs inside, escape_of_unmarked (unmarked_caret _)]

/-- The source line starts, on the display, with what stands in front of the position. -/
theorem shownBefore_starts_source (tabSize : Nat) (unmarked : Unmarked (cs.take position)) :
    shownBefore tabSize cs position <+:
      plain tabSize ("  ".toList ++ escape (lineAround cs position)) := by
  have indent : Unmarked "  ".toList := by decide
  have before := unmarked_lineBefore unmarked
  obtain ⟨more, escaped⟩ :=
    prefix_escape_append before ((cs.drop position).takeWhile (· ≠ '\n'))
  rw [← lineAround_eq] at escaped
  rw [← escaped, ← List.append_assoc, plain, render_append (indent.append before), dropControls,
    List.filter_append]
  exact prefix_expandTabs tabSize 0 _ _

/-- The caret line is shown as it is, tabs apart. -/
theorem plain_caret (tabSize : Nat) (cs : List Char) :
    plain tabSize ("  ".toList ++ styled "bold red" (cs.flatMap padChar ++ ['^'])) =
      expandTabs tabSize 0 (dropControls (("  ".toList ++ cs).flatMap padChar)) ++ ['^'] := by
  have indent : Unmarked "  ".toList := by decide
  have bracketless : Bracketless "bold red".toList := by decide
  have indented : "  ".toList ++ cs.flatMap padChar = ("  ".toList ++ cs).flatMap padChar := by
    rw [List.flatMap_append]
    rfl
  have kept : dropControls ['^'] = ['^'] := by decide
  rw [plain, render_styled rfl rfl bracketless indent (unmarked_caret cs), ← List.append_assoc,
    indented, dropControls, List.filter_append]
  exact expandTabs_append_singleton (by decide) (by decide) tabSize 0 _

theorem noNewline_source (cs : List Char) (position : Nat) :
    '\n' ∉ "  ".toList ++ escape (lineAround cs position) := by
  have line := noNewline_escape (noNewline_lineAround cs position)
  simp only [List.mem_append, not_or]
  exact ⟨by decide, line⟩

theorem noNewline_caret (cs : List Char) (position : Nat) :
    '\n' ∉ "  ".toList ++
      styled "bold red" ((lineBefore cs position).flatMap padChar ++ ['^']) := by
  have padding : '\n' ∉ (lineBefore cs position).flatMap padChar := by
    intro mem
    rcases mem_padding mem with space | ⟨inLine, _⟩
    · exact absurd space (by decide)
    · exact ne_newline_of_mem_lineBefore cs position inLine rfl
  simpa [styled] using padding

/-- The two lines belong together. -/
theorem pointed_excerpt (tabSize : Nat) (unmarked : Unmarked (cs.take position)) :
    Pointed tabSize cs position (plain tabSize ("  ".toList ++ escape (lineAround cs position)))
      (plain tabSize ("  ".toList ++
        styled "bold red" ((lineBefore cs position).flatMap padChar ++ ['^']))) where
  line := rfl
  start := shownBefore_starts_source tabSize unmarked
  aligned := by
    refine ⟨_, plain_caret tabSize _, ?_, cells_shown_padding tabSize _⟩
    intro mem
    rcases mem_expandTabs mem with space | kept
    · exact absurd space (by decide)
    · have blank := isBlank_of_mem_padding (List.mem_filter.1 kept).1
      revert blank
      decide

end Excerpt

/-- **The caret stands under the position.**  A failed evaluation is shown on three lines if its
position is known: the message, the source line that holds the position, and a caret with as many
cells in front of it as the line shows in front of the position, however the line goes on.  A
failure without a position is shown on one line. -/
theorem caret_under_position (tabSize : Nat) (text : String) (limits : Limits)
    (failed : (tryEvaluate text limits).ok = false) :
    ((tryEvaluate text limits).position = .null ∧
      ∃ line, '\n' ∉ line ∧ diagnose tabSize (tryEvaluate text limits) = .ok (line ++ ['\n'])) ∨
    ∃ position : Nat, (tryEvaluate text limits).position = .int position ∧
      position ≤ text.toList.length ∧
      ∃ message source caret, '\n' ∉ message ∧ '\n' ∉ source ∧ '\n' ∉ caret ∧
        diagnose tabSize (tryEvaluate text limits) =
          .ok (message ++ '\n' :: (source ++ '\n' :: (caret ++ ['\n']))) ∧
        Pointed tabSize text.toList position source caret := by
  rw [tryEvaluate] at failed ⊢
  cases evaluated : evaluate text limits with
  | ok value =>
      rw [evaluated] at failed
      cases failed
  | error failure =>
      have message := noNewline_plain (noNewline_headline text failure) tabSize
      rw [Outcome.ofResult, diagnose_failure]
      cases failure with
      | exhausted =>
          refine .inl ⟨rfl, _, message, ?_⟩
          simp [showDiagnosis, showLine, Outcome.failure, Failure.diagnostic, Json.index?]
      | fault cause position =>
          obtain ⟨inside, unmarked⟩ := unmarked_before_fault evaluated
          refine .inr ⟨position, rfl, inside, _, _, _, message,
            noNewline_plain (noNewline_source text.toList position) tabSize,
            noNewline_plain (noNewline_caret text.toList position) tabSize, ?_,
            pointed_excerpt tabSize unmarked⟩
          have lines := excerpt_eq inside
          simp [showDiagnosis, showLine, Outcome.failure, Failure.diagnostic, Json.index?, lines]

/-- The second line of a text with tabs and a wide digit, which goes on with a tag. -/
theorem caret_under_position_before_tag :
    (tryEvaluate "1 +\n(１\t/ 2)\t[b]").ok = false ∧
      ∃ message source caret, diagnose 4 (tryEvaluate "1 +\n(１\t/ 2)\t[b]") =
          .ok (message ++ '\n' :: (source ++ '\n' :: (caret ++ ['\n']))) ∧
        Pointed 4 "1 +\n(１\t/ 2)\t[b]".toList 12 source caret := by
  have failed : (tryEvaluate "1 +\n(１\t/ 2)\t[b]").ok = false := by decide +kernel
  have known : (tryEvaluate "1 +\n(１\t/ 2)\t[b]").position = .int 12 := by decide +kernel
  refine ⟨failed, ?_⟩
  rcases caret_under_position 4 "1 +\n(１\t/ 2)\t[b]" {} failed with
    ⟨nowhere, _⟩ | ⟨position, there, _, message, source, caret, _, _, _, shown, pointed⟩
  · rw [known] at nowhere
    cases nowhere
  · rw [known] at there
    cases there
    exact ⟨message, source, caret, shown, pointed⟩

end Report

end Abacus
