/-
Module: Abacus.Proofs.SummaryTexts
Purpose: The texts in the row of an outcome of an evaluation, and that they can always be shown.
Main exports: Tame, Recorded, Clean, FitsCell, Recorded.fitsResult, Recorded.fitsStatus,
  summaryRow_eq, summarize_of_recorded
-/
import Abacus.Proofs.Diagnosis
import Abacus.Proofs.Fitting
import Abacus.Proofs.Quotation
import Abacus.Proofs.Restored
import Abacus.Report.Misfit

namespace Abacus.Report

open Display Text

/-!
The outcome of an evaluation has an expression, which may be any text, and other fields of which
the words are known.  So the only characters of a row that could upset a table come from the
expression.  Tabs and controls are left out here, but newlines are not: they make the row higher.
Separators of lines and of paragraphs are no controls.  They count as line ends when the column of
the expressions is measured but not when it is set, so a line with them may be broken.
-/

/-! ### Tame texts -/

/-- The text has no controls, and so no tabs, except newlines. -/
def Tame (cs : List Char) : Prop :=
  ∀ c ∈ cs, isControlCode c = true → c = '\n'

instance (cs : List Char) : Decidable (Tame cs) :=
  List.decidableBAll (fun c => isControlCode c = true → c = '\n') _

theorem isControlCode_of_isControl {c : Char} (control : isControl c = true) :
    isControlCode c = true ∧ c ≠ '\n' := by
  have codes : ['\x07', '\x08', '\x0b', '\x0c', '\r'].all
      (fun d => isControlCode d && d ≠ '\n') = true := by
    decide
  simpa using List.all_eq_true.1 codes c (List.contains_iff_mem.1 control)

theorem isControlCode_of_isLineEnd {c : Char} (ends : isLineEnd c = true) :
    isControlCode c = true ∨ c = '\u2028' ∨ c = '\u2029' := by
  have codes : ['\n', '\r', '\x0b', '\x0c', '\x1c', '\x1d', '\x1e', '\u0085', '\u2028',
      '\u2029'].all (fun d => isControlCode d || d = '\u2028' || d = '\u2029') = true := by
    decide
  simpa [or_assoc] using List.all_eq_true.1 codes c (List.contains_iff_mem.1 ends)

/-- A display has nothing to drop from a tame text. -/
theorem dropControls_of_tame {cs : List Char} (tame : Tame cs) : dropControls cs = cs := by
  refine List.filter_eq_self.2 fun c mem => ?_
  rw [Bool.not_eq_true', Bool.eq_false_iff]
  intro control
  obtain ⟨code, other⟩ := isControlCode_of_isControl control
  exact other (tame c mem code)

/-- The lines of a tame text end with newlines, unless there are separators in it. -/
theorem lined_of_tame {cs : List Char} (tame : Tame cs) (noLineSeparator : '\u2028' ∉ cs)
    (noParagraphSeparator : '\u2029' ∉ cs) : Lined cs := by
  intro c mem
  constructor
  · rintro rfl
    exact absurd (tame _ mem (by decide)) (by decide)
  · intro ends
    rcases isControlCode_of_isLineEnd ends with code | rfl | rfl
    · exact tame c mem code
    · exact absurd mem noLineSeparator
    · exact absurd mem noParagraphSeparator

theorem tame_of_printable {cs : List Char} (printable : Printable cs) : Tame cs := by
  intro c mem code
  rw [isControlCode_of_isPrintable (printable c mem)] at code
  cases code

theorem lined_of_printable {cs : List Char} (printable : Printable cs) : Lined cs := by
  refine lined_of_tame (tame_of_printable printable) ?_ ?_
  · intro mem
    exact absurd (printable _ mem) (by decide +kernel)
  · intro mem
    exact absurd (printable _ mem) (by decide +kernel)

/-- Escaped text shows backslashes and its own characters only. -/
theorem mem_render_escape {c : Char} {cs : List Char}
    (mem : c ∈ Markup.render (Markup.escape cs)) : c = '\\' ∨ c ∈ cs := by
  rcases Markup.mem_render mem with slash | escaped
  · exact .inl slash
  · exact Markup.mem_escape escaped

theorem tame_render_escape {cs : List Char} (tame : Tame cs) :
    Tame (Markup.render (Markup.escape cs)) := by
  intro c mem code
  rcases mem_render_escape mem with rfl | inText
  · exact absurd code (by decide)
  · exact tame c inText code

theorem printable_render_escape {cs : List Char} (printable : Printable cs) :
    Printable (Markup.render (Markup.escape cs)) := by
  intro c mem
  rcases mem_render_escape mem with rfl | inText
  · decide +kernel
  · exact printable c inText

/-! ### Outcomes of evaluations -/

/-- The outcome of evaluating a tame text, under any limits. -/
def Recorded (outcome : Outcome) : Prop :=
  ∃ text limits, outcome = tryEvaluate text limits ∧ Tame text.toList

/-- An outcome is a success or a failure. -/
theorem Recorded.cases {outcome : Outcome} (recorded : Recorded outcome) :
    ∃ expression, Tame expression.toList ∧
      ((∃ value, outcome = .success expression value) ∨
        ∃ failure : Failure, outcome = .failure expression failure.diagnostic) := by
  obtain ⟨text, limits, rfl, tame⟩ := recorded
  refine ⟨text, tame, ?_⟩
  rw [tryEvaluate]
  cases evaluate text limits with
  | ok value => exact .inl ⟨value, rfl⟩
  | error failure => exact .inr ⟨failure, rfl⟩

/-- The text of an expression, as it is shown. -/
def expressionText (outcome : Outcome) : List Char :=
  Markup.render (Markup.escape outcome.expression.display.toList)

/-- The message of a failure, with the column where there is one. -/
def columnMessage (outcome : Outcome) : String :=
  if outcome.position = .null then outcome.error.display
  else outcome.error.display ++ " (col " ++ outcome.position.display ++ ")"

/-- What an outcome came to, as it is shown: the digits of the value, or the message. -/
def resultText (outcome : Outcome) : List Char :=
  if outcome.ok then outcome.value.display.toList
  else Markup.render (Markup.escape (columnMessage outcome).toList)

/-- Whether an outcome is a success, as it is shown, or what kind of failure it is. -/
def statusText (outcome : Outcome) : List Char :=
  if outcome.ok then "ok".toList else kindLabel outcome.kind

/-- Text without marks of which all characters are printable is shown as it is. -/
structure Clean (cs : List Char) : Prop where
  unmarked : Markup.Unmarked cs
  printable : Printable cs

theorem Clean.append {cs ds : List Char} (first : Clean cs) (second : Clean ds) :
    Clean (cs ++ ds) :=
  ⟨first.unmarked.append second.unmarked, first.printable.append second.printable⟩

theorem clean_of_ascii {cs : List Char} (ascii : cs.all (CodeRange.covers asciiRanges) = true)
    (unmarked : Markup.Unmarked cs) : Clean cs :=
  ⟨unmarked, printable_of_ascii ascii⟩

theorem clean_natural (n : Nat) : Clean (toString n).toList := by
  refine ⟨?_, printable_natural n⟩
  rw [toList_toString_nat]
  intro c mem
  have digit := isDigit_of_mem_digits n c mem
  constructor
  · rintro rfl
    cases digit
  · rintro rfl
    cases digit

theorem clean_integer (value : Int) : Clean (toString value).toList := by
  refine ⟨?_, printable_integer value⟩
  cases value with
  | ofNat n => exact (clean_natural n).unmarked
  | negSucc n =>
      rw [toList_toString_negSucc, ← toList_toString_nat]
      exact List.forall_mem_cons.2 ⟨by decide, (clean_natural (n + 1)).unmarked⟩

theorem Clean.cell {cs : List Char} (clean : Clean cs) : cell cs = cs := by
  rw [Report.cell, Markup.render_of_unmarked clean.unmarked,
    dropControls_of_tame (tame_of_printable clean.printable)]

theorem cell_escape {cs : List Char} (tame : Tame cs) :
    cell (Markup.escape cs) = Markup.render (Markup.escape cs) :=
  dropControls_of_tame (tame_render_escape tame)

/-- Markup fits a cell if nothing is wrong with its tags and printable characters are shown. -/
structure FitsCell (markup text : List Char) : Prop where
  shown : cell markup = text
  printable : Printable text
  tags : markupMisfit? markup = none
  styles : styleMisfit? markup = none

theorem Clean.fitsCell {cs : List Char} (clean : Clean cs) : FitsCell cs cs := by
  have nested : Markup.nest 0 0 [] (Markup.pieces cs) = .ok [] := by
    have alone := Markup.pieces_append clean.unmarked.noBracket []
    rw [List.append_nil] at alone
    rw [alone, Markup.nest_unmarked clean.unmarked]
    rfl
  obtain ⟨tags, styles⟩ := misfits_of_nest nested (by simp)
  exact ⟨clean.cell, clean.printable, tags, styles⟩

theorem fitsCell_escape {cs : List Char} (printable : Printable cs) :
    FitsCell (Markup.escape cs) (Markup.render (Markup.escape cs)) := by
  obtain ⟨tags, styles⟩ := misfits_of_nest (Markup.nest_escape cs 0 []) (by simp)
  exact ⟨cell_escape (tame_of_printable printable), printable_render_escape printable, tags, styles⟩

/-- A label is shown without the tags around it. -/
theorem Clean.fitsLabel {label : List Char} (clean : Clean label) :
    FitsCell (styled "red" label) label := by
  have bracketless : Markup.Bracketless ['r', 'e', 'd'] := by decide
  have unmarkedNothing : Markup.Unmarked [] := by decide
  have nested : Markup.nest 0 0 [] (Markup.pieces (styled "red" label)) =
      .ok [Markup.redLabel] := by
    have parts : Markup.pieces (styled "red" label) =
        .tag "[red]".toList :: (label.map .plain ++ [.tag "[/red]".toList]) := by
      rw [← List.append_nil (styled _ _), Markup.pieces_styled rfl rfl bracketless clean.unmarked]
      rfl
    rw [parts, Markup.nest_red_opening, Markup.nest_unmarked clean.unmarked,
      Markup.nest_red_closing]
    rfl
  obtain ⟨tags, styles⟩ := misfits_of_nest nested (by simp)
  have rendered : Markup.render (styled "red" label) = label :=
    Markup.render_styled rfl rfl bracketless unmarkedNothing clean.unmarked
  refine ⟨?_, clean.printable, tags, styles⟩
  rw [Report.cell, rendered, dropControls_of_tame (tame_of_printable clean.printable)]

theorem fitsCell_ok : FitsCell (styled "green" "ok".toList) "ok".toList where
  shown := rfl
  printable := printable_of_ascii (by decide)
  tags := rfl
  styles := rfl

section Failures

variable (expression : String) (failure : Failure)

theorem not_ok_failure : (Outcome.failure expression failure.diagnostic).ok = false :=
  Outcome.isVacant_name failure.diagnostic.category

theorem columnMessage_failure :
    columnMessage (.failure expression failure.diagnostic) =
      failure.diagnostic.message ++ failure.diagnostic.position.elim "" fun position =>
        " (col " ++ toString position ++ ")" := by
  cases position : failure.diagnostic.position with
  | none => simp [columnMessage, Outcome.failure, position]
  | some position => simp [columnMessage, Outcome.failure, position, String.append_assoc]

theorem printable_columnMessage :
    Printable (columnMessage (.failure expression failure.diagnostic)).toList := by
  rw [columnMessage_failure, String.toList_append]
  refine (printable_diagnostic failure).append ?_
  cases failure.diagnostic.position with
  | none => simp [Printable]
  | some position =>
      rw [Option.elim_some, String.toList_append, String.toList_append]
      exact ((printable_of_ascii (by decide)).append (printable_integer position)).append
        (printable_of_ascii (by decide))

theorem resultCell_failure :
    resultCell (.failure expression failure.diagnostic) =
      Markup.escape (columnMessage (.failure expression failure.diagnostic)).toList := by
  rw [resultCell, not_ok_failure, columnMessage, if_neg Bool.false_ne_true]
  split
  · rfl
  · rfl

end Failures

/-- What an outcome came to fits its cell. -/
theorem Recorded.fitsResult {outcome : Outcome} (recorded : Recorded outcome) :
    FitsCell (resultCell outcome) (resultText outcome) := by
  obtain ⟨expression, -, ⟨value, rfl⟩ | ⟨failure, rfl⟩⟩ := recorded.cases
  · have digits := (clean_integer value).fitsCell
    rw [← Json.display_int] at digits
    exact digits
  · rw [resultCell_failure, resultText, not_ok_failure, if_neg Bool.false_ne_true]
    exact fitsCell_escape (printable_columnMessage expression failure)

/-- So does whether it is a success. -/
theorem Recorded.fitsStatus {outcome : Outcome} (recorded : Recorded outcome) :
    FitsCell (statusCell outcome) (statusText outcome) := by
  obtain ⟨expression, -, ⟨value, rfl⟩ | ⟨failure, rfl⟩⟩ := recorded.cases
  · exact fitsCell_ok
  · rw [statusCell, statusText, not_ok_failure]
    have label : Clean (kindLabel (.text failure.diagnostic.category.name)) :=
      ⟨unmarked_kindLabel failure.diagnostic.category,
        printable_kindLabel failure.diagnostic.category⟩
    exact label.fitsLabel

theorem Recorded.tame {outcome : Outcome} (recorded : Recorded outcome) :
    Tame outcome.expression.display.toList := by
  obtain ⟨expression, tame, ⟨value, rfl⟩ | ⟨failure, rfl⟩⟩ := recorded.cases
  · exact tame
  · exact tame

/-- The texts of the row of an outcome. -/
theorem summaryRow_eq {outcome : Outcome} (recorded : Recorded outcome) (number : Nat) :
    summaryRow outcome number =
      [(toString number).toList, expressionText outcome, resultText outcome,
        statusText outcome] := by
  rw [summaryRow, cell_escape recorded.tame, recorded.fitsResult.shown, recorded.fitsStatus.shown,
    expressionText]

theorem misfits_fields {outcome : Outcome} (recorded : Recorded outcome) :
    textMisfit? outcome.expression = none ∧ cellsMisfit? outcome = none := by
  obtain ⟨expression, -, ⟨value, rfl⟩ | ⟨failure, rfl⟩⟩ := recorded.cases
  · exact ⟨rfl, rfl⟩
  · refine ⟨rfl, ?_⟩
    rw [cellsMisfit?, not_ok_failure, messageMisfit?_failure]
    rfl

/-- Outcomes of evaluations can always be shown. -/
theorem summarize_of_recorded (tabSize : Nat) {outcomes : List Outcome}
    (recorded : ∀ outcome ∈ outcomes, Recorded outcome) :
    summarize tabSize outcomes = .ok (showSummary tabSize outcomes) := by
  have nowhere (misfit? : Outcome → Option Misfit)
      (fits : ∀ outcome, Recorded outcome → misfit? outcome = none) :
      outcomes.findSome? misfit? = none :=
    List.findSome?_eq_none_iff.2 fun outcome mem => fits outcome (recorded outcome mem)
  have misfits : summaryMisfit? outcomes = none := by
    rw [summaryMisfit?, nowhere, nowhere, nowhere, nowhere]
    · rfl
    · intro outcome recorded
      rw [recorded.fitsResult.styles, recorded.fitsStatus.styles]
      rfl
    · intro outcome recorded
      exact recorded.fitsStatus.tags
    · intro outcome recorded
      exact recorded.fitsResult.tags
    · intro outcome recorded
      obtain ⟨expression, cells⟩ := misfits_fields recorded
      rw [expression, cells]
      rfl
  rw [summarize, misfits]
  rfl

end Abacus.Report
