/-
Module: Abacus.Proofs.SummaryTable
Purpose: Outcomes of evaluations are shown as an even table with one numbered row for each.
Main exports: closingText_eq_allEvaluated_iff, ShowsRow, tableLines, even_summaryTable,
  summarize_lays_out
-/
import Abacus.Proofs.SummaryTexts
import Abacus.Proofs.TableLayout

namespace Abacus.Report

open Display Text

/-!
A table of outcomes is a table like any other, so it is even, and the column of the expressions
has at least as many cells as make the table wider than its title.  What is left are the
texts of its rows and the count below it.
-/

/-! ### The closing line -/

/-- A line in one style has nothing to drop and nothing to expand. -/
theorem showLine_styled (tabSize : Nat) {style : String} {c : Char} {others text : List Char}
    (name : style.toList = c :: others) (starts : Markup.startsTag c = true)
    (bracketless : Markup.Bracketless (c :: others)) (clean : Clean text) :
    showLine tabSize (styled style text) = text ++ ['\n'] := by
  have unmarkedNothing : Markup.Unmarked [] := by decide
  have rendered : Markup.render (styled style text) = text :=
    Markup.render_styled name starts bracketless unmarkedNothing clean.unmarked
  have noTab : '\t' ∉ text := fun mem => (lined_of_printable clean.printable _ mem).1 rfl
  rw [showLine, plain, rendered, dropControls_of_tame (tame_of_printable clean.printable),
    expandTabs_of_noTab noTab]

/-- What the closing line says when there are no failures. -/
def allEvaluated (outcomes : List Outcome) : List Char :=
  "All ".toList ++ (toString outcomes.length).toList ++ " evaluated".toList

/-- What it says otherwise. -/
def someFailed (outcomes : List Outcome) : List Char :=
  (toString (outcomes.countP (!·.ok))).toList ++ " of ".toList ++
    (toString outcomes.length).toList ++ " failed".toList

theorem clean_allEvaluated (outcomes : List Outcome) : Clean (allEvaluated outcomes) := by
  have start : Clean "All ".toList := clean_of_ascii (by decide) (by decide)
  have rest : Clean " evaluated".toList := clean_of_ascii (by decide) (by decide)
  exact (start.append (clean_natural outcomes.length)).append rest

theorem clean_someFailed (outcomes : List Outcome) : Clean (someFailed outcomes) := by
  have between : Clean " of ".toList := clean_of_ascii (by decide) (by decide)
  have rest : Clean " failed".toList := clean_of_ascii (by decide) (by decide)
  have failed := clean_natural (outcomes.countP (!·.ok))
  exact ((failed.append between).append (clean_natural outcomes.length)).append rest

/-- What the closing line says. -/
def closingText (outcomes : List Outcome) : List Char :=
  if outcomes.countP (!·.ok) = 0 then allEvaluated outcomes else someFailed outcomes

theorem showLine_closingLine (tabSize : Nat) (outcomes : List Outcome) :
    showLine tabSize (closingLine outcomes) = closingText outcomes ++ ['\n'] := by
  rw [closingLine, closingText]
  split
  · have written (total : List Char) :
        "[green]All ".toList ++ total ++ " evaluated[/green]".toList =
          styled "green" ("All ".toList ++ total ++ " evaluated".toList) := by
      simp [styled]
    rw [written]
    exact showLine_styled tabSize rfl rfl (by decide) (clean_allEvaluated outcomes)
  · have written (failed total : List Char) :
        "[red]".toList ++ failed ++ " of ".toList ++ total ++ " failed[/red]".toList =
          styled "red" (failed ++ " of ".toList ++ total ++ " failed".toList) := by
      simp [styled]
    rw [written]
    exact showLine_styled tabSize rfl rfl (by decide) (clean_someFailed outcomes)

/-- Only where nothing failed does the closing line start with a letter. -/
theorem someFailed_ne_allEvaluated (outcomes : List Outcome) :
    someFailed outcomes ≠ allEvaluated outcomes := by
  obtain ⟨d, ds, digits, isDigit⟩ := exists_toDigits (outcomes.countP (!·.ok))
  have number : (someFailed outcomes).head? = some d :=
    congrArg (fun failed : List Char => (failed ++ " of ".toList ++
      (toString outcomes.length).toList ++ " failed".toList).head?)
      ((toList_toString_nat _).trans digits)
  have letter : (allEvaluated outcomes).head? = some 'A' := rfl
  intro same
  rw [same, letter, Option.some.injEq] at number
  rw [← number] at isDigit
  cases isDigit

theorem closingText_eq_allEvaluated_iff (outcomes : List Outcome) :
    closingText outcomes = allEvaluated outcomes ↔ ∀ outcome ∈ outcomes, outcome.ok = true := by
  have nothing : outcomes.countP (!·.ok) = 0 ↔ ∀ outcome ∈ outcomes, outcome.ok = true := by
    simp [List.countP_eq_zero]
  rw [closingText, ← nothing]
  split
  · rename_i none
    simp [none]
  · rename_i some
    simp [some, someFailed_ne_allEvaluated]

/-- The closing line says how many failures there are, or that there are none. -/
theorem closingText_of_ne {outcomes : List Outcome}
    (other : closingText outcomes ≠ allEvaluated outcomes) :
    0 < outcomes.countP (!·.ok) ∧ closingText outcomes = someFailed outcomes := by
  rw [closingText] at other ⊢
  split at other
  · exact absurd rfl other
  · rename_i some
    exact ⟨Nat.pos_of_ne_zero some, if_neg some⟩

/-! ### Rows -/

/-- The lines of a row of a table of outcomes.  The text of the expression is shown line by line
only where no separators of lines or of paragraphs are in it. -/
def ShowsRow (border : Border) :
    (widths : List Nat) → (texts : List (List Char)) → (lines : List (List Char)) → Prop
  | [first, second, third, fourth], [number, expression, result, status], lines =>
      ∃ numbers expressions results statuses,
        Table.Beside border [first, second, third, fourth]
          [numbers, expressions, results, statuses] lines ∧
        Table.Shows .right first number numbers ∧
        ('\u2028' ∉ expression → '\u2029' ∉ expression →
          Table.Shows .left second expression expressions) ∧
        Table.Shows .right third result results ∧
        Table.Shows .left fourth status statuses
  | _, _, _ => False

theorem rows_summaryTable (outcomes : List Outcome) :
    (summaryTable outcomes).rows =
      (outcomes.zipIdx 1).map fun numbered => summaryRow numbered.1 numbered.2 := by
  have rows : (summaryTable outcomes).rows =
      List.zipWith summaryRow outcomes (List.range' 1 outcomes.length) := rfl
  rw [rows, List.zipIdx_eq_zip_range', List.zip, List.map_zipWith]

theorem rectangular_summaryTable (outcomes : List Outcome) :
    (summaryTable outcomes).Rectangular where
  columns := List.cons_ne_nil _ _
  rows := by
    intro row mem
    rw [rows_summaryTable] at mem
    obtain ⟨numbered, _, rfl⟩ := List.mem_map.1 mem
    rfl

section Layout

variable (tabSize : Nat) (outcomes : List Outcome)

theorem exists_widths_summaryTable :
    ∃ first second third fourth, (summaryTable outcomes).widths = [first, second, third, fourth] ∧
      16 ≤ second := by
  have least : List.Forall₂ (· ≤ ·) [0, 16, 0, 0] (summaryTable outcomes).widths :=
    (Table.roomy_widths (rectangular_summaryTable outcomes)).1
  generalize (summaryTable outcomes).widths = widths at least
  match widths, least with
  | _, .cons _ (.cons wide (.cons _ (.cons _ .nil))) => exact ⟨_, _, _, _, rfl, wide⟩

/-- The lines of the heading or of a row show its texts. -/
theorem showsRow_rowLines (border : Border) {number expression result status : List Char}
    (mem : [number, expression, result, status] ∈
      (summaryTable outcomes).columns.map (·.heading) :: (summaryTable outcomes).rows)
    (printableNumber : Printable number) (tame : Tame expression)
    (printableResult : Printable result) (printableStatus : Printable status) :
    ShowsRow border (summaryTable outcomes).widths [number, expression, result, status]
      (Table.rowLines tabSize border (summaryTable outcomes).settings
        [number, expression, result, status]) := by
  have rectangular := rectangular_summaryTable outcomes
  have four : [number, expression, result, status].length =
      (summaryTable outcomes).columns.length := rfl
  have beside := Table.beside_of_rectangular tabSize rectangular border four
  have shows := Table.shows_of_rectangular tabSize rectangular mem
  obtain ⟨first, second, third, fourth, widths, _⟩ := exists_widths_summaryTable outcomes
  have settings : (summaryTable outcomes).settings =
      [(.right, first), (.left, second), (.right, third), (.left, fourth)] := by
    rw [Table.settings, widths]
    rfl
  rw [widths] at beside ⊢
  rw [settings] at beside shows ⊢
  simp only [List.zip_cons_cons, List.zip_nil_left, Table.columnsOf, List.map_cons, List.map_nil,
    List.forall₂_cons] at beside shows
  obtain ⟨showsNumber, showsExpression, showsResult, showsStatus, _⟩ := shows
  refine ⟨_, _, _, _, beside, showsNumber (lined_of_printable printableNumber), ?_,
    showsResult (lined_of_printable printableResult),
    showsStatus (lined_of_printable printableStatus)⟩
  intro noLineSeparator noParagraphSeparator
  exact showsExpression (lined_of_tame tame noLineSeparator noParagraphSeparator)

/-- A table of outcomes from its title to its lower edge, from the lines of its heading and of its
rows. -/
def tableLines (widths : List Nat) (heading : List (List Char)) (rows : List (List (List Char))) :
    List (List Char) :=
  Table.titleLine (Table.width widths) "Evaluation results".toList ::
    Table.rule Table.topBorder widths :: heading ++
    Table.rule Table.middleBorder widths :: rows.flatten ++ [Table.rule Table.bottomBorder widths]

theorem lines_summaryTable :
    (summaryTable outcomes).lines tabSize =
      tableLines (summaryTable outcomes).widths
        (Table.rowLines tabSize Table.headingBorder (summaryTable outcomes).settings
          ((summaryTable outcomes).columns.map (·.heading)))
        ((outcomes.zipIdx 1).map fun numbered =>
          Table.rowLines tabSize Table.rowBorder (summaryTable outcomes).settings
            (summaryRow numbered.1 numbered.2)) := by
  rw [Table.lines, rows_summaryTable, List.flatMap_map]
  rfl

theorem even_summaryTable {line : List Char} (mem : line ∈ (summaryTable outcomes).lines tabSize) :
    cells line = Table.width (summaryTable outcomes).widths ∧ '\n' ∉ line := by
  obtain ⟨first, second, third, fourth, widths, wide⟩ := exists_widths_summaryTable outcomes
  have title : (summaryTable outcomes).title = "Evaluation results".toList := rfl
  have narrow : cells "Evaluation results".toList = 18 := by decide +kernel
  apply Table.even_lines tabSize (rectangular_summaryTable outcomes) _ _ mem
  · rw [title, narrow, widths]
    simp only [Table.width, List.foldr_cons, List.foldr_nil]
    omega
  · rw [title]
    decide

theorem showSummary_eq (nonempty : outcomes ≠ []) :
    showSummary tabSize outcomes =
      '\n' :: ((summaryTable outcomes).lines tabSize).flatMap (· ++ ['\n']) ++
        closingText outcomes ++ ['\n', '\n'] := by
  have blank : showLine tabSize [] = ['\n'] := rfl
  have some : ¬ outcomes.isEmpty = true := by simpa using nonempty
  have framed (body closing : List Char) : ['\n'] ++ body ++ (closing ++ ['\n']) ++ ['\n'] =
      '\n' :: body ++ closing ++ ['\n', '\n'] := by
    simp
  rw [showSummary, if_neg some, showLine_closingLine, blank, framed]

end Layout

/-- **Outcomes are shown as an even table, one row for each, and counted.**  All lines of the
table have the same width.  Below the heading come the rows in the order of the outcomes, which are
numbered from one.  The closing line says that all are evaluated exactly when none of them failed,
and otherwise how many did. -/
theorem summarize_lays_out (tabSize : Nat) {outcomes : List Outcome} (nonempty : outcomes ≠ [])
    (recorded : ∀ outcome ∈ outcomes, Recorded outcome) :
    ∃ widths heading rows closing,
      summarize tabSize outcomes =
        .ok ('\n' :: (tableLines widths heading rows).flatMap (· ++ ['\n']) ++ closing ++
          ['\n', '\n']) ∧
      (∀ line ∈ tableLines widths heading rows,
        cells line = Table.width widths ∧ '\n' ∉ line) ∧
      ShowsRow Table.headingBorder widths
        ["#".toList, "Expression".toList, "Result".toList, "Status".toList] heading ∧
      List.Forall₂
        (fun numbered => ShowsRow Table.rowBorder widths
          [(toString numbered.2).toList, expressionText numbered.1, resultText numbered.1,
            statusText numbered.1])
        (outcomes.zipIdx 1) rows ∧
      ((∀ outcome ∈ outcomes, outcome.ok = true) ↔ closing = allEvaluated outcomes) ∧
      (closing ≠ allEvaluated outcomes →
        0 < outcomes.countP (!·.ok) ∧ closing = someFailed outcomes) := by
  have lines := lines_summaryTable tabSize outcomes
  refine ⟨_, _, _, closingText outcomes, ?_,
    fun line mem => even_summaryTable tabSize outcomes (lines ▸ mem), ?_, ?_,
    (closingText_eq_allEvaluated_iff outcomes).symm, closingText_of_ne⟩
  · rw [summarize_of_recorded tabSize recorded, showSummary_eq tabSize outcomes nonempty, lines]
  · have number : Printable "#".toList := printable_of_ascii (by decide)
    have expression : Printable "Expression".toList := printable_of_ascii (by decide)
    have result : Printable "Result".toList := printable_of_ascii (by decide)
    have status : Printable "Status".toList := printable_of_ascii (by decide)
    exact showsRow_rowLines tabSize outcomes Table.headingBorder List.mem_cons_self number
      (tame_of_printable expression) result status
  · rw [List.forall₂_map_right_iff, List.forall₂_same]
    intro numbered mem
    have isOutcome := recorded numbered.1 (List.fst_mem_of_mem_zipIdx mem)
    have isRow : summaryRow numbered.1 numbered.2 ∈ (summaryTable outcomes).rows := by
      rw [rows_summaryTable]
      exact List.mem_map.2 ⟨numbered, mem, rfl⟩
    rw [summaryRow_eq isOutcome] at isRow ⊢
    exact showsRow_rowLines tabSize outcomes Table.rowBorder (List.mem_cons_of_mem _ isRow)
      (printable_natural numbered.2) (tame_render_escape isOutcome.tame)
      isOutcome.fitsResult.printable isOutcome.fitsStatus.printable

/-- A success on two lines with a wide digit, and two failures, the second of them with a mark that
takes no cell and with what looks like a tag. -/
theorem summarize_lays_out_mixed :
    let outcomes :=
      [tryEvaluate "(１ +\n2) * 3", tryEvaluate "7 / (1 - 1)", tryEvaluate "e\u0301[b]"]
    outcomes ≠ [] ∧ (∀ outcome ∈ outcomes, Recorded outcome) ∧
      ∃ widths heading rows,
        summarize 8 outcomes =
          .ok ('\n' :: (tableLines widths heading rows).flatMap (· ++ ['\n']) ++
            "2 of 3 failed".toList ++ ['\n', '\n']) ∧
        (∀ line ∈ tableLines widths heading rows,
          cells line = Table.width widths ∧ '\n' ∉ line) ∧
        rows.length = 3 := by
  intro outcomes
  have nonempty : outcomes ≠ [] := List.cons_ne_nil _ _
  have recorded : ∀ outcome ∈ outcomes, Recorded outcome := by
    intro outcome mem
    simp only [outcomes, List.mem_cons, List.not_mem_nil, or_false] at mem
    rcases mem with rfl | rfl | rfl
    all_goals exact ⟨_, _, rfl, by decide⟩
  obtain ⟨widths, heading, rows, closing, shown, even, _, inOrder, all, some⟩ :=
    summarize_lays_out 8 nonempty recorded
  have other : closing ≠ allEvaluated outcomes := by
    intro same
    have ok := all.2 same (tryEvaluate "7 / (1 - 1)") (by simp [outcomes])
    revert ok
    decide +kernel
  have counted : someFailed outcomes = "2 of 3 failed".toList := by decide +kernel
  rw [(some other).2, counted] at shown
  exact ⟨nonempty, recorded, widths, heading, rows, shown, even, inOrder.length_eq.symm⟩

end Abacus.Report
