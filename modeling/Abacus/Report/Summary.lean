/-
Module: Abacus.Report.Summary
Purpose: The outcomes of many expressions as a table with a closing count.
Main exports: summaryTable, closingLine, showSummary
-/
import Abacus.Display.Line
import Abacus.Display.Table
import Abacus.Report.Wording

namespace Abacus.Report

open Display

/-- A cell of the table, as it looks once its markup is rendered. -/
def cell (markup : List Char) : List Char :=
  dropControls (Markup.render markup)

/-- The row of the outcome with that number. -/
def summaryRow (outcome : Outcome) (number : Nat) : List (List Char) :=
  [(toString number).toList, cell (Markup.escape outcome.expression.display.toList),
    cell (resultCell outcome), cell (statusCell outcome)]

/-- The table of some outcomes, numbered from one. -/
def summaryTable (outcomes : List Outcome) : Table where
  title := "Evaluation results".toList
  columns := [
    { heading := "#".toList, justify := .right },
    { heading := "Expression".toList, minWidth := 16 },
    { heading := "Result".toList, justify := .right },
    { heading := "Status".toList }]
  rows := List.zipWith summaryRow outcomes (List.range' 1 outcomes.length)

/-- How many outcomes are failures, or else that none is. -/
def closingLine (outcomes : List Outcome) : List Char :=
  let failed := outcomes.countP (!·.ok)
  if failed = 0 then
    "[green]All ".toList ++ (toString outcomes.length).toList ++ " evaluated[/green]".toList
  else
    "[red]".toList ++ (toString failed).toList ++ " of ".toList ++
      (toString outcomes.length).toList ++ " failed[/red]".toList

/-- The outcomes as they are shown.  Where there are none, so much is said. -/
def showSummary (tabSize : Nat) (outcomes : List Outcome) : List Char :=
  if outcomes.isEmpty then showLine tabSize "[yellow]No expressions to evaluate.[/yellow]".toList
  else
    showLine tabSize [] ++ ((summaryTable outcomes).lines tabSize).flatMap (· ++ ['\n']) ++
      showLine tabSize (closingLine outcomes) ++ showLine tabSize []

end Abacus.Report
