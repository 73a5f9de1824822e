/-
Module: Abacus.Report.Diagnosis
Purpose: A failed outcome as it is shown: the message, the source line and a caret.
Main exports: showDiagnosis
-/
import Abacus.Display.Line
import Abacus.Report.Caret
import Abacus.Report.Wording

namespace Abacus.Report

open Display

/-- The first line: the label of the kind, and the message. -/
def headline (outcome : Outcome) : List Char :=
  "[red]Error (".toList ++ kindLabel outcome.kind ++ "):[/red] ".toList ++
    Markup.escape (messageText outcome)

/-- The source line that holds a position, and the line with the caret under it. -/
def excerpt (expression : List Char) (position : Int) : List (List Char) :=
  let place := placeOf expression.length position
  let (line, column) := sourceLine expression place
  ["  ".toList ++ Markup.escape line,
    "  ".toList ++ styled "bold red" (Markup.escape (caretLine line (column + (position - place))))]

/-- An outcome as it is shown after a failure.  Without a position there is no excerpt. -/
def showDiagnosis (tabSize : Nat) (outcome : Outcome) : List Char :=
  let more :=
    match outcome.position.index? with
    | some position => excerpt outcome.expression.display.toList position
    | none => []
  (headline outcome :: more).flatMap (showLine tabSize)

end Abacus.Report
