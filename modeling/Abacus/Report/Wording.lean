/-
Module: Abacus.Report.Wording
Purpose: The words in which an outcome is shown, as text with markup.
Main exports: kindLabel, resultCell, statusCell, messageText
-/
import Abacus.Display.Markup
import Abacus.Json.Display
import Abacus.Outcome

namespace Abacus.Report

open Display

/-- The label of a kind of error.  A kind without one is its own label. -/
def kindLabel (kind : Json) : List Char :=
  match kind.display with
  | "syntax" => "syntax error".toList
  | "range" => "number too large".toList
  | "nesting" => "nesting too deep".toList
  | "division-by-zero" => "division by zero".toList
  | other => other.toList

/-- Text between a style tag and the end of that style. -/
def styled (style : String) (text : List Char) : List Char :=
  '[' :: style.toList ++ ']' :: text ++ '[' :: '/' :: style.toList ++ [']']

/-- What an outcome came to, for a table: the value, or the message with the column. -/
def resultCell (outcome : Outcome) : List Char :=
  if outcome.ok then outcome.value.display.toList
  else if outcome.position = .null then Markup.escape outcome.error.display.toList
  else Markup.escape (outcome.error.display ++ " (col " ++ outcome.position.display ++ ")").toList

/-- Whether an outcome is a success, for a table, or else the label of its kind. -/
def statusCell (outcome : Outcome) : List Char :=
  if outcome.ok then styled "green" "ok".toList else styled "red" (kindLabel outcome.kind)

/-- The message of an outcome, followed by the position where one is known. -/
def messageText (outcome : Outcome) : List Char :=
  if outcome.position = .null then outcome.error.display.toList
  else (outcome.error.display ++ " at position " ++ outcome.position.display).toList

end Abacus.Report
