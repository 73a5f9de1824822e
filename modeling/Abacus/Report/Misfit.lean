/-
Module: Abacus.Report.Misfit
Purpose: Outcomes with fields that cannot be shown, and showing those that can.
Main exports: Misfit, diagnosisMisfit?, summaryMisfit?, diagnose, summarize, cellsOf
-/
import Abacus.Display.Nesting
import Abacus.Report.Diagnosis
import Abacus.Report.Summary

namespace Abacus.Report

open Display

/-!
An outcome of an evaluation can always be shown.  One that comes from elsewhere holds any JSON in
its fields, and may not fit: the expression, the message, the kind and the position each have to
be of the right sort where they are shown, and the tags in a kind or a value have to
make sense.  The first misfit, in the order in which an outcome is shown, is the one
that counts.
-/

/-- Why an outcome cannot be shown. -/
inductive Misfit where
  /-- Only a text can be escaped. -/
  | notText (found : Json)
  /-- Lists and objects are no kinds of errors. -/
  | notKind (found : Json)
  /-- Only in a text can a line be looked for. -/
  | notSource (found : Json)
  /-- Only an index leads to a line. -/
  | notIndex (found : Json)
  /-- A tag makes no sense. -/
  | markup (fault : Markup.Fault)
deriving DecidableEq

/-! ### Fields -/

/-- What is wrong with a field that is escaped as it is. -/
def textMisfit? : Json → Option Misfit
  | .text _ => none
  | found => some (.notText found)

/-- What is wrong with a kind that is looked up among the labels. -/
def kindMisfit? : Json → Option Misfit
  | .list items => some (.notKind (.list items))
  | .object fields => some (.notKind (.object fields))
  | _ => none

/-- What is wrong with the message of a failure.  With a position it is made part of a text and
may be anything. -/
def messageMisfit? (outcome : Outcome) : Option Misfit :=
  if outcome.position = .null then textMisfit? outcome.error else none

/-- What is wrong with an expression and a position in it, of which an excerpt is shown. -/
def excerptMisfit? (outcome : Outcome) : Option Misfit :=
  match outcome.position, outcome.expression with
  | .null, _ => none
  | position, .text _ => if position.index?.isSome then none else some (.notIndex position)
  | _, expression => some (.notSource expression)

/-- What is wrong with the tags of a text with markup when it is measured. -/
def markupMisfit? (markup : List Char) : Option Misfit :=
  (Markup.fault? markup).map .markup

/-- What is wrong with the styles of a text with markup when it is put on the display. -/
def styleMisfit? (markup : List Char) : Option Misfit :=
  (Markup.styleFault? markup).map .markup

/-! ### Outcomes -/

/-- Why an outcome cannot be shown after a failure. -/
def diagnosisMisfit? (outcome : Outcome) : Option Misfit :=
  kindMisfit? outcome.kind <|> messageMisfit? outcome <|> markupMisfit? (headline outcome) <|>
    styleMisfit? (headline outcome) <|> excerptMisfit? outcome

/-- Why an outcome has no cells in a table.  A success always has them. -/
def cellsMisfit? (outcome : Outcome) : Option Misfit :=
  if outcome.ok then none else messageMisfit? outcome <|> kindMisfit? outcome.kind

/-- Why outcomes cannot be shown as a table.  The tags in the cells come into play only when all
rows are there, and then one column after the other; the styles do when the rows are put on the
display. -/
def summaryMisfit? (outcomes : List Outcome) : Option Misfit :=
  outcomes.findSome? (fun o => textMisfit? o.expression <|> cellsMisfit? o) <|>
    outcomes.findSome? (fun o => markupMisfit? (resultCell o)) <|>
    outcomes.findSome? (fun o => markupMisfit? (statusCell o)) <|>
    outcomes.findSome? (fun o => styleMisfit? (resultCell o) <|> styleMisfit? (statusCell o))

/-! ### Showing -/

/-- What is shown unless there is a misfit. -/
def unlessMisfit {α : Type} (misfit? : Option Misfit) (shown : α) : Except Misfit α :=
  match misfit? with
  | some misfit => .error misfit
  | none => .ok shown

/-- An outcome as it is shown after a failure, if it can be shown. -/
def diagnose (tabSize : Nat) (outcome : Outcome) : Except Misfit (List Char) :=
  unlessMisfit (diagnosisMisfit? outcome) (showDiagnosis tabSize outcome)

/-- The outcomes as a table with a closing count, if they can be shown. -/
def summarize (tabSize : Nat) (outcomes : List Outcome) : Except Misfit (List Char) :=
  unlessMisfit (summaryMisfit? outcomes) (showSummary tabSize outcomes)

/-- What an outcome came to and whether it is a success, as the markup of two cells of a table, if
it can be shown there. -/
def cellsOf (outcome : Outcome) : Except Misfit (List Char × List Char) :=
  unlessMisfit (cellsMisfit? outcome) (resultCell outcome, statusCell outcome)

end Abacus.Report
