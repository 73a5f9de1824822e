/-
Module: Abacus.Outcome
Purpose: The record of one evaluation and its form as JSON.
Main exports: Outcome, Outcome.toJson, Outcome.ofJson, tryEvaluate, attempt
-/
import Abacus.Json.Basic
import Abacus.Session

namespace Abacus

/-- What came of an expression: a value, or the kind, message and position of an error.  A record
may come from elsewhere, so its fields hold any JSON. -/
structure Outcome where
  expression : Json
  value : Json := .null
  error : Json := .text ""
  kind : Json := .text ""
  position : Json := .null
deriving DecidableEq

namespace Outcome

/-- An outcome without a kind of error is a success. -/
def ok (outcome : Outcome) : Bool :=
  outcome.kind.isVacant

/-- The record of an expression with a value. -/
def success (expression : String) (value : Int) : Outcome :=
  { expression := .text expression, value := .int value }

/-- The record of an expression that has none. -/
def failure (expression : String) (diagnostic : Diagnostic) : Outcome :=
  { expression := .text expression
    error := .text diagnostic.message
    kind := .text diagnostic.category.name
    position := diagnostic.position.elim .null .int }

/-- The record as JSON: a success keeps its value, a failure its error. -/
def toJson (outcome : Outcome) : Json :=
  if outcome.ok then
    .object [("expression", outcome.expression), ("ok", .bool true), ("value", outcome.value)]
  else
    .object [("expression", outcome.expression), ("ok", .bool false),
      ("error", .object [("kind", outcome.kind), ("message", outcome.error),
        ("position", outcome.position)])]

/-- The fields of an object.  Anything else is handed back. -/
def fieldsOf : Json → Except Json (List (String × Json))
  | .object fields => .ok fields
  | other => .error other

/-- The record that JSON describes.  Fields that are missing are filled in, and an error that says
nothing counts as missing.  The answer is an error where something other than an object stands in
place of one, and then it is that thing. -/
def ofJson (json : Json) : Except Json Outcome := do
  let fields ← fieldsOf json
  let error := (Json.field? fields "error").getD .null
  let details ← if error.isVacant then .ok [] else fieldsOf error
  return {
    expression := (Json.field? fields "expression").getD (.text "")
    value := (Json.field? fields "value").getD .null
    error := (Json.field? details "message").getD (.text "")
    kind := (Json.field? details "kind").getD (.text "")
    position := (Json.field? details "position").getD .null }

/-- The record of an evaluation. -/
def ofResult (expression : String) : Except Failure Int → Outcome
  | .ok value => success expression value
  | .error reason => failure expression reason.diagnostic

end Outcome

/-- Evaluate an expression and record what comes of it, for limits that can be written. -/
def tryEvaluate (text : String) (limits : Limits := {}) : Outcome :=
  Outcome.ofResult text (evaluate text limits)

/-- Evaluate an expression and record what comes of it, for any limits.  A failure that cannot be
reported leaves no record. -/
def attempt (text : String) (limits : Limits := {}) : Except Unwritable Outcome :=
  match evaluate text limits with
  | .ok value => .ok (Outcome.success text value)
  | .error failure => failure.report.map (Outcome.failure text)

end Abacus
