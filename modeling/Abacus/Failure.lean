/-
Module: Abacus.Failure
Purpose: Why an expression has no value, where that was seen, and how it is worded.
Main exports: Cause, Failure, Category, Diagnostic, Failure.diagnostic, Failure.report
-/
import Abacus.Numeral
import Abacus.Text.Quoted

namespace Abacus

/-- Why reading stopped at a position of the text. -/
inductive Cause where
  /-- Neither a digit nor an accepted parenthesis stands where an operand must start. -/
  | numberExpected
  /-- An open group is followed by something other than its closing parenthesis. -/
  | closingExpected
  /-- The expression is complete, but the text goes on with `rest`. -/
  | trailing (rest : List Char)
  /-- A literal has too many digits for the limit, or for any numeral if no limit is given. -/
  | literalTooLong (digits : Nat) (limit : Option Int)
  /-- A parenthesis opens a group deeper than the limit. -/
  | nestedTooDeep (limit : Int)
  /-- The right-hand factor of a division is zero. -/
  | zeroDivisor
deriving Repr, DecidableEq

/-- Why an evaluation has no value: a fault of the text at a position, or more open groups
than there is room for. -/
inductive Failure where
  | fault (cause : Cause) (position : Nat)
  | exhausted
deriving Repr, DecidableEq

/-- What a failure is about. -/
inductive Category where
  | general
  | malformed
  | range
  | nesting
  | zeroDivision
deriving Repr, DecidableEq

/-- The name under which a category is reported.  A failure of no particular category is
reported as one of syntax. -/
def Category.name : Category → String
  | .general => "syntax"
  | .malformed => "syntax"
  | .range => "range"
  | .nesting => "nesting"
  | .zeroDivision => "division-by-zero"

/-- Whether every failure of the category also counts as one of the wider category.  All are
general, and a text whose numbers or nesting exceed a limit is malformed. -/
def Category.within (category wider : Category) : Bool :=
  match category, wider with
  | _, .general => true
  | .range, .malformed => true
  | .nesting, .malformed => true
  | _, _ => category == wider

/-- A failure as it is reported. -/
structure Diagnostic where
  category : Category
  message : String
  position : Option Int := none
deriving Repr, DecidableEq

/-- The message, followed by the position where one is known. -/
def Diagnostic.text (diagnostic : Diagnostic) : String :=
  match diagnostic.position with
  | none => diagnostic.message
  | some position => diagnostic.message ++ " at position " ++ toString position

/-- A division by zero has one wording, whoever reports it. -/
def Diagnostic.zeroDivision (position : Option Int := none) : Diagnostic :=
  { category := .zeroDivision, message := "division by zero", position := position }

namespace Cause

/-- What a fault of that cause is about. -/
def category : Cause → Category
  | numberExpected => .malformed
  | closingExpected => .malformed
  | trailing _ => .malformed
  | literalTooLong _ _ => .range
  | nestedTooDeep _ => .nesting
  | zeroDivisor => .zeroDivision

/-- A cause in words.  They name a limit of any size; `Failure.report` says which can be written. -/
def message : Cause → String
  | numberExpected => "expected number"
  | closingExpected => "expected ')'"
  | trailing rest =>
      "unexpected trailing characters " ++ String.ofList (Text.Quoted.encode rest)
  | literalTooLong digits none => "number literal has " ++ toString digits ++ " digits"
  | literalTooLong digits (some limit) =>
      "number literal has " ++ toString digits ++ " digits, limit is " ++ toString limit
  | nestedTooDeep limit => "parentheses nested deeper than " ++ toString limit
  | zeroDivisor => (Diagnostic.zeroDivision none).message

/-- The limit that the words name. -/
def limit? : Cause → Option Int
  | literalTooLong _ limit => limit
  | nestedTooDeep limit => some limit
  | _ => none

end Cause

/-- The report of a failure, if it can be written.  Only the lack of room has no position. -/
def Failure.diagnostic : Failure → Diagnostic
  | .fault cause position =>
      { category := cause.category, message := cause.message, position := some position }
  | .exhausted =>
      { category := .nesting
        message := "expression nested too deeply for the interpreter stack" }

/-- The limit that the report of a failure names. -/
def Failure.limit? : Failure → Option Int
  | .fault cause _ => cause.limit?
  | .exhausted => none

/-- A number that a message would have to name, and that has too many digits to be written. -/
structure Unwritable where
  number : Int
deriving Repr, DecidableEq

/-- What is said instead of the message. -/
def Unwritable.message (_ : Unwritable) : String :=
  "Exceeds the limit (" ++ toString Numeral.capacity ++
    " digits) for integer string conversion; use sys.set_int_max_str_digits() to increase the limit"

/-- What is reported of a failure: its diagnostic, but nothing of the kind if the limit that this
names cannot be written.  Then whoever asked for the value learns only that. -/
def Failure.report (failure : Failure) : Except Unwritable Diagnostic :=
  match failure.limit? with
  | none => .ok failure.diagnostic
  | some limit =>
      if Numeral.Writable limit then .ok failure.diagnostic else .error { number := limit }

end Abacus
