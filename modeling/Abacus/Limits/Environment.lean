/-
Module: Abacus.Limits.Environment
Purpose: Limits set by environment variables.
Main exports: Environment, BadVariable, Limits.ofEnvironment
-/
import Abacus.Limits
import Abacus.Numeral
import Abacus.Text.Quoted

namespace Abacus

/-- The value of each environment variable that is set. -/
abbrev Environment := String → Option String

/-- Why a variable sets no limit. -/
inductive BadVariable where
  | notInteger (name value : String)
  | negative (name : String) (value : Int)
deriving Repr, DecidableEq

/-- What is wrong with a variable, in words. -/
def BadVariable.message : BadVariable → String
  | notInteger name value => name ++ " must be an integer, got " ++ Text.Quoted.literal value
  | negative name value => name ++ " must be >= 0, got " ++ toString value

namespace Limits

/-- The variable that limits the length of literals. -/
def digitsVariable : String := "EXPRCALC_MAX_DIGITS"

/-- The variable that limits the nesting of parentheses. -/
def depthVariable : String := "EXPRCALC_MAX_DEPTH"

/-- The limit that a variable sets.  One that is not set, or blank, leaves the default. -/
def ofVariable (environment : Environment) (name : String) (default : Int) :
    Except BadVariable Int :=
  let value := Text.trimmed ((environment name).getD "")
  if value = "" then .ok default
  else
    match Numeral.read? value with
    | none => .error (.notInteger name value)
    | some limit => if limit < 0 then .error (.negative name limit) else .ok limit

/-- The limits that the environment sets.  Of two bad variables, the one for digits is
reported. -/
def ofEnvironment (environment : Environment) : Except BadVariable Limits := do
  let defaults : Limits := {}
  let digits ← ofVariable environment digitsVariable defaults.digits
  let depth ← ofVariable environment depthVariable defaults.depth
  return { digits := digits, depth := depth }

end Limits

end Abacus
