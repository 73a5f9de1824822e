/-
Module: Abacus.CommandLine.Usage
Purpose: How a command line can be wrong.
Main exports: Switch, Usage, Usage.message
-/
import Abacus.Text.Quoted

namespace Abacus.CommandLine

/-- The options of the commands. -/
inductive Switch where
  | json
  | maxDigits
  | maxDepth
deriving Repr, DecidableEq

/-- An option as it is written. -/
def Switch.name : Switch → String
  | json => "--json"
  | maxDigits => "--max-digits"
  | maxDepth => "--max-depth"

/-- Whether a value goes with the option. -/
def Switch.hasValue : Switch → Bool
  | json => false
  | _ => true

/-- What is wrong with a command line. -/
inductive Usage where
  | missingCommand
  | unknownCommand (name : String)
  | unknownOption (name : String)
  | valueMissing (switch : Switch)
  | valueUnwanted (switch : Switch)
  | notInteger (switch : Switch) (value : String)
  | belowZero (switch : Switch) (value : Int)
  | argumentMissing (name : String)
  | argumentsUnwanted (words : List String)
deriving Repr, DecidableEq

/-- What is wrong, in words. -/
def Usage.message : Usage → String
  | missingCommand => "Missing command."
  | unknownCommand name => "No such command '" ++ name ++ "'."
  | unknownOption name => "No such option: " ++ name
  | valueMissing switch => "Option '" ++ switch.name ++ "' requires an argument."
  | valueUnwanted switch => "Option '" ++ switch.name ++ "' does not take a value."
  | notInteger switch value =>
      "Invalid value for '" ++ switch.name ++ "': " ++ Text.Quoted.literal value ++
        " is not a valid integer range."
  | belowZero switch value =>
      "Invalid value for '" ++ switch.name ++ "': " ++ toString value ++
        " is not in the range x>=0."
  | argumentMissing name => "Missing argument '" ++ name ++ "'."
  | argumentsUnwanted words =>
      "Got unexpected extra argument" ++ (if words.length = 1 then "" else "s") ++ " (" ++
        " ".intercalate words ++ ")"

end Abacus.CommandLine
