/-
Module: Abacus.CommandLine.Request
Purpose: What a command line asks for.
Main exports: Request, Request.ofWords
-/
import Abacus.CommandLine.Usage
import Abacus.Limits
import Abacus.Numeral

namespace Abacus.CommandLine

/-! ### Words -/

/-- Whether a word names an option.  A lone dash does not. -/
def isOption (word : String) : Bool :=
  match word.toList with
  | '-' :: _ :: _ => true
  | _ => false

/-- A word cut at its first equals sign: the name of an option, and the value if one is given. -/
def cutValue (word : String) : String × Option String :=
  let cs := word.toList
  (String.ofList (cs.takeWhile (· ≠ '=')),
    (cs.dropWhile (· ≠ '=')).tail?.map String.ofList)

/-- The name under which an unknown option is reported: a word with two dashes without its value,
and of a word with one dash the dash and the character after it. -/
def unknownName (word : String) : String :=
  match word.toList with
  | '-' :: '-' :: _ => (cutValue word).1
  | cs => String.ofList (cs.take 2)

/-- Options with their values, and the other words, both in order. -/
structure Words where
  options : List (Switch × String) := []
  arguments : List String := []
deriving Repr, DecidableEq

/-- The words with one more option in front. -/
def Words.addOption (switch : Switch) (value : String) (words : Words) : Words :=
  { words with options := (switch, value) :: words.options }

/-- The words with one more argument in front. -/
def Words.addArgument (word : String) (words : Words) : Words :=
  { words with arguments := word :: words.arguments }

/-- Sort the words of a command that knows some options.  After two dashes alone no word is an
option.  The word after an option that needs a value is that value, whatever it looks like. -/
def Words.sort (known : List Switch) : List String → Except Usage Words
  | [] => .ok {}
  | word :: rest =>
      if word = "--" then .ok { arguments := rest }
      else if isOption word then
        let (name, given) := cutValue word
        match known.find? (·.name = name), given with
        | none, _ => .error (.unknownOption (unknownName word))
        | some switch, some value =>
            if switch.hasValue then (sort known rest).map (addOption switch value)
            else .error (.valueUnwanted switch)
        | some switch, none =>
            if switch.hasValue then
              match rest with
              | [] => .error (.valueMissing switch)
              | value :: rest => (sort known rest).map (addOption switch value)
            else (sort known rest).map (addOption switch "")
      else (sort known rest).map (addArgument word)

/-! ### Options -/

/-- The options that are given. -/
structure Options where
  json : Bool := false
  maxDigits : Option Int := none
  maxDepth : Option Int := none
deriving Repr, DecidableEq

/-- The limit that an option sets. -/
def limitOf (switch : Switch) (value : String) : Except Usage Int :=
  match Numeral.read? value with
  | none => .error (.notInteger switch value)
  | some limit => if limit < 0 then .error (.belowZero switch limit) else .ok limit

/-- The options with one more given. -/
def Options.set (options : Options) (switch : Switch) (value : String) : Except Usage Options :=
  match switch with
  | .json => .ok { options with json := true }
  | .maxDigits => (limitOf switch value).map fun limit => { options with maxDigits := some limit }
  | .maxDepth => (limitOf switch value).map fun limit => { options with maxDepth := some limit }

/-- The options of some words.  Of an option that is given several times the last value counts,
and options are looked at in the order in which each was first given. -/
def Options.ofGiven (given : List (Switch × String)) : Except Usage Options :=
  ((given.map (·.1)).eraseDups).foldlM
    (fun options switch => options.set switch ((given.reverse.lookup switch).getD "")) {}

/-- The limits to keep: those that are given, and otherwise those of the environment. -/
def Options.limits (options : Options) (environment : Limits) : Limits :=
  { digits := options.maxDigits.getD environment.digits
    depth := options.maxDepth.getD environment.depth }

/-! ### Requests -/

/-- What to do, and with which options. -/
inductive Request where
  /-- Evaluate one expression. -/
  | eval (expression : String) (options : Options)
  /-- Evaluate every expression of a file, or of the standard input if the source is a dash. -/
  | batch (source : String) (options : Options)
  /-- Evaluate expressions as they are entered. -/
  | repl (options : Options)
deriving Repr, DecidableEq

/-- The options of a request. -/
def Request.options : Request → Options
  | eval _ options => options
  | batch _ options => options
  | repl options => options

/-- The options of the words, and their arguments, of which no more than `most` are accepted. -/
def readWords (known : List Switch) (least : List String) (most : Nat) (words : List String) :
    Except Usage (Options × List String) := do
  let sorted ← Words.sort known words
  let options ← Options.ofGiven sorted.options
  match least.drop sorted.arguments.length with
  | missing :: _ => .error (.argumentMissing missing)
  | [] =>
      match sorted.arguments.drop most with
      | [] => .ok (options, sorted.arguments)
      | extra => .error (.argumentsUnwanted extra)

/-- What the words after the name of a command ask for. -/
def Request.ofCommand (command : String) (words : List String) : Except Usage Request := do
  match command with
  | "eval" =>
      let (options, arguments) ← readWords [.json, .maxDigits, .maxDepth] ["EXPRESSION"] 1 words
      return .eval (arguments.headD "") options
  | "batch" =>
      let (options, arguments) ← readWords [.json, .maxDigits, .maxDepth] [] 1 words
      return .batch (arguments.headD "-") options
  | "repl" =>
      let (options, _) ← readWords [.maxDigits, .maxDepth] [] 0 words
      return .repl options
  | other => .error (.unknownCommand other)

/-- What a command line asks for. -/
def Request.ofWords : List String → Except Usage Request
  | [] => .error .missingCommand
  | "--" :: command :: words => ofCommand command words
  | command :: words =>
      if command = "--" then .error .missingCommand
      else if isOption command then .error (.unknownOption (unknownName command))
      else ofCommand command words

end Abacus.CommandLine
