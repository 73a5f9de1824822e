/-
Module: Abacus.CommandLine.Answer
Purpose: What the commands print, and with which status they exit.
Main exports: Output, Surroundings, evalCommand, batchCommand, talk, replCommand, answer
-/
import Abacus.CommandLine.Request
import Abacus.Json.Writer
import Abacus.Limits.Environment
import Abacus.Report.Diagnosis
import Abacus.Report.Summary
import Abacus.Text.Lines
import Abacus.Text.Utf8

namespace Abacus.CommandLine

open Display Report Text

/-! ### Output -/

/-- What is printed on the two channels, and the exit status. -/
structure Output where
  stdout : List Char := []
  stderr : List Char := []
  exit : Nat := 0
deriving Repr, DecidableEq

/-- One output after another, with the exit status of the latter. -/
def Output.followedBy (one two : Output) : Output :=
  { stdout := one.stdout ++ two.stdout, stderr := one.stderr ++ two.stderr, exit := two.exit }

/-- A line with markup on the channel for messages. -/
def message (markup : List Char) : List Char :=
  showLine defaultTabSize markup

/-- What the commands can see: the environment, the standard input, and the files.  The input is the
text before its line ends are made newlines. -/
structure Surroundings where
  environment : Environment
  input : List Char
  file : String → Option (List UInt8)

/-! ### Limits -/

/-- The limits to keep, unless the environment is wrong about them. -/
def findLimits (environment : Environment) (options : Options) : Except Output Limits :=
  match Limits.ofEnvironment environment with
  | .ok limits => .ok (options.limits limits)
  | .error bad =>
      .error {
        stderr := message ("[red]Invalid configuration:[/red] ".toList ++
          Markup.escape bad.message.toList)
        exit := 2 }

/-! ### One expression -/

/-- An outcome as a reader sees it: the value, or what went wrong. -/
def showOutcome (outcome : Outcome) : Output :=
  if outcome.ok then { stdout := outcome.value.display.toList ++ ['\n'] }
  else { stderr := showDiagnosis defaultTabSize outcome, exit := 1 }

/-- An outcome as JSON. -/
def printOutcome (outcome : Outcome) : Output :=
  { stdout := outcome.toJson.toText.toList ++ ['\n'], exit := if outcome.ok then 0 else 1 }

/-- Evaluate one expression. -/
def evalCommand (limits : Limits) (json : Bool) (expression : String) : Output :=
  let outcome := tryEvaluate expression limits
  if json then printOutcome outcome else showOutcome outcome

/-! ### Many expressions -/

/-- The expressions of a text, one in each line.  Blank lines hold none, nor do those that start
with a hash sign.  As with `inputLines`, the line ends are made newlines where the text is read. -/
def expressionsOf (text : List Char) : List String :=
  ((linesBy isLineEnd (unifyLineEnds text)).map trim).filterMap fun line =>
    match line with
    | [] => none
    | '#' :: _ => none
    | line => some (String.ofList line)

/-- Evaluate every expression of a text. -/
def batchCommand (limits : Limits) (json : Bool) (text : List Char) : Output :=
  let outcomes := (expressionsOf text).map (tryEvaluate · limits)
  let exit := if outcomes.all (·.ok) then 0 else 1
  if json then
    { stdout := ((Json.list (outcomes.map (·.toJson))).toText (some 2)).toList ++ ['\n']
      exit := exit }
  else { stderr := showSummary defaultTabSize outcomes, exit := exit }

/-! ### A dialogue -/

/-- What is printed first. -/
def greeting : Output :=
  { stderr := message "[dim]exprcalc: enter an expression, 'quit' to leave[/dim]".toList }

/-- What is printed before a line is read. -/
def prompt : Output :=
  { stdout := "> ".toList }

/-- Whether a line ends the dialogue. -/
def leaves (line : List Char) : Bool :=
  trim line = "quit".toList ∨ trim line = "exit".toList

/-- The reply to a line that does not end the dialogue.  None is given to a blank one. -/
def reply (limits : Limits) (line : List Char) : Output :=
  match trim line with
  | [] => {}
  | expression => { evalCommand limits false (String.ofList expression) with exit := 0 }

/-- What lines that are entered add to a dialogue, and whether it goes on behind them.  Behind each
reply the next line is asked for. -/
def talk (limits : Limits) : List (List Char) → Output × Bool
  | [] => ({}, true)
  | line :: lines =>
      if leaves line then ({}, false)
      else
        let behind := talk limits lines
        (((reply limits line).followedBy prompt).followedBy behind.1, behind.2)

/-- The dialogue over some lines.  It ends before the first line that ends it, or where no line
is left. -/
def dialogue (limits : Limits) (lines : List (List Char)) : Output :=
  prompt.followedBy (talk limits lines).1

/-- The lines of an input.  Its text layer makes a newline of every line end, before any line is
read off; no command does so itself, and none of them sees how the line ends were written. -/
def inputLines (input : List Char) : List (List Char) :=
  linesBy (· = '\n') (unifyLineEnds input)

/-- Evaluate the expressions that are entered. -/
def replCommand (limits : Limits) (input : List Char) : Output :=
  greeting.followedBy (dialogue limits (inputLines input))

/-! ### Requests -/

/-- Why a command line has no output: it is wrong, or a file that it names is not text. -/
inductive Refusal where
  | usage (usage : Usage)
  | undecodable (fault : Utf8.Fault)
deriving Repr, DecidableEq

/-- The text of a source, the output if there is none, or the fault in its bytes. -/
def readSource (surroundings : Surroundings) (source : String) :
    Except Utf8.Fault (Except Output (List Char)) :=
  if source = "-" then .ok (.ok surroundings.input)
  else
    match surroundings.file source with
    | some bytes => (Utf8.decode bytes).map .ok
    | none =>
        .ok (.error {
          stderr := message ("[red]Error:[/red] File not found: ".toList ++
            Markup.escape source.toList)
          exit := 2 })

/-- The output of a request. -/
def Request.output (surroundings : Surroundings) (request : Request) :
    Except Utf8.Fault Output :=
  match findLimits surroundings.environment request.options with
  | .error output => .ok output
  | .ok limits =>
      match request with
      | .eval expression options => .ok (evalCommand limits options.json expression)
      | .batch source options => do
          match ← readSource surroundings source with
          | .error output => return output
          | .ok text => return batchCommand limits options.json text
      | .repl _ => .ok (replCommand limits surroundings.input)

/-- The output of a command line. -/
def answer (surroundings : Surroundings) (words : List String) : Except Refusal Output :=
  match Request.ofWords words with
  | .error usage => .error (.usage usage)
  | .ok request =>
      match request.output surroundings with
      | .error fault => .error (.undecodable fault)
      | .ok output => .ok output

end Abacus.CommandLine
