/-
Module: Abacus.Main
Purpose: The program: real words, files and channels around the commands.
Main exports: main
-/
import Abacus.CommandLine.Answer

namespace Abacus.CommandLine

open Text

/-- Print an output on the two channels. -/
def emit (output : Output) : IO Unit := do
  let stdout ← IO.getStdout
  stdout.putStr (String.ofList output.stdout)
  stdout.flush
  let stderr ← IO.getStderr
  stderr.putStr (String.ofList output.stderr)
  stderr.flush

/-- The standard input up to its end, after what has been read of it before. -/
partial def readInput (before : String) : IO String := do
  let chunk ← (← IO.getStdin).getLine
  if chunk.isEmpty then return before else readInput (before ++ chunk)

/-- Hold a dialogue behind its first prompt.  Each portion of the input that comes in is answered by
`talk` before the next one is asked for, as in `talkOver`. -/
partial def converse (limits : Limits) : IO Unit := do
  let portion ← (← IO.getStdin).getLine
  let (output, goesOn) := talk limits (inputLines portion.toList)
  emit output
  if goesOn && !portion.isEmpty then converse limits

/-- The bytes of a file, if there is one. -/
def readFile (name : String) : IO (Option (List UInt8)) := do
  try
    return some (← IO.FS.readBinFile name).toList
  catch _ =>
    return none

/-- The variables that the commands look at. -/
def readEnvironment : IO Environment := do
  let digits ← IO.getEnv Limits.digitsVariable
  let depth ← IO.getEnv Limits.depthVariable
  return fun name =>
    if name = Limits.digitsVariable then digits
    else if name = Limits.depthVariable then depth
    else none

/-- What a request can see of the world: of the input and the files, what it asks for. -/
def look (environment : Environment) (request : Request) : IO Surroundings := do
  match request with
  | .batch "-" _ =>
      return { environment := environment, input := (← readInput "").toList, file := fun _ => none }
  | .batch source _ =>
      let bytes ← readFile source
      return { environment := environment, input := [], file := fun _ => bytes }
  | _ => return { environment := environment, input := [], file := fun _ => none }

/-- Do what a request asks for.  The answer is the exit status. -/
def perform (request : Request) : IO UInt32 := do
  let environment ← readEnvironment
  match request, findLimits environment request.options with
  | .repl _, .ok limits =>
      emit (greeting.followedBy prompt)
      converse limits
      return 0
  | _, _ =>
      match request.output (← look environment request) with
      | .ok output =>
          emit output
          return output.exit.toUInt32
      | .error fault =>
          emit { stderr := (fault.message ++ "\n").toList }
          return 1

end Abacus.CommandLine

open Abacus.CommandLine in
/-- Answer a command line on the real channels. -/
def main (words : List String) : IO UInt32 := do
  match Request.ofWords words with
  | .ok request => perform request
  | .error usage =>
      emit { stderr := ("Error: " ++ usage.message ++ "\n").toList }
      return 2
