/-
Module: Abacus.Literal.Misplaced
Purpose: The first lexeme of a text that cannot go on what comes before it.
Main exports: Literal.misplaced
-/
import Abacus.Literal.Lexeme

namespace Abacus.Literal

/-!
Whether a lexeme can stand where it does depends on what is awaited there: a value, an operator, or
a name behind a point.  That is coarser than the rules of expressions, but it is enough to tell
where a text that is no expression goes wrong.
-/

/-- What is awaited behind some lexemes. -/
inductive Awaited where
  | value
  | valueOrEnd
  | secondSign
  | operator
  | attribute
deriving Repr, DecidableEq

/-- Words that are no names. -/
def keywords : List String :=
  ["and", "as", "assert", "async", "await", "break", "class", "continue", "def", "del", "elif",
   "else", "except", "finally", "for", "from", "global", "if", "import", "in", "is", "lambda",
   "nonlocal", "not", "or", "pass", "raise", "return", "try", "while", "with", "yield"]

/-- Words that stand between two values. -/
def wordOperators : List String :=
  ["and", "or", "in", "is", "if", "else", "for", "not"]

/-- Whether the lexeme is a name and no value by itself. -/
def isPlainName : Lexeme → Bool
  | .name word => !(["True", "False", "None"].contains (String.ofList word))
  | _ => false

/-- Whether the lexeme is a quotation. -/
def isQuoted : Lexeme → Bool
  | .quoted _ _ => true
  | _ => false

/-- What is awaited behind a lexeme that stands where a value is awaited, if it may stand there.
A bracket may close where a series may end. -/
def afterValuePlace (mayEnd : Bool) : Lexeme → Option Awaited
  | .name word =>
      if String.ofList word = "not" then some .value
      else if keywords.contains (String.ofList word) then none
      else some .operator
  | .symbol c =>
      if c = '(' ∨ c = '\x7b' then some .valueOrEnd
      else if c = '+' ∨ c = '-' ∨ c = '~' then some .value
      else if mayEnd ∧ (c = ')' ∨ c = '\x7d') then some .operator
      else if mayEnd ∧ c = '\n' then some .valueOrEnd
      else none
  | _ => some .operator

/-- What is awaited behind a lexeme that stands where an operator is awaited, if it may stand
there. -/
def afterOperatorPlace (before : Option Lexeme) (placed : Placed) (next : Option Lexeme) :
    Option Awaited :=
  match placed.lexeme with
  | .name word => if wordOperators.contains (String.ofList word) then some .value else none
  | .quoted _ _ => if before.any isQuoted then some .operator else none
  | .symbol c =>
      if c = '(' then some .valueOrEnd
      else if c = ')' ∨ c = '\x7d' then some .operator
      else if c = '.' then some .attribute
      else if c = ',' then some .valueOrEnd
      else if c = ':' then if placed.opened.head? = some '\x7b' then some .value else none
      else if c = '=' ∨ c = '!' then if next = some (.symbol '=') then some .secondSign else none
      else if ['+', '-', '%', '@', '&', '|', '^'].contains c then some .value
      else if ['*', '/', '<', '>'].contains c then some .secondSign
      else if c = '\n' then some .operator
      else none
  | _ => none

/-- What is awaited behind a lexeme, if it may stand where it does. -/
def Awaited.after? (awaited : Awaited) (before : Option Lexeme) (placed : Placed)
    (next : Option Lexeme) : Option Awaited :=
  match awaited with
  | .value => afterValuePlace false placed.lexeme
  | .valueOrEnd => afterValuePlace true placed.lexeme
  | .secondSign =>
      match placed.lexeme with
      | .symbol c =>
          if ['*', '/', '<', '>', '='].contains c then some .value
          else afterValuePlace false placed.lexeme
      | lexeme => afterValuePlace false lexeme
  | .operator => afterOperatorPlace before placed next
  | .attribute =>
      match placed.lexeme with
      | .name word => if keywords.contains (String.ofList word) then none else some .operator
      | _ => none

/-- Whether a value starts with the lexeme that does not make a call of what comes before it. -/
def startsValue : Lexeme → Bool
  | .name word => !keywords.contains (String.ofList word)
  | .symbol c => c = '\x7b'
  | _ => true

/-- The lexemes from the first misplaced one on, and, if that one starts a value where an operator
is awaited, the lexeme before it.  Before the first of them comes `before`. -/
def misplacedFrom (awaited : Awaited) (before : Option Placed) :
    List Placed → Option Placed × List Placed
  | [] => (none, [])
  | placed :: rest =>
      match awaited.after? (before.map (·.lexeme)) placed (rest.head?.map (·.lexeme)) with
      | some awaited => misplacedFrom awaited (some placed) rest
      | none =>
          (if awaited = .operator ∧ startsValue placed.lexeme then before else none,
            placed :: rest)

/-- The lexemes from the first misplaced one on, and the lexeme that it comes after if it starts a
value beside another one. -/
def misplaced (awaited : Awaited) (placed : List Placed) : Option Placed × List Placed :=
  misplacedFrom awaited none placed

end Abacus.Literal
