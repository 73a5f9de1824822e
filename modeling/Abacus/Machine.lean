/-
Module: Abacus.Machine
Purpose: Reading and evaluating an expression, one character at a time.
Main exports: Rule, Task, State, Stop, State.step, State.settle, run
-/
import Abacus.Arithmetic
import Abacus.Failure
import Abacus.Limits
import Abacus.Numeral

namespace Abacus

/-!
The language has four rules, each of which reads a phrase from the text and gives its value:

* a number is a run of decimal digits;
* a factor is a number, or an expression between parentheses;
* a term is a chain of factors joined by `*` and `/`;
* an expression is a chain of terms joined by `+` and `-`.

Chains are evaluated from left to right.  No tree is built: the machine keeps, for each open
parenthesis, only the two operations that wait for their right-hand side, one for each
precedence.  `State.step` says how one character changes the state and refuses a character that
cannot belong to the phrase; `State.settle` says what the answer is when nothing more belongs
to it.  A run is then a walk over the text, and what a state answers depends on the text before
it alone.
-/

/-! ### States -/

/-- The rules of the language. -/
inductive Rule where
  | number
  | factor
  | term
  | expression
deriving Repr, DecidableEq

/-- Whether a phrase of the rule may start with a parenthesis. -/
def Rule.opens : Rule → Bool
  | number => false
  | _ => true

/-- Whether a phrase of the rule is a chain of factors. -/
def Rule.multiplies : Rule → Bool
  | term => true
  | expression => true
  | _ => false

/-- Whether a phrase of the rule is a chain of terms. -/
def Rule.adds : Rule → Bool
  | expression => true
  | _ => false

/-- The operations of one level of nesting that wait for their right-hand side, with the value
to their left. -/
structure Level where
  sum : Option (Int × SumOp) := none
  product : Option (Int × ProductOp) := none
deriving Repr, DecidableEq

/-- The value of a level's term so far once its next factor is known. -/
def Level.multiply? (level : Level) (factor : Int) : Option Int :=
  match level.product with
  | none => some factor
  | some (left, op) => op.join? left factor

/-- The value of a level once its last term is known. -/
def Level.total (level : Level) (term : Int) : Int :=
  match level.sum with
  | none => term
  | some (left, op) => op.join left term

/-- An open group: the level around it and the position of its parenthesis. -/
structure Group where
  outer : Level
  opening : Nat
deriving Repr, DecidableEq

/-- What has just been read. -/
inductive Phase where
  /-- Nothing yet, or an operator or an opening parenthesis: a factor comes next. -/
  | operand
  /-- Digits of a literal that starts at `start`. -/
  | literal (start count value : Nat)
  /-- A whole factor; `value` is that of its term so far. -/
  | operator (value : Int)
  /-- Something that no continuation can mend. -/
  | failed (failure : Failure)
deriving Repr, DecidableEq

/-- What a run is asked to do: the rule to read by, the limits to keep, and the number of
groups that were open before it. -/
structure Task where
  rule : Rule
  limits : Limits
  depth : Nat
deriving Repr, DecidableEq

/-- The state of a run.  Groups are listed from the innermost. -/
structure State where
  position : Nat
  phase : Phase := .operand
  level : Level := {}
  groups : List Group := []
deriving Repr, DecidableEq

/-- The answer of a run, the position it stopped at, and the number of groups left open. -/
structure Stop where
  result : Except Failure Int
  position : Nat
  depth : Nat

/-- How many groups a run can hold open.  The number stands for the size of the host's stack, which
the program does not fix: every number from 200 to 1999 would do, and what is shown of evaluations
that do not run out of room asks for 200 groups and no more. -/
def room : Nat := 1000

namespace State

/-! ### Transitions -/

/-- Whether something that the rule does not offer is in place all the same, because inside a
group everything is. -/
def allows (state : State) (offered : Bool) : Bool :=
  offered || !state.groups.isEmpty

/-- The state behind the character at the position. -/
def advance (state : State) : State :=
  { state with position := state.position + 1 }

/-- A factor that starts at `start` is complete. -/
def factorRead (state : State) (start : Nat) (factor : Int) : State :=
  match state.level.multiply? factor with
  | some value =>
      { state with phase := .operator value, level := { state.level with product := none } }
  | none => { state with phase := .failed (.fault .zeroDivisor start) }

/-- Why a literal of so many digits is refused, if it is.  Whether that can be put in words is left
to `Failure.report`, here and where a group is refused. -/
def literalRefusal? (limits : Limits) (count : Nat) : Option Cause :=
  if Limits.exceeded limits.digits count then some (.literalTooLong count (some limits.digits))
  else if Numeral.capacity < count then some (.literalTooLong count none)
  else none

/-- A literal that is being read is complete; any other state stays as it is. -/
def closeLiteral (task : Task) (state : State) : State :=
  match state.phase with
  | .literal start count value =>
      match literalRefusal? task.limits count with
      | some cause => { state with phase := .failed (.fault cause start) }
      | none => state.factorRead start value
  | _ => state

/-- The number of groups open around the state, those from before the run included. -/
def depth (task : Task) (state : State) : Nat :=
  task.depth + state.groups.length

/-- An opening parenthesis stands at the position. -/
def openGroup (task : Task) (state : State) : State :=
  let inside : State :=
    { position := state.position + 1
      groups := { outer := state.level, opening := state.position } :: state.groups }
  if Limits.exceeded task.limits.depth (inside.depth task) then
    { inside with phase := .failed (.fault (.nestedTooDeep task.limits.depth) state.position) }
  else if room < inside.groups.length then { inside with phase := .failed .exhausted }
  else inside

/-- The state behind a character where a factor must start. -/
def stepOperand (task : Task) (state : State) (c : Char) : Option State :=
  if Text.isBlank c then some state.advance
  else
    match Text.digitValue? c with
    | some d => some { state.advance with phase := .literal state.position 1 d }
    | none => if c = '(' ∧ state.allows task.rule.opens then some (state.openGroup task) else none

/-- The state behind a character after a whole factor, where `value` is that of its term. -/
def stepOperator (task : Task) (state : State) (value : Int) (c : Char) : Option State :=
  if !state.allows task.rule.multiplies then none
  else if Text.isBlank c then some state.advance
  else
    match ProductOp.ofChar? c, SumOp.ofChar? c with
    | some op, _ =>
        some { state.advance with
          phase := .operand, level := { state.level with product := some (value, op) } }
    | none, some op =>
        if state.allows task.rule.adds then
          some { state.advance with
            phase := .operand, level := { sum := some (state.level.total value, op) } }
        else none
    | none, none =>
        match state.groups with
        | [] => none
        | group :: groups =>
            if c = ')' then
              some ({ state.advance with level := group.outer, groups := groups }.factorRead
                group.opening (state.level.total value))
            else none

/-- The state behind a character, unless the character cannot belong to the phrase. -/
def step (task : Task) (state : State) (c : Char) : Option State :=
  match state.phase with
  | .operand => state.stepOperand task c
  | .operator value => state.stepOperator task value c
  | .failed _ => none
  | .literal start count value =>
      match Text.digitValue? c with
      | some d => some { state.advance with phase := .literal start (count + 1) (10 * value + d) }
      | none =>
          let closed := state.closeLiteral task
          match closed.phase with
          | .operator value => closed.stepOperator task value c
          | _ => none

/-- The answer of a state in which no literal is being read. -/
def answer (state : State) : Except Failure Int :=
  match state.phase with
  | .failed failure => .error failure
  | .operator value =>
      if state.groups.isEmpty then .ok (state.level.total value)
      else .error (.fault .closingExpected state.position)
  | _ => .error (.fault .numberExpected state.position)

/-- What a run comes to when it ends in the state. -/
def settle (task : Task) (state : State) : Stop :=
  { result := (state.closeLiteral task).answer
    position := state.position
    depth := state.depth task }

end State

/-- Read as much of the text as belongs to the phrase. -/
def run (task : Task) : State → List Char → Stop
  | state, [] => state.settle task
  | state, c :: rest =>
      match state.step task c with
      | some next => run task next rest
      | none => state.settle task

end Abacus
