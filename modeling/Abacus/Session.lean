/-
Module: Abacus.Session
Purpose: Reading several phrases from one text, and evaluating a whole text.
Main exports: Session, Session.read, Session.evaluate, evaluate
-/
import Abacus.Cursor
import Abacus.Machine

namespace Abacus

/-- A text that is being read: where the cursor stands, the limits to keep, and how many groups
have been opened and not closed.  A failed reading leaves cursor and depth where it failed, and
the next one goes on from there. -/
structure Session where
  cursor : Cursor
  limits : Limits := {}
  depth : Nat := 0

namespace Session

/-- A session at the start of a text. -/
def start (text : String) (limits : Limits := {}) : Session :=
  { cursor := { text := text.toList }, limits := limits }

/-- Read a phrase of the rule at the cursor. -/
def read (session : Session) (rule : Rule) : Except Failure Int × Session :=
  let task : Task := { rule := rule, limits := session.limits, depth := session.depth }
  let stop := run task { position := session.cursor.position } session.cursor.rest
  (stop.result,
    { session with
      cursor := { session.cursor with position := stop.position }, depth := stop.depth })

/-- Read an expression that nothing but blanks may follow. -/
def evaluate (session : Session) : Except Failure Int × Session :=
  match session.read .expression with
  | (.error failure, after) => (.error failure, after)
  | (.ok value, after) =>
      let cursor := after.cursor.skipBlanks
      let result : Except Failure Int :=
        if cursor.atEnd then .ok value
        else .error (.fault (.trailing cursor.rest) cursor.position)
      (result, { after with cursor := cursor })

/-! ### Requests -/

/-- Every way to use a session. -/
inductive Request where
  | query (query : Cursor.Query)
  | read (rule : Rule)
  | evaluate
deriving Repr, DecidableEq

/-- What a session replies: what its cursor does, or a value or failure. -/
inductive Reply where
  | query (reply : Cursor.Reply)
  | value (result : Except Failure Int)

/-- The reply to a request, and the session after it. -/
def serve (session : Session) : Request → Reply × Session
  | .query query =>
      let (reply, cursor) := session.cursor.ask query
      (.query reply, { session with cursor := cursor })
  | .read rule =>
      let (result, after) := session.read rule
      (.value result, after)
  | .evaluate =>
      let (result, after) := session.evaluate
      (.value result, after)

/-- The replies to a list of requests, each with the session after it. -/
def serveAll : Session → List Request → List (Reply × Session)
  | _, [] => []
  | session, request :: requests =>
      let answer := session.serve request
      answer :: serveAll answer.2 requests

end Session

/-- The value of an expression, or why it has none.  What is told of a failure is its report. -/
def evaluate (text : String) (limits : Limits := {}) : Except Failure Int :=
  (Session.start text limits).evaluate.1

end Abacus
