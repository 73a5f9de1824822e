/-
Module: Abacus.Cursor
Purpose: A position that moves forward over a text.
Main exports: Cursor, Cursor.Query, Cursor.Reply, Cursor.ask
-/
import Abacus.Text.Blank
import Abacus.Text.Digit

namespace Abacus

/-- A text and a position in it, counted in characters.  The position may lie behind the end of
the text, where nothing remains. -/
structure Cursor where
  text : List Char
  position : Nat := 0
deriving Repr, DecidableEq

namespace Cursor

/-- The text from the position on. -/
def rest (cursor : Cursor) : List Char :=
  cursor.text.drop cursor.position

/-- The cursor a number of characters further on. -/
def forward (cursor : Cursor) (count : Nat) : Cursor :=
  { cursor with position := cursor.position + count }

/-- Whether nothing remains. -/
def atEnd (cursor : Cursor) : Bool :=
  cursor.text.length ≤ cursor.position

/-- The cursor behind all blanks that come next. -/
def skipBlanks (cursor : Cursor) : Cursor :=
  cursor.forward (cursor.rest.takeWhile Text.isBlank).length

/-- The character that comes next, blanks left aside. -/
def significant? (cursor : Cursor) : Option Char :=
  cursor.skipBlanks.rest.head?

/-- Whether the character that comes next, blanks left aside, is the whole of `symbol`. -/
def sees (cursor : Cursor) (symbol : String) : Bool :=
  cursor.significant?.map String.singleton == some symbol

/-- The run of digits that comes next. -/
def digits (cursor : Cursor) : List Char :=
  cursor.rest.takeWhile Text.isDigit

/-!
### Queries

Every way to ask the cursor something.  Looking at the next significant character skips the
blanks before it, so even a query that consumes nothing else may move the cursor.
-/

/-- What a cursor can be asked. -/
inductive Query where
  | skipBlanks
  /-- Which character comes next? -/
  | peek
  /-- Does this symbol come next?  If so, it is consumed. -/
  | accept (symbol : String)
  | atEnd
  /-- Which digits come next?  They are consumed. -/
  | takeDigits
  | remainder
deriving Repr, DecidableEq

/-- What a cursor replies: that it is done, yes or no, or a text. -/
inductive Reply where
  | done
  | flag (value : Bool)
  | text (value : String)
deriving Repr, DecidableEq

/-- The reply to a query, and the cursor after it.  A peek at the end shows the empty text. -/
def ask (cursor : Cursor) : Query → Reply × Cursor
  | .skipBlanks => (.done, cursor.skipBlanks)
  | .peek => (.text (String.ofList cursor.significant?.toList), cursor.skipBlanks)
  | .accept symbol =>
      if cursor.sees symbol then (.flag true, cursor.skipBlanks.forward 1)
      else (.flag false, cursor.skipBlanks)
  | .atEnd => (.flag cursor.atEnd, cursor)
  | .takeDigits =>
      (.text (String.ofList cursor.digits), cursor.forward cursor.digits.length)
  | .remainder => (.text (String.ofList cursor.rest), cursor)

/-- The replies to a list of queries, each with the cursor after it. -/
def askAll : Cursor → List Query → List (Reply × Cursor)
  | _, [] => []
  | cursor, query :: queries =>
      let answer := cursor.ask query
      answer :: askAll answer.2 queries

/-! ### What remains -/

@[simp] theorem rest_forward (cursor : Cursor) (count : Nat) :
    (cursor.forward count).rest = cursor.rest.drop count := by
  simp [rest, forward, List.drop_drop]

/-- Skipping blanks drops them from what remains, and nothing else. -/
theorem rest_skipBlanks (cursor : Cursor) :
    cursor.skipBlanks.rest = cursor.rest.dropWhile Text.isBlank := by
  have parts := List.takeWhile_append_dropWhile (p := Text.isBlank) (l := cursor.rest)
  rw [skipBlanks, rest_forward]
  calc
    cursor.rest.drop (cursor.rest.takeWhile Text.isBlank).length
      = (cursor.rest.takeWhile Text.isBlank ++ cursor.rest.dropWhile Text.isBlank).drop
          (cursor.rest.takeWhile Text.isBlank).length := by rw [parts]
    _ = cursor.rest.dropWhile Text.isBlank := List.drop_left

theorem atEnd_iff {cursor : Cursor} : cursor.atEnd = true ↔ cursor.rest = [] := by
  simp [atEnd, rest, List.drop_eq_nil_iff]

end Cursor

end Abacus
