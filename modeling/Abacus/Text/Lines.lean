/-
Module: Abacus.Text.Lines
Purpose: The lines of a text, by the line ends that count.
Main exports: unifyLineEnds, linesBy, isLineEnd, splitOnChar, splitAtNewlines
-/

namespace Abacus.Text

/-- Every line end that is written with a carriage return, alone or before a newline, becomes a
newline. -/
def unifyLineEnds : List Char → List Char
  | [] => []
  | '\r' :: '\n' :: cs => '\n' :: unifyLineEnds cs
  | c :: cs => (if c = '\r' then '\n' else c) :: unifyLineEnds cs

/-- The lines of a text, each without the character that ends it.  An end at the very end of the
text starts no further line. -/
def linesBy (isEnd : Char → Bool) (cs : List Char) : List (List Char) :=
  cs.foldr (fun c lines =>
    if isEnd c then [] :: lines
    else
      match lines with
      | [] => [[c]]
      | line :: lines => (c :: line) :: lines) []

/-- Whether the character ends a line of a file of expressions: newlines, vertical tabs, form
feeds, the separators of files, groups and records, and the line ends beyond ASCII. -/
def isLineEnd (c : Char) : Bool :=
  ['\n', '\r', '\x0b', '\x0c', '\x1c', '\x1d', '\x1e', '\u0085', '\u2028', '\u2029'].contains c

/-- The parts of a text between the places where a character stands.  There is one more of them
than such places. -/
def splitOnChar (mark : Char) (cs : List Char) : List (List Char) :=
  cs.foldr (fun c parts =>
    if c = mark then [] :: parts
    else
      match parts with
      | [] => [[c]]
      | part :: parts => (c :: part) :: parts) [[]]

/-- The parts of a text between its newlines. -/
def splitAtNewlines (cs : List Char) : List (List Char) :=
  splitOnChar '\n' cs

theorem splitOnChar_ne_nil (mark : Char) (cs : List Char) : splitOnChar mark cs ≠ [] := by
  cases cs with
  | nil => simp [splitOnChar]
  | cons c cs =>
      rw [splitOnChar, List.foldr_cons]
      split
      · simp
      · split <;> simp

theorem splitAtNewlines_ne_nil (cs : List Char) : splitAtNewlines cs ≠ [] :=
  splitOnChar_ne_nil '\n' cs

end Abacus.Text
