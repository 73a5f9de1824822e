/-
Module: Abacus.Display.Line
Purpose: Showing a text with markup on a display of fixed-width cells.
Main exports: dropControls, expandTabs, showLine, tabSizeFor
-/
import Abacus.Display.Markup
import Abacus.Text.CellWidth

namespace Abacus.Display

open Text

/-- Whether the character would make the display do something instead of showing anything: the
bell, the backspace, the vertical tab, the form feed and the carriage return. -/
def isControl (c : Char) : Bool :=
  ['\x07', '\x08', '\x0b', '\x0c', '\r'].contains c

/-- The text without such characters. -/
def dropControls (cs : List Char) : List Char :=
  cs.filter (!isControl ·)

/-- The first tab stop behind a column. -/
def nextStop (tabSize column : Nat) : Nat :=
  (column + tabSize) / tabSize * tabSize

/-- The text with spaces up to the next stop in place of each tab.  The text starts in the given
column, and a newline leads back to the first one. -/
def expandTabs (tabSize : Nat) : (column : Nat) → List Char → List Char
  | _, [] => []
  | column, c :: cs =>
      if c = '\n' then c :: expandTabs tabSize 0 cs
      else if c = '\t' then
        List.replicate (nextStop tabSize column - column) ' ' ++
          expandTabs tabSize (nextStop tabSize column) cs
      else c :: expandTabs tabSize (column + cellWidth c) cs

/-- What a text with markup looks like, without the line end. -/
def plain (tabSize : Nat) (markup : List Char) : List Char :=
  expandTabs tabSize 0 (dropControls (Markup.render markup))

/-- A line of the display.  The display is taken to be wide enough for every line: none is ever
wrapped. -/
def showLine (tabSize : Nat) (markup : List Char) : List Char :=
  plain tabSize markup ++ ['\n']

/-- The distance between tab stops unless something else is asked for. -/
def defaultTabSize : Nat := 8

/-- The distance between tab stops that a number asks for.  Zero asks for nothing, and below zero
there is a stop at every column. -/
def tabSizeFor (asked : Int) : Nat :=
  if asked = 0 then defaultTabSize else if asked < 0 then 1 else asked.toNat

end Abacus.Display
