/-
Module: Abacus.Report.Caret
Purpose: The line of a text that holds a position, and a caret under a column of a line.
Main exports: sourceLine, caretLine, placeOf
-/
import Abacus.Text.Blank
import Abacus.Text.CellWidth

namespace Abacus.Report

open Text

/-- The line around a position, and the column of the position in it.  A position behind the end
belongs to the last line. -/
def sourceLine (cs : List Char) (position : Nat) : List Char × Nat :=
  let before := cs.take position
  let head := (before.reverse.takeWhile (· ≠ '\n')).reverse
  let tail := (cs.drop position).takeWhile (· ≠ '\n')
  (head ++ tail, position - (before.length - head.length))

/-- The place that an index denotes in a sequence of some length.  A negative index counts from
the end, but not beyond the start. -/
def placeOf (length : Nat) (index : Int) : Nat :=
  if 0 ≤ index then index.toNat else (length + index).toNat

/-- What stands under one character to the left of a caret: a blank is copied, so that tabs keep
their effect, and any other character leaves its cells free. -/
def padChar (c : Char) : List Char :=
  if isBlank c then [c] else List.replicate (cellWidth c) ' '

/-- A line with a caret under a column. -/
def caretLine (line : List Char) (column : Int) : List Char :=
  (line.take (placeOf line.length column)).flatMap padChar ++ ['^']

end Abacus.Report
