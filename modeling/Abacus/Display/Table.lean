/-
Module: Abacus.Display.Table
Purpose: Ruled tables with a title, a heading and rows.
Main exports: Table, Table.widths, Table.lines
-/
import Abacus.Display.Fit

namespace Abacus.Display

open Text

/-- A column: what stands above it, where the text of its cells stands, and the width that it
has at least. -/
structure Column where
  heading : List Char
  justify : Justify := .left
  minWidth : Nat := 0
deriving Repr, DecidableEq

/-- A table whose rows have one cell for each column.  A cell may have several lines. -/
structure Table where
  title : List Char
  columns : List Column
  rows : List (List (List Char))
deriving Repr, DecidableEq

/-- The characters that rule one kind of line: its two ends, its crossings and its filling. -/
structure Border where
  left : Char
  crossing : Char
  right : Char
  fill : Char
deriving Repr, DecidableEq

namespace Table

/-! ### Widths -/

/-- The widths of the columns: each is as wide as the widest line in it.  The display is taken to
have room for them all, as for every line: no column is ever made narrower. -/
def widths (table : Table) : List Nat :=
  (table.columns.map (·.heading) :: table.rows).foldr
    (fun row widths =>
      List.zipWith (fun cell width => max (contentWidth cell) width) row widths)
    (table.columns.map (·.minWidth))

/-- The number of cells between the ends of the table, both included: each column has a space on
either side and a rule before it, and one more rule ends the table. -/
def width (widths : List Nat) : Nat :=
  widths.foldr (fun width total => width + 3 + total) 1

/-! ### Lines -/

/-- Parts between two ends and with a crossing between each two. -/
def ruled (border : Border) (parts : List (List Char)) : List Char :=
  border.left :: List.intercalate [border.crossing] parts ++ [border.right]

/-- A line without text. -/
def rule (border : Border) (widths : List Nat) : List Char :=
  ruled border (widths.map fun width => List.replicate (width + 2) border.fill)

/-- The parts of one line, each between two spaces. -/
def textLine (border : Border) (parts : List (List Char)) : List Char :=
  ruled border (parts.map fun part => ' ' :: part ++ [' '])

/-- The lines of a row.  There are as many as the highest cell has, and a cell that has fewer is
blank below them. -/
def rowLines (tabSize : Nat) (border : Border) (columns : List (Justify × Nat))
    (row : List (List Char)) : List (List Char) :=
  let parts := List.zipWith
    (fun (justify, width) text => (width, fitCell tabSize justify width text)) columns row
  let height := parts.foldr (fun (_, lines) height => max lines.length height) 0
  (List.range height).map fun i =>
    textLine border (parts.map fun (width, lines) => lines.getD i (spaces width))

/-- The title above the middle of the table. -/
def titleLine (width : Nat) (title : List Char) : List Char :=
  let free := width - cells title
  spaces (free / 2) ++ title ++ spaces (free - free / 2)

/-- The upper edge. -/
def topBorder : Border := { left := '┏', crossing := '┳', right := '┓', fill := '━' }

/-- The rules around the headings. -/
def headingBorder : Border := { left := '┃', crossing := '┃', right := '┃', fill := ' ' }

/-- The rule between the headings and the rows. -/
def middleBorder : Border := { left := '┡', crossing := '╇', right := '┩', fill := '━' }

/-- The rules around the cells of a row. -/
def rowBorder : Border := { left := '│', crossing := '│', right := '│', fill := ' ' }

/-- The lower edge. -/
def bottomBorder : Border := { left := '└', crossing := '┴', right := '┘', fill := '─' }

/-- The lines of the table, from its title to its lower edge. -/
def lines (tabSize : Nat) (table : Table) : List (List Char) :=
  let widths := table.widths
  let columns := List.zip (table.columns.map (·.justify)) widths
  titleLine (width widths) table.title :: rule topBorder widths ::
    rowLines tabSize headingBorder columns (table.columns.map (·.heading)) ++
    rule middleBorder widths :: table.rows.flatMap (rowLines tabSize rowBorder columns) ++
    [rule bottomBorder widths]

end Table

end Abacus.Display
