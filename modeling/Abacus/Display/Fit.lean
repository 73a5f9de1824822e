/-
Module: Abacus.Display.Fit
Purpose: Fitting the text of a cell into a column of a given width.
Main exports: Justify, contentWidth, fitCell, cells_fit
-/
import Abacus.Display.Line
import Abacus.Text.Blank
import Abacus.Text.Lines

namespace Abacus.Display

open Text

/-!
A column is as wide as its widest line, and every line end counts when that is measured.  When the
text is set, only newlines end a line; the other line ends are mere blanks.  A line that is too
wide for its column because of that, or because of tabs, is broken between words, and what is
still too wide is cut.
-/

/-- Where the text of a cell stands in its column. -/
inductive Justify where
  | left
  | right
deriving Repr, DecidableEq

/-- A run of spaces. -/
def spaces (count : Nat) : List Char :=
  List.replicate count ' '

theorem cells_spaces (count : Nat) : cells (spaces count) = count := by
  rw [spaces, cells_replicate, cellWidth_space, Nat.mul_one]

/-! ### Measuring -/

/-- The number of cells of the widest of some lines. -/
def widest (lines : List (List Char)) : Nat :=
  lines.foldr (fun line width => max (cells line) width) 0

/-- The width that a text asks for. -/
def contentWidth (text : List Char) : Nat :=
  widest (linesBy isLineEnd text)

/-! ### Breaking -/

/-- The words of a line, each with the blanks behind it, and the first one with those before it
as well. -/
def spacedWords (line : List Char) : List (List Char) :=
  match (line.dropWhile isBlank).splitBy fun c d => !(isBlank c && !isBlank d) with
  | [] => [line]
  | word :: words => (line.takeWhile isBlank ++ word) :: words

/-- Set words in lines.  `line` holds what stands in the current line, and `column` is where the
next word starts.  A word goes to a new line unless it fits without the blanks behind it, but no
line stays empty. -/
def setWords (width column : Nat) (line : List Char) : List (List Char) → List (List Char)
  | [] => [line]
  | word :: words =>
      if column + cells (trimEnd word) ≤ width then
        setWords width (column + cells word) (line ++ word) words
      else if line.isEmpty then setWords width (cells word) word words
      else line :: setWords width (cells word) word words

/-- A line broken between words. -/
def breakLine (width : Nat) (line : List Char) : List (List Char) :=
  setWords width 0 [] (spacedWords line)

/-! ### Cutting -/

/-- The line without the blanks at its end that are behind the first `length` characters. -/
def dropOverhang (length : Nat) (line : List Char) : List Char :=
  let blanks := (line.reverse.takeWhile isBlank).length
  line.take (line.length - min blanks (line.length - length))

/-- Look for a beginning of a line that has so many cells, by halving the range of places where it
may end.  A wide character that is cut in half becomes a space. -/
def searchCut (width : Nat) (line : List Char) : (fuel first last : Nat) → List Char
  | 0, _, _ => []
  | fuel + 1, first, last =>
      let middle := (first + last) / 2
      let before := line.take (middle + 1)
      if cells before = width then before
      else if cells before = width + 1 ∧ cells (line.take middle) + 1 = width then
        line.take middle ++ [' ']
      else if width < cells before then searchCut width line fuel first middle
      else searchCut width line fuel middle last

/-- The beginning of a line that has so many cells, for a line that has more. -/
def cut (width : Nat) (line : List Char) : List Char :=
  if width = 0 then [] else searchCut width line (line.length + 1) 0 line.length

/-- A line that is too wide, cut with an ellipsis at its end. -/
def shorten (width : Nat) (line : List Char) : List Char :=
  if cells line ≤ width then line
  else if width = 0 then []
  else cut (width - 1) line ++ ['…']

/-- Whatever the search finds is not too wide. -/
theorem cells_searchCut_le {width : Nat} {line : List Char} :
    ∀ {fuel first last : Nat}, cells (searchCut width line fuel first last) ≤ width
  | 0, _, _ => by simp [searchCut]
  | fuel + 1, first, last => by
      simp only [searchCut]
      split
      · omega
      · split
        · next half =>
            have one : cells [' '] = 1 := cells_spaces 1
            rw [cells_append, one]
            omega
        · split <;> exact cells_searchCut_le

theorem cells_shorten_le (width : Nat) (line : List Char) : cells (shorten width line) ≤ width := by
  unfold shorten
  split
  · assumption
  · split
    · simp
    · have one : cells ['…'] = 1 := by decide +kernel
      rw [cells_append, one]
      have found : cells (cut (width - 1) line) ≤ width - 1 := by
        unfold cut
        split
        · simp
        · exact cells_searchCut_le
      omega

/-! ### Filling up -/

/-- A line as it stands in its column.  At the right edge of a column stands the last character
that is not blank. -/
def fit (justify : Justify) (width : Nat) (line : List Char) : List Char :=
  match justify with
  | .left =>
      let shown := shorten width (dropOverhang width line)
      shown ++ spaces (width - cells shown)
  | .right =>
      let shown := shorten width (trimEnd line)
      spaces (width - cells shown) ++ shown

/-- Every line that stands in a column takes up its whole width. -/
theorem cells_fit (justify : Justify) (width : Nat) (line : List Char) :
    cells (fit justify width line) = width := by
  cases justify with
  | left =>
      have le := cells_shorten_le width (dropOverhang width line)
      simp only [fit, cells_append, cells_spaces]
      omega
  | right =>
      have le := cells_shorten_le width (trimEnd line)
      simp only [fit, cells_append, cells_spaces]
      omega

/-- The lines of a cell in a column. -/
def fitCell (tabSize : Nat) (justify : Justify) (width : Nat) (text : List Char) :
    List (List Char) :=
  (splitAtNewlines text).flatMap fun line =>
    (breakLine width (expandTabs tabSize 0 line)).map (fit justify width)

end Abacus.Display
