/-
Module: Abacus.Text.Blank
Purpose: Blank characters, cutting them off the ends of a text, and what stands between them.
Main exports: isBlank, isSeparator, trimBy, trimStart, trimEnd, trim, words
-/
import Abacus.Text.CodeRange

namespace Abacus.Text

/-- The blank characters: spaces of every width, tabs, line ends and the separators. -/
def blankRanges : List CodeRange :=
  [⟨0x9, 0xD⟩, ⟨0x1C, 0x20⟩, ⟨0x85, 0x85⟩, ⟨0xA0, 0xA0⟩, ⟨0x1680, 0x1680⟩, ⟨0x2000, 0x200A⟩,
   ⟨0x2028, 0x2029⟩, ⟨0x202F, 0x202F⟩, ⟨0x205F, 0x205F⟩, ⟨0x3000, 0x3000⟩]

/-- Whether the character is blank.  Blanks may stand between the symbols of an expression. -/
def isBlank (c : Char) : Bool :=
  CodeRange.covers blankRanges c

/-- The separators of files, groups, records and units. -/
def separatorRanges : List CodeRange :=
  [⟨0x1C, 0x1F⟩]

/-- Whether the character is one of the four separators.  They are blank, but not where blanks
around a numeral are concerned. -/
def isSeparator (c : Char) : Bool :=
  CodeRange.covers separatorRanges c

/-- The text without the characters at its ends that are to be dropped. -/
def trimBy (drop : Char → Bool) (cs : List Char) : List Char :=
  ((cs.dropWhile drop).reverse.dropWhile drop).reverse

/-- The text without its leading blanks. -/
def trimStart (cs : List Char) : List Char :=
  cs.dropWhile isBlank

/-- The text without its trailing blanks. -/
def trimEnd (cs : List Char) : List Char :=
  (trimStart cs.reverse).reverse

/-- The text without its leading and trailing blanks. -/
def trim (cs : List Char) : List Char :=
  trimEnd (trimStart cs)

/-- `trim` on strings. -/
def trimmed (s : String) : String :=
  String.ofList (trim s.toList)

/-- The words of a text: the longest runs of characters that are not blank. -/
def words (cs : List Char) : List (List Char) :=
  (cs.splitBy fun c d => isBlank c == isBlank d).filter fun run => !run.any isBlank

/-- Trimming drops the blanks. -/
theorem trim_eq_trimBy (cs : List Char) : trim cs = trimBy isBlank cs := rfl

end Abacus.Text
