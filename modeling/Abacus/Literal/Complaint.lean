/-
Module: Abacus.Literal.Complaint
Purpose: What can be wrong with the text of a literal, and how that is said.
Main exports: Literal.Complaint, Literal.Complaint.message
-/
import Abacus.Text.Hex
import Abacus.Text.Printable

namespace Abacus.Literal

open Text

/-- What is wrong with the text of a literal. -/
inductive Complaint where
  /-- Something else should stand in its place. -/
  | unexpected
  /-- Two values stand side by side in brackets. -/
  | commaMissing
  /-- A key of a dictionary has a colon but no value. -/
  | valueMissing
  /-- A key of a dictionary has neither. -/
  | colonMissing
  /-- In brackets a value is assigned to a name, or to a literal. -/
  | assigned (literal : Bool)
  /-- A bracket closes nothing. -/
  | unopened (bracket : Char)
  /-- A bracket of one kind is closed by one of another, maybe on another line. -/
  | crossed (closing opening : Char) (openedOn : Option Nat)
  /-- A bracket is never closed. -/
  | unclosed (bracket : Char)
  /-- A quotation does not end, up to the line where that is found. -/
  | quoteOpen (triple : Bool) (line : Nat)
  /-- A numeral of some kind goes on with what does not belong to it. -/
  | badNumber (kind : String)
  /-- A numeral of some kind has a digit that is too large. -/
  | badDigit (digit : Char) (kind : String)
  /-- An integer other than zero starts with a zero. -/
  | leadingZeros
  /-- A backslash stands before something else than a line end. -/
  | strayBackslash
  /-- A character has no place in any literal. -/
  | badCharacter (c : Char)
  /-- Quoted bytes are joined to a quoted text. -/
  | mixedQuotes
  /-- Quoted bytes hold other characters than those of ASCII. -/
  | bytesBeyondAscii
  /-- There is a null character. -/
  | nullCharacter
  /-- A set or a dictionary stands where only a value can stand that never changes. -/
  | unhashable (kind : String)
deriving Repr, DecidableEq

namespace Complaint

/-- Whether the text breaks the rules of writing.  The other complaints are about its meaning. -/
def isSyntactic : Complaint → Bool
  | nullCharacter => false
  | unhashable _ => false
  | _ => true

/-- A code point with four hexadecimal digits at least. -/
def codeText (c : Char) : String :=
  let width := if c.toNat < 0x10000 then 4 else if c.toNat < 0x100000 then 5 else 6
  String.ofList ((hexDigits width c.toNat).map Char.toUpper)

/-- What is said about the text. -/
def message : Complaint → String
  | unexpected => "invalid syntax"
  | commaMissing => "invalid syntax. Perhaps you forgot a comma?"
  | valueMissing => "expression expected after dictionary key and ':'"
  | colonMissing => "':' expected after dictionary key"
  | assigned false => "invalid syntax. Maybe you meant '==' or ':=' instead of '='?"
  | assigned true => "cannot assign to literal here. Maybe you meant '==' instead of '='?"
  | unopened bracket => "unmatched '" ++ bracket.toString ++ "'"
  | crossed closing opening openedOn =>
      "closing parenthesis '" ++ closing.toString ++ "' does not match opening parenthesis '" ++
        opening.toString ++ "'" ++ openedOn.elim "" fun line => " on line " ++ toString line
  | unclosed bracket => "'" ++ bracket.toString ++ "' was never closed"
  | quoteOpen triple line =>
      (if triple then "unterminated triple-quoted string literal (detected at line "
        else "unterminated string literal (detected at line ") ++ toString line ++ ")"
  | badNumber kind => "invalid " ++ kind ++ " literal"
  | badDigit digit kind => "invalid digit '" ++ digit.toString ++ "' in " ++ kind ++ " literal"
  | leadingZeros =>
      "leading zeros in decimal integer literals are not permitted; " ++
        "use an 0o prefix for octal integers"
  | strayBackslash => "unexpected character after line continuation character"
  | badCharacter c =>
      if isPrintable c then
        "invalid character '" ++ c.toString ++ "' (U+" ++ codeText c ++ ")"
      else "invalid non-printable character U+" ++ codeText c
  | mixedQuotes => "cannot mix bytes and nonbytes literals"
  | bytesBeyondAscii => "bytes can only contain ASCII literal characters"
  | nullCharacter => "source code string cannot contain null bytes"
  | unhashable kind => "unhashable type: '" ++ kind ++ "'"

end Complaint

end Abacus.Literal
