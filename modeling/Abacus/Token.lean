/-
Module: Abacus.Token
Purpose: A text as a sequence of numbers and symbols, and the tokens that a phrase is written with.
Main exports: Token, Token.ofText, Token.located, Token.Alike, Phrase.tokens
-/
import Abacus.Phrase

namespace Abacus

/-- A number with its digits, or a character that is neither a digit nor a blank. -/
inductive Token where
  | number (digits : List Char)
  | symbol (c : Char)
deriving Repr, DecidableEq

/-- The tokens of a text.  A number is the longest run of digits; blanks only part tokens. -/
def Token.ofText : List Char → List Token
  | [] => []
  | c :: cs =>
      if Text.isBlank c then ofText cs
      else if Text.isDigit c then
        number (c :: cs.takeWhile Text.isDigit) :: ofText (cs.dropWhile Text.isDigit)
      else symbol c :: ofText cs
termination_by cs => cs.length
decreasing_by
  · simp
  · exact Nat.lt_succ_of_le (List.dropWhile_sublist _).length_le
  · simp

/-- The tokens of a text that starts at `offset`, each with the position it starts at. -/
def Token.located : (offset : Nat) → List Char → List (Nat × Token)
  | _, [] => []
  | offset, c :: cs =>
      if Text.isBlank c then located (offset + 1) cs
      else if Text.isDigit c then
        (offset, number (c :: cs.takeWhile Text.isDigit)) ::
          located (offset + (cs.takeWhile Text.isDigit).length + 1) (cs.dropWhile Text.isDigit)
      else (offset, symbol c) :: located (offset + 1) cs
termination_by _ cs => cs.length
decreasing_by
  · simp
  · exact Nat.lt_succ_of_le (List.dropWhile_sublist _).length_le
  · simp

/-- Where the tokens of a text start. -/
def Token.starts (cs : List Char) : List Nat :=
  (located 0 cs).map Prod.fst

/-- The same token in another spelling: numbers agree digit by digit, in whatever script. -/
def Token.Alike : Token → Token → Prop
  | number digits, number others => digits.map Text.digitValue? = others.map Text.digitValue?
  | symbol c, symbol d => c = d
  | _, _ => False

/-- The tokens of a phrase. -/
def Phrase.tokens : {rule : Rule} → Phrase rule → List Token
  | _, number _ digits => [.number digits]
  | _, ofNumber inner => inner.tokens
  | _, group _ body _ => .symbol '(' :: body.tokens ++ [.symbol ')']
  | _, ofFactor inner => inner.tokens
  | _, product left _ op right => left.tokens ++ .symbol op.symbol :: right.tokens
  | _, ofTerm inner => inner.tokens
  | _, sum left _ op right => left.tokens ++ .symbol op.symbol :: right.tokens

end Abacus
