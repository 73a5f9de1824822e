/-
Module: Abacus.Numeral
Purpose: Decimal numerals: how a setting is read and how long a number literal may be.
Main exports: Numeral.capacity, Numeral.digits?, Numeral.isMargin, Numeral.read?, Numeral.Writable
-/
import Abacus.Text.Blank
import Abacus.Text.Digit

namespace Abacus.Numeral

open Text

/-!
A numeral is an optional sign and decimal digits of any script, with single underscores allowed
between two digits and blanks around the whole, although not all of them: the separators are in
place nowhere.  However a numeral came to be read, it has at most `capacity` digits, leading zeros
included and underscores left out.
-/

/-- The greatest number of digits of a numeral. -/
def capacity : Nat := 4300

/-- Read digits up to the end of the text, after `count` digits that denote `value`.  An
underscore is in place right after a digit, and a digit must follow it.  The answer is the
number of digits and what they denote. -/
def digits? (afterDigit : Bool) (count value : Nat) : List Char → Option (Nat × Nat)
  | [] => if afterDigit then some (count, value) else none
  | c :: rest =>
      match digitValue? c with
      | some d => digits? true (count + 1) (10 * value + d) rest
      | none => if c = '_' ∧ afterDigit then digits? false count value rest else none

/-- The natural number that an unsigned numeral denotes. -/
def unsigned? (cs : List Char) : Option Nat :=
  match digits? false 0 0 cs with
  | some (count, value) => if count ≤ capacity then some value else none
  | none => none

/-- The integer that a numeral without surrounding blanks denotes. -/
def signed? : List Char → Option Int
  | '+' :: cs => (unsigned? cs).map fun n => (n : Int)
  | '-' :: cs => (unsigned? cs).map fun n => -(n : Int)
  | cs => (unsigned? cs).map fun n => (n : Int)

/-- Whether the character may stand around a numeral. -/
def isMargin (c : Char) : Bool :=
  isBlank c && !isSeparator c

/-- The integer that a numeral denotes, its margins ignored. -/
def read? (s : String) : Option Int :=
  signed? (trimBy isMargin s.toList)

/-- The integer has at most `capacity` digits.  Only such an integer can be written in a message. -/
def Writable (n : Int) : Prop :=
  n.natAbs < Nat.pow 10 capacity

instance (n : Int) : Decidable (Writable n) :=
  inferInstanceAs (Decidable (n.natAbs < Nat.pow 10 capacity))

end Abacus.Numeral
