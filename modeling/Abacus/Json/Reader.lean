/-
Module: Abacus.Json.Reader
Purpose: Reading JSON text.
Main exports: Json.joinUnits?, Json.readQuoted?, Json.readNumber?, Json.ofText?
-/
import Abacus.Json.Basic
import Abacus.Text.Hex

namespace Abacus.Json

open Text

/-! ### Texts -/

/-- What has been read of an escape: nothing, its backslash, or a part of its unit with the
number of hexadecimal digits still to come. -/
inductive Pending where
  | nothing
  | backslash
  | unit (missing value : Nat)
deriving Repr, DecidableEq

/-- The character that a one-letter escape stands for. -/
def named? (c : Char) : Option Char :=
  match c with
  | '"' | '\\' | '/' => some c
  | 'b' => some '\x08'
  | 'f' => some '\x0c'
  | 'n' => some '\n'
  | 'r' => some '\r'
  | 't' => some '\t'
  | _ => none

/-- What a unit comes to behind the first half of a pair, or behind none: a character, or the first
half of a pair itself. -/
def joinUnits? (high : Option Nat) (unit : Nat) : Option (Char ⊕ Nat) :=
  match high with
  | some first =>
      if 0xDC00 ≤ unit ∧ unit < 0xE000 then
        (charOfCode? (0x10000 + (first - 0xD800) * 0x400 + (unit - 0xDC00))).map .inl
      else none
  | none =>
      if 0xD800 ≤ unit ∧ unit < 0xDC00 then some (.inr unit)
      else (charOfCode? unit).map .inl

/-- Read the rest of a text value up to its closing quote.  `high` is the first half of a pair
of units whose second half must come next, and `before` holds the characters so far, the last
one first. -/
def readQuoted? (before : List Char) :
    Pending → (high : Option Nat) → List Char → Option (String × List Char)
  | _, _, [] => none
  | .nothing, high, c :: rest =>
      if c = '\\' then readQuoted? before .backslash high rest
      else if high.isSome then none
      else if c = '"' then some (String.ofList before.reverse, rest)
      else if c < ' ' then none
      else readQuoted? (c :: before) .nothing none rest
  | .backslash, high, c :: rest =>
      if c = 'u' then readQuoted? before (.unit 4 0) high rest
      else if high.isSome then none
      else
        match named? c with
        | some d => readQuoted? (d :: before) .nothing none rest
        | none => none
  | .unit missing value, high, c :: rest =>
      match hexValue? c with
      | none => none
      | some d =>
          let unit := 16 * value + d
          if 1 < missing then readQuoted? before (.unit (missing - 1) unit) high rest
          else
            match joinUnits? high unit with
            | some (.inl c) => readQuoted? (c :: before) .nothing none rest
            | some (.inr first) => readQuoted? before .nothing (some first) rest
            | none => none

/-! ### Numbers -/

/-- A run of ASCII digits, and what comes after it. -/
def spanDigits (cs : List Char) : List Char × List Char :=
  (cs.takeWhile Char.isDigit, cs.dropWhile Char.isDigit)

/-- The fraction of a number, empty if there is no point. -/
def readFraction? : List Char → Option (List Char × List Char)
  | '.' :: rest =>
      match spanDigits rest with
      | ([], _) => none
      | found => some found
  | rest => some ([], rest)

/-- The digits of an exponent after its sign. -/
def readScale? (negative : Bool) (cs : List Char) : Option (Option Int × List Char) :=
  match spanDigits cs with
  | ([], _) => none
  | (digits, rest) =>
      let size : Int := Nat.ofDigitChars 10 digits 0
      some (some (if negative then -size else size), rest)

/-- The exponent of a number after its mark. -/
def readMarked? : List Char → Option (Option Int × List Char)
  | '+' :: rest => readScale? false rest
  | '-' :: rest => readScale? true rest
  | rest => readScale? false rest

/-- The exponent of a number, if it has one. -/
def readExponent? : List Char → Option (Option Int × List Char)
  | 'e' :: rest => readMarked? rest
  | 'E' :: rest => readMarked? rest
  | rest => some (none, rest)

/-- A number after its sign.  Its first digit is zero only if there is no other before the
point. -/
def readUnsigned? (negative : Bool) (cs : List Char) : Option (Json × List Char) :=
  match spanDigits cs with
  | ([], _) => none
  | ('0' :: _ :: _, _) => none
  | (whole, rest) => do
      let (fraction, rest) ← readFraction? rest
      let (exponent?, rest) ← readExponent? rest
      let digits := Nat.ofDigitChars 10 (whole ++ fraction) 0
      if fraction.isEmpty && exponent?.isNone then
        some (.int (if negative then -digits else digits), rest)
      else
        some (.decimal {
          negative := negative
          digits := digits
          exponent := exponent?.getD 0 - fraction.length }, rest)

/-- A number, with a minus sign or none. -/
def readNumber? : List Char → Option (Json × List Char)
  | '-' :: cs => readUnsigned? true cs
  | cs => readUnsigned? false cs

/-! ### Values -/

/-- Blanks between the symbols of JSON text are these four characters alone. -/
def isSpace (c : Char) : Bool :=
  c = ' ' ∨ c = '\n' ∨ c = '\r' ∨ c = '\t'

/-- What comes after leading blanks. -/
def skipSpaces (cs : List Char) : List Char :=
  cs.dropWhile isSpace

/-- A name with its colon, and what comes after them. -/
def readName? : List Char → Option (String × List Char)
  | '"' :: rest =>
      match readQuoted? [] .nothing none rest with
      | some (name, rest) =>
          match skipSpaces rest with
          | ':' :: rest => some (name, rest)
          | _ => none
      | none => none
  | _ => none

mutual

/-- Read a value, which blanks may precede.  The fuel bounds the number of values and brackets;
twice the length of the text is always enough. -/
def readValue? : (fuel : Nat) → List Char → Option (Json × List Char)
  | 0, _ => none
  | fuel + 1, cs =>
      match skipSpaces cs with
      | '"' :: rest => (readQuoted? [] .nothing none rest).map fun found => (.text found.1, found.2)
      | '[' :: rest =>
          match skipSpaces rest with
          | ']' :: rest => some (.list [], rest)
          | rest => do
              let (item, rest) ← readValue? fuel rest
              let (items, rest) ← readItems? fuel rest
              some (.list (item :: items), rest)
      | '\x7b' :: rest =>
          match skipSpaces rest with
          | '\x7d' :: rest => some (.object [], rest)
          | rest => do
              let (name, rest) ← readName? rest
              let (item, rest) ← readValue? fuel rest
              let (fields, rest) ← readFields? fuel rest
              some (.object ((name, item) :: fields), rest)
      | 'n' :: 'u' :: 'l' :: 'l' :: rest => some (.null, rest)
      | 't' :: 'r' :: 'u' :: 'e' :: rest => some (.bool true, rest)
      | 'f' :: 'a' :: 'l' :: 's' :: 'e' :: rest => some (.bool false, rest)
      | rest => readNumber? rest

/-- Read what follows an item of a list, up to the closing bracket. -/
def readItems? : (fuel : Nat) → List Char → Option (List Json × List Char)
  | 0, _ => none
  | fuel + 1, cs =>
      match skipSpaces cs with
      | ']' :: rest => some ([], rest)
      | ',' :: rest => do
          let (item, rest) ← readValue? fuel rest
          let (items, rest) ← readItems? fuel rest
          some (item :: items, rest)
      | _ => none

/-- Read what follows a field of an object, up to the closing brace. -/
def readFields? : (fuel : Nat) → List Char → Option (List (String × Json) × List Char)
  | 0, _ => none
  | fuel + 1, cs =>
      match skipSpaces cs with
      | '\x7d' :: rest => some ([], rest)
      | ',' :: rest => do
          let (name, rest) ← readName? (skipSpaces rest)
          let (item, rest) ← readValue? fuel rest
          let (fields, rest) ← readFields? fuel rest
          some ((name, item) :: fields, rest)
      | _ => none

end

/-- The value that a text denotes, if the whole text is JSON. -/
def read? (cs : List Char) : Option Json :=
  match readValue? (2 * cs.length + 2) cs with
  | some (value, rest) => if skipSpaces rest = [] then some value else none
  | none => none

/-- The value that a string denotes, if the whole string is JSON. -/
def ofText? (s : String) : Option Json :=
  read? s.toList

end Abacus.Json
