/-
Module: Abacus.Text.Quoted
Purpose: Quoted literals, the form in which a message shows a piece of somebody's text.
Main exports: Quoted.encode, Quoted.decode, Quoted.literal
-/
import Abacus.Text.Hex
import Abacus.Text.Printable

namespace Abacus.Text.Quoted

/-!
A literal stands between two equal quotes.  Inside it a backslash and the quote in use are
written after a backslash, tabs and line ends have letters of their own, and every other
character that has no shape is written by its code point with two, four or eight hexadecimal
digits.  So a literal never breaks a line and never hides what it holds.
-/

/-- The quote to write a text in: a single quote, or a double quote for a text that holds
single quotes and no double ones. -/
def quoteFor (cs : List Char) : Char :=
  if cs.contains '\'' && !cs.contains '"' then '"' else '\''

/-- A code point as an escape of the shortest of the three widths. -/
def escapeCode (code : Nat) : List Char :=
  if code < 0x100 then '\\' :: 'x' :: hexDigits 2 code
  else if code < 0x10000 then '\\' :: 'u' :: hexDigits 4 code
  else '\\' :: 'U' :: hexDigits 8 code

/-- One character as it is written between `quote`s. -/
def escape (quote c : Char) : List Char :=
  if c = '\\' ∨ c = quote then ['\\', c]
  else if c = '\t' then ['\\', 't']
  else if c = '\n' then ['\\', 'n']
  else if c = '\r' then ['\\', 'r']
  else if isPrintable c then [c]
  else escapeCode c.toNat

/-- The literal of a text. -/
def encode (cs : List Char) : List Char :=
  let quote := quoteFor cs
  quote :: cs.flatMap (escape quote) ++ [quote]

/-- The literal of a string. -/
def literal (s : String) : String :=
  String.ofList (encode s.toList)

/-- What has been read of an escape: nothing, its backslash, or a part of its code point with
the number of hexadecimal digits still to come. -/
inductive Pending where
  | nothing
  | backslash
  | code (missing value : Nat)
deriving Repr, DecidableEq

/-- The character that a one-letter escape stands for. -/
def named? (c : Char) : Option Char :=
  match c with
  | '\\' | '\'' | '"' => some c
  | 't' => some '\t'
  | 'n' => some '\n'
  | 'r' => some '\r'
  | _ => none

/-- How many hexadecimal digits follow the letter of a code point escape. -/
def codeWidth? (c : Char) : Option Nat :=
  match c with
  | 'x' => some 2
  | 'u' => some 4
  | 'U' => some 8
  | _ => none

/-- Read what stands between an opening quote and its closing quote, which ends the text. -/
def decodeBody (quote : Char) : Pending → List Char → Option (List Char)
  | _, [] => none
  | .nothing, c :: rest =>
      if c = quote then (if rest = [] then some [] else none)
      else if c = '\\' then decodeBody quote .backslash rest
      else (decodeBody quote .nothing rest).map (c :: ·)
  | .backslash, c :: rest =>
      match named? c, codeWidth? c with
      | some d, _ => (decodeBody quote .nothing rest).map (d :: ·)
      | none, some width => decodeBody quote (.code width 0) rest
      | none, none => none
  | .code missing value, c :: rest =>
      match hexValue? c with
      | none => none
      | some d =>
          if missing ≤ 1 then
            (charOfCode? (16 * value + d)).bind fun e =>
              (decodeBody quote .nothing rest).map (e :: ·)
          else decodeBody quote (.code (missing - 1) (16 * value + d)) rest

/-- The text that a literal stands for. -/
def decode : List Char → Option (List Char)
  | [] => none
  | quote :: body =>
      if quote = '\'' ∨ quote = '"' then decodeBody quote .nothing body else none

end Abacus.Text.Quoted
