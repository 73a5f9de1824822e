/-
Module: Abacus.Json.Writer
Purpose: JSON text of a value, on one line or indented.
Main exports: Json.Layout, Json.write, Json.toText
-/
import Abacus.Json.Basic
import Abacus.Text.Hex

namespace Abacus.Json

open Text

/-!
The text of a value holds only the characters from the space to the tilde and, when it is
indented, line ends.  Whatever else a text value may hold is written by escapes.
-/

/-- Where the text of a list or an object breaks into lines: nowhere, or before each item and
before the closing bracket, with so many spaces for each level. -/
inductive Layout where
  | compact
  | indented (width : Nat)
deriving Repr, DecidableEq

namespace Layout

/-- The break before an item that stands at the level. -/
def lineBreak (layout : Layout) (level : Nat) : List Char :=
  match layout with
  | compact => []
  | indented width => '\n' :: List.replicate (width * level) ' '

/-- What stands between two items at the level. -/
def separator (layout : Layout) (level : Nat) : List Char :=
  match layout with
  | compact => [',', ' ']
  | indented _ => ',' :: layout.lineBreak level

end Layout

/-! ### Texts -/

/-- A unit of sixteen bits as an escape. -/
def escapeUnit (unit : Nat) : List Char :=
  '\\' :: 'u' :: hexDigits 4 unit

/-- A code point as an escape, or as two where it takes more than sixteen bits. -/
def escapeCode (code : Nat) : List Char :=
  if code < 0x10000 then escapeUnit code
  else escapeUnit (0xD800 + (code - 0x10000) / 0x400) ++
    escapeUnit (0xDC00 + (code - 0x10000) % 0x400)

/-- One character of a text value as it is written. -/
def escape (c : Char) : List Char :=
  if c = '"' ∨ c = '\\' then ['\\', c]
  else if c = '\n' then ['\\', 'n']
  else if c = '\r' then ['\\', 'r']
  else if c = '\t' then ['\\', 't']
  else if c = '\x08' then ['\\', 'b']
  else if c = '\x0c' then ['\\', 'f']
  else if ' ' ≤ c ∧ c ≤ '~' then [c]
  else escapeCode c.toNat

/-- A text value as it is written. -/
def quote (s : String) : List Char :=
  '"' :: s.toList.flatMap escape ++ ['"']

/-! ### Values -/

/-- A decimal as it is written: its digits, and always an exponent. -/
def writeDecimal (d : Decimal) : List Char :=
  (if d.negative then ['-'] else []) ++ (toString d.digits).toList ++
    'e' :: (toString d.exponent).toList

mutual

/-- The text of a value whose own items stand one level deeper than `level`. -/
def write (layout : Layout) (level : Nat) : Json → List Char
  | null => "null".toList
  | bool true => "true".toList
  | bool false => "false".toList
  | int value => (toString value).toList
  | decimal value => writeDecimal value
  | text value => quote value
  | list [] => ['[', ']']
  | list (item :: items) =>
      '[' :: layout.lineBreak (level + 1) ++ write layout (level + 1) item ++
        writeItems layout (level + 1) items ++ layout.lineBreak level ++ [']']
  | object [] => ['\x7b', '\x7d']
  | object ((name, item) :: fields) =>
      '\x7b' :: layout.lineBreak (level + 1) ++ quote name ++ ':' :: ' ' ::
        write layout (level + 1) item ++ writeFields layout (level + 1) fields ++
        layout.lineBreak level ++ ['\x7d']

/-- The items after the first one. -/
def writeItems (layout : Layout) (level : Nat) : List Json → List Char
  | [] => []
  | item :: items =>
      layout.separator level ++ write layout level item ++ writeItems layout level items

/-- The fields after the first one. -/
def writeFields (layout : Layout) (level : Nat) : List (String × Json) → List Char
  | [] => []
  | (name, item) :: fields =>
      layout.separator level ++ quote name ++ ':' :: ' ' :: write layout level item ++
        writeFields layout level fields

end

/-- The text of a value, indented by so many spaces for each level if a width is given. -/
def toText (value : Json) (indent : Option Nat := none) : String :=
  let layout := indent.elim Layout.compact Layout.indented
  String.ofList (value.write layout 0)

end Abacus.Json
