/-
Module: Abacus.Json.Display
Purpose: JSON values as they are shown to a reader.
Main exports: Json.display
-/
import Abacus.Decimal.Display
import Abacus.Json.Basic
import Abacus.Text.Quoted

namespace Abacus.Json

/-!
A text value is shown as it is, and inside a list or an object as a quoted literal.
-/

mutual

/-- A value inside a list or an object. -/
def displayInside : Json → String
  | null => "None"
  | bool true => "True"
  | bool false => "False"
  | int value => toString value
  | decimal value => value.display
  | text value => Text.Quoted.literal value
  | list [] => "[]"
  | list (item :: items) => "[" ++ displayInside item ++ displayItems items ++ "]"
  | object [] => "\x7b\x7d"
  | object ((name, item) :: fields) =>
      "\x7b" ++ Text.Quoted.literal name ++ ": " ++ displayInside item ++
        displayFields fields ++ "\x7d"

/-- The items after the first one. -/
def displayItems : List Json → String
  | [] => ""
  | item :: items => ", " ++ displayInside item ++ displayItems items

/-- The fields after the first one. -/
def displayFields : List (String × Json) → String
  | [] => ""
  | (name, item) :: fields =>
      ", " ++ Text.Quoted.literal name ++ ": " ++ displayInside item ++ displayFields fields

end

/-- A value on its own. -/
def display : Json → String
  | text value => value
  | value => displayInside value

@[simp] theorem display_text (value : String) : (text value).display = value := rfl

@[simp] theorem display_int (value : Int) : (int value).display = toString value := by
  simp [display, displayInside]

end Abacus.Json
