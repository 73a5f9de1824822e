/-
Module: Abacus.Display.Color
Purpose: The colors that a style may name.
Main exports: isColor, ShareFault
-/
import Abacus.Numeral
import Abacus.Text.Hex
import Abacus.Text.Lines

namespace Abacus.Display

open Text

/-!
A color is named by a word, by six hexadecimal digits after `#`, by its number below 256 as in
`color(7)`, or by the shares of red, green and blue as in `rgb(0,128,255)`.
-/

/-- The names of colors that stand alone. -/
def plainColors : List String :=
  ["black", "blue", "blue_violet", "bright_black", "bright_blue", "bright_cyan", "bright_green",
   "bright_magenta", "bright_red", "bright_white", "bright_yellow", "cadet_blue",
   "cornflower_blue", "cyan", "dark_blue", "dark_cyan", "dark_goldenrod", "dark_green",
   "dark_khaki", "dark_magenta", "dark_orange", "dark_red", "dark_sea_green", "dark_turquoise",
   "dark_violet", "green", "green_yellow", "hot_pink", "indian_red", "light_coral", "light_green",
   "light_sea_green", "light_slate_blue", "light_slate_gray", "light_slate_grey",
   "light_steel_blue", "magenta", "medium_orchid", "medium_purple", "medium_spring_green",
   "medium_turquoise", "medium_violet_red", "navy_blue", "orchid", "purple", "red", "rosy_brown",
   "sandy_brown", "steel_blue", "tan", "violet", "white", "yellow"]

/-- The names of colors that come in shades, with the numbers of these. -/
def shadedColors : List (String × List Nat) :=
  [("aquamarine", [1, 3]), ("blue", [1, 3]), ("chartreuse", [1, 2, 3, 4]), ("cornsilk", [1]),
   ("cyan", [1, 2, 3]), ("dark_olive_green", [1, 2, 3]), ("dark_orange", [3]),
   ("dark_sea_green", [1, 2, 3, 4]), ("dark_slate_gray", [1, 2, 3]), ("deep_pink", [1, 2, 3, 4]),
   ("deep_sky_blue", [1, 2, 3, 4]), ("dodger_blue", [1, 2, 3]), ("gold", [1, 3]),
   ("green", [1, 3, 4]), ("honeydew", [2]), ("hot_pink", [2, 3]), ("indian_red", [1]),
   ("khaki", [1, 3]), ("light_cyan", [1, 3]), ("light_goldenrod", [1, 2, 3]),
   ("light_pink", [1, 3, 4]), ("light_salmon", [1, 3]), ("light_sky_blue", [1, 3]),
   ("light_steel_blue", [1, 3]), ("light_yellow", [3]), ("magenta", [1, 2, 3]),
   ("medium_orchid", [1, 3]), ("medium_purple", [1, 2, 3, 4]), ("misty_rose", [1, 3]),
   ("navajo_white", [1, 3]), ("orange", [1, 3, 4]), ("orange_red", [1]), ("orchid", [1, 2]),
   ("pale_green", [1, 3]), ("pale_turquoise", [1, 4]), ("pale_violet_red", [1]), ("pink", [1, 3]),
   ("plum", [1, 2, 3, 4]), ("purple", [3, 4]), ("red", [1, 3]), ("royal_blue", [1]),
   ("salmon", [1]), ("sea_green", [1, 2, 3]), ("sky_blue", [1, 2, 3]), ("slate_blue", [1, 3]),
   ("spring_green", [1, 2, 3, 4]), ("steel_blue", [1, 3]), ("thistle", [1, 3]),
   ("turquoise", [2, 4]), ("wheat", [1, 4]), ("yellow", [1, 2, 3, 4])]

/-- The shades of grey, in either spelling. -/
def greyShades : List Nat :=
  [0, 3, 7, 11, 15, 19, 23, 27, 30, 35, 37, 39, 42, 46, 50, 53, 54, 58, 62, 63, 66, 69, 70, 74,
   78, 82, 84, 85, 89, 93, 100]

/-- All names of colors. -/
def colorNames : List String :=
  "default" :: plainColors ++
    (("gray", greyShades) :: ("grey", greyShades) :: shadedColors).flatMap fun (name, shades) =>
      shades.map fun shade => name ++ toString shade

/-- What stands between an opening text and a closing parenthesis. -/
def between? (opening : String) (cs : List Char) : Option (List Char) :=
  if opening.toList.isPrefixOf cs ∧ cs.getLast? = some ')' then
    some (cs.drop opening.length).dropLast
  else none

/-- Why a share of a color cannot be read: there are no digits, or too many. -/
inductive ShareFault where
  | missing
  | tooLong (digits : Nat)
deriving Repr, DecidableEq

/-- What is said about such a share. -/
def ShareFault.message : ShareFault → String
  | missing => "invalid literal for int() with base 10: ''"
  | tooLong digits =>
      "Exceeds the limit (" ++ toString Numeral.capacity ++
        " digits) for integer string conversion: value has " ++ toString digits ++
        " digits; use sys.set_int_max_str_digits() to increase the limit"

/-- The number that digits of any script denote. -/
def readShare (digits : List Char) : Except ShareFault Nat :=
  if digits.isEmpty then .error .missing
  else if Numeral.capacity < digits.length then .error (.tooLong digits.length)
  else .ok (digits.foldl (fun n c => 10 * n + (digitValue? c).getD 0) 0)

/-- Whether some shares are those of a color: there are three, each below 256. -/
def areShares (parts : List (List Char)) : Except ShareFault Bool :=
  if parts.length = 3 then do
    let shares ← parts.mapM readShare
    return shares.all (· < 256)
  else .ok false

/-- Whether a word in small letters names a color. -/
def isColor (word : List Char) : Except ShareFault Bool :=
  if colorNames.contains (String.ofList word) then .ok true
  else
    match word with
    | '#' :: digits => .ok (digits.length == 6 && digits.all fun c => (hexValue? c).isSome)
    | _ =>
        match between? "color(" word, between? "rgb(" word with
        | some number, _ =>
            .ok (!number.isEmpty && number.length ≤ 3 && number.all Char.isDigit &&
              Nat.ofDigitChars 10 number 0 < 256)
        | none, some shares =>
            if shares.all fun c => isDigit c || c = ',' then areShares (splitOnChar ',' shares)
            else .ok false
        | none, none => .ok false

end Abacus.Display
