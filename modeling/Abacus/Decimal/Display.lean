/-
Module: Abacus.Decimal.Display
Purpose: Decimals as they are shown to a reader.
Main exports: Decimal.display
-/
import Abacus.Decimal.Shortest

namespace Abacus.Decimal

/-!
A decimal is shown with no more digits than tell its double from all others, but with at least one
behind the point.  It has an exponent from ten to the sixteenth on, and below one ten-thousandth.
-/

/-- An exponent as it is shown: with a sign, and with two digits at least. -/
def exponentText (exponent : Int) : String :=
  let size := toString exponent.natAbs
  "e" ++ (if exponent < 0 then "-" else "+") ++ (if size.length < 2 then "0" ++ size else size)

/-- The number `0.ds * 10 ^ top` as it is shown, where the digits `ds` start and end with a digit
other than zero. -/
def digitsText (ds : List Char) (top : Int) : String :=
  let zeros (n : Int) : List Char := List.replicate n.toNat '0'
  if -4 < top ∧ top ≤ 16 then
    if top ≤ 0 then String.ofList ('0' :: '.' :: zeros (-top) ++ ds)
    else
      let behind := ds.drop top.toNat
      String.ofList (ds.take top.toNat ++ zeros (top - ds.length) ++
        '.' :: if behind.isEmpty then ['0'] else behind)
  else
    let behind := if ds.length ≤ 1 then [] else '.' :: ds.drop 1
    String.ofList (ds.take 1 ++ behind) ++ exponentText (top - 1)

/-- The size of a decimal as it is shown. -/
def sizeText (d : Decimal) : String :=
  match d.toDouble with
  | .infinite => "inf"
  | .finite mantissa _ =>
      if mantissa = 0 then "0.0"
      else
        let digits := Nat.toDigits 10 d.shortest.digits
        digitsText (digits.reverse.dropWhile (· = '0')).reverse d.shortest.top

/-- A decimal as it is shown.  Zero keeps its sign. -/
def display (d : Decimal) : String :=
  (if d.negative then "-" else "") ++ d.sizeText

end Abacus.Decimal
