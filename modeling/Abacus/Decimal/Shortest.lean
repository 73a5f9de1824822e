/-
Module: Abacus.Decimal.Shortest
Purpose: The shortest decimal that denotes a number of double precision.
Main exports: Decimal.shortest, Decimal.toDouble_shortest
-/
import Abacus.Decimal.Double

namespace Abacus.Decimal

/-!
Many decimals denote the same double.  The shortest of them is found on the coarsest grid of
powers of ten that has any: there the two neighbours of the exact value are tried, the nearer one
first.  Seventeen digits are always enough, so twenty grids are, the first of which is coarser
than the number is large.
-/

/-- The two decimals around a number that are multiples of a power of ten, the nearer one first.
In the middle between them, the even one comes first. -/
def neighbours (x : Fraction) (exponent : Int) : List Decimal :=
  let onGrid := x.shift 10 (-exponent)
  let below := onGrid.num / onGrid.den
  let digits := if onGrid.round = below then [below, below + 1] else [below + 1, below]
  digits.map fun n => { digits := n, exponent := exponent }

/-- The first decimal that denotes the double, on so many grids from the given one on, each of
them ten times finer than the one before it.  `x` is the exact value of the double. -/
def search? (double : Double) (x : Fraction) : (grids : Nat) → (exponent : Int) → Option Decimal
  | 0, _ => none
  | grids + 1, exponent =>
      match (neighbours x exponent).find? fun d => d.toDouble = double with
      | some found => some found
      | none => search? double x grids (exponent - 1)

/-- The decimal with the fewest digits that denotes the same double, and of several the one next
to its exact value.  Zeros and infinite numbers stay as they are. -/
def shortest (d : Decimal) : Decimal :=
  match d.toDouble with
  | .infinite => d
  | .finite mantissa scale =>
      if mantissa = 0 then d
      else
        match search? d.toDouble (Double.toFraction mantissa scale) 20 d.top with
        | some found => { found with negative := d.negative }
        | none => d

/-- Whatever the search finds denotes the double. -/
theorem toDouble_of_search? {double : Double} {x : Fraction} {found : Decimal} :
    ∀ {grids : Nat} {exponent : Int},
      search? double x grids exponent = some found → found.toDouble = double
  | 0, _, h => by simp [search?] at h
  | grids + 1, exponent, h => by
      unfold search? at h
      split at h
      · next _ hit =>
          obtain rfl := Option.some.inj h
          simpa using List.find?_some hit
      · exact toDouble_of_search? h

/-- The shortest decimal denotes the same double. -/
theorem toDouble_shortest (d : Decimal) : d.shortest.toDouble = d.toDouble := by
  unfold shortest
  split
  · rfl
  · split
    · rfl
    · split
      · next found hit => exact (toDouble_signed found d.negative).trans (toDouble_of_search? hit)
      · rfl

end Abacus.Decimal
