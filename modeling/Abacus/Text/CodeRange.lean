/-
Module: Abacus.Text.CodeRange
Purpose: Sets of characters written as tables of code point ranges.
Main exports: CodeRange, CodeRange.holds, CodeRange.covers
-/

namespace Abacus.Text

/-!
A character property such as "is a digit" is data: a table of ranges.  The property modules
beside this one each hold one table; whatever they decide is decided by `covers`.
-/

/-- The code points from `first` to `last`, both included. -/
structure CodeRange where
  first : Nat
  last : Nat
deriving Repr, DecidableEq

namespace CodeRange

/-- Whether the character's code point lies in the range. -/
def holds (range : CodeRange) (c : Char) : Bool :=
  range.first ≤ c.toNat && c.toNat ≤ range.last

/-- Whether some range of the table holds the character. -/
def covers (table : List CodeRange) (c : Char) : Bool :=
  table.any (·.holds c)

theorem holds_iff {range : CodeRange} {c : Char} :
    range.holds c = true ↔ range.first ≤ c.toNat ∧ c.toNat ≤ range.last := by
  simp [holds]

theorem covers_iff {table : List CodeRange} {c : Char} :
    covers table c = true ↔ ∃ range ∈ table, range.holds c = true := by
  simp [covers]

/-- Whether no code point lies in both ranges. -/
def apart (one two : CodeRange) : Bool :=
  one.last.blt two.first || two.last.blt one.first

/-- A character of one table is in no table whose ranges all lie apart from it. -/
theorem not_covers_of_apart {one two : List CodeRange} {c : Char}
    (tablesApart : (one.all fun r => two.all fun s => r.apart s) = true)
    (coveredByOne : covers one c = true) : covers two c = false := by
  obtain ⟨r, rMem, rHolds⟩ := covers_iff.1 coveredByOne
  refine Bool.eq_false_iff.2 fun coveredByTwo => ?_
  obtain ⟨s, sMem, sHolds⟩ := covers_iff.1 coveredByTwo
  have rsApart := List.all_eq_true.1 (List.all_eq_true.1 tablesApart r rMem) s sMem
  simp only [apart, Bool.or_eq_true, Nat.blt_eq] at rsApart
  have rBounds := holds_iff.1 rHolds
  have sBounds := holds_iff.1 sHolds
  omega

end CodeRange

end Abacus.Text
