/-
Module: Abacus.Phrase
Purpose: The language as a grammar: what is written, and what it means.
Main exports: Phrase, Phrase.text, Phrase.Legal, Phrase.Fits, Phrase.value?, Phrase.zeroDivisors
-/
import Abacus.Machine

namespace Abacus

/-!
The machine reads the language without ever building a phrase.  This module says what the
language is, independently of how it is read:

```text
expression = term ((`+` | `-`) term)*
term       = factor ((`*` | `/`) factor)*
factor     = number | `(` expression `)`
number     = digit+
```

Blanks may stand before every symbol.  Both chains grow to the right, so a chain is its left part
and one more operand, and is evaluated from the left.
-/

/-- A phrase of a rule, with the blanks that stand before its symbols. -/
inductive Phrase : Rule → Type where
  | number (blanks digits : List Char) : Phrase .number
  | ofNumber (number : Phrase .number) : Phrase .factor
  /-- A group: blanks and `(`, its body, blanks and `)`. -/
  | group (before : List Char) (body : Phrase .expression) (after : List Char) : Phrase .factor
  | ofFactor (factor : Phrase .factor) : Phrase .term
  | product (left : Phrase .term) (blanks : List Char) (op : ProductOp) (right : Phrase .factor) :
      Phrase .term
  | ofTerm (term : Phrase .term) : Phrase .expression
  | sum (left : Phrase .expression) (blanks : List Char) (op : SumOp) (right : Phrase .term) :
      Phrase .expression

namespace Phrase

/-! ### What is written -/

/-- The characters of the phrase. -/
def text : {rule : Rule} → Phrase rule → List Char
  | _, number blanks digits => blanks ++ digits
  | _, ofNumber inner => inner.text
  | _, group before body after => before ++ '(' :: body.text ++ after ++ [')']
  | _, ofFactor inner => inner.text
  | _, product left blanks op right => left.text ++ blanks ++ op.symbol :: right.text
  | _, ofTerm inner => inner.text
  | _, sum left blanks op right => left.text ++ blanks ++ op.symbol :: right.text

/-- Every character is blank. -/
def AllBlank (cs : List Char) : Prop :=
  ∀ c ∈ cs, Text.isBlank c = true

/-- The phrase has blanks where blanks belong, and digits, at least one, where digits belong. -/
def Legal : {rule : Rule} → Phrase rule → Prop
  | _, number blanks digits =>
      AllBlank blanks ∧ digits ≠ [] ∧ ∀ c ∈ digits, Text.isDigit c = true
  | _, ofNumber inner => inner.Legal
  | _, group before body after => AllBlank before ∧ body.Legal ∧ AllBlank after
  | _, ofFactor inner => inner.Legal
  | _, product left blanks _ right => left.Legal ∧ AllBlank blanks ∧ right.Legal
  | _, ofTerm inner => inner.Legal
  | _, sum left blanks _ right => left.Legal ∧ AllBlank blanks ∧ right.Legal

/-- Every literal is as short, and every group as shallow, as the limits demand where `depth`
groups are open around the phrase. -/
def Fits (limits : Limits) : {rule : Rule} → (depth : Nat) → Phrase rule → Prop
  | _, _, number _ digits =>
      digits.length ≤ Numeral.capacity ∧
        (limits.digits = 0 ∨ (digits.length : Int) ≤ limits.digits)
  | _, depth, ofNumber inner => inner.Fits limits depth
  | _, depth, group _ body _ =>
      (limits.depth = 0 ∨ ((depth + 1 : Nat) : Int) ≤ limits.depth) ∧
        body.Fits limits (depth + 1)
  | _, depth, ofFactor inner => inner.Fits limits depth
  | _, depth, product left _ _ right => left.Fits limits depth ∧ right.Fits limits depth
  | _, depth, ofTerm inner => inner.Fits limits depth
  | _, depth, sum left _ _ right => left.Fits limits depth ∧ right.Fits limits depth

/-- How many groups are open at once somewhere in the phrase. -/
def height : {rule : Rule} → Phrase rule → Nat
  | _, number _ _ => 0
  | _, ofNumber inner => inner.height
  | _, group _ body _ => body.height + 1
  | _, ofFactor inner => inner.height
  | _, product left _ _ right => max left.height right.height
  | _, ofTerm inner => inner.height
  | _, sum left _ _ right => max left.height right.height

/-! ### What it means -/

/-- The number that digits denote, the first one being worth most. -/
def literalValue (digits : List Char) : Nat :=
  digits.foldl (fun value c => 10 * value + (Text.digitValue? c).getD 0) 0

/-- The value of the phrase in the arithmetic of the integers, unless it divides by zero.  A
quotient is truncated: its fraction is dropped, whatever its sign. -/
def value? : {rule : Rule} → Phrase rule → Option Int
  | _, number _ digits => some (literalValue digits)
  | _, ofNumber inner => inner.value?
  | _, group _ body _ => body.value?
  | _, ofFactor inner => inner.value?
  | _, product left _ op right => do
      let first ← left.value?
      let second ← right.value?
      match op with
      | .multiply => some (first * second)
      | .divide => if second = 0 then none else some (first.tdiv second)
  | _, ofTerm inner => inner.value?
  | _, sum left _ op right => do
      let first ← left.value?
      let second ← right.value?
      match op with
      | .add => some (first + second)
      | .subtract => some (first - second)

/-- How many blanks stand before the first symbol of the phrase. -/
def indent : {rule : Rule} → Phrase rule → Nat
  | _, number blanks _ => blanks.length
  | _, ofNumber inner => inner.indent
  | _, group before _ _ => before.length
  | _, ofFactor inner => inner.indent
  | _, product left _ _ _ => left.indent
  | _, ofTerm inner => inner.indent
  | _, sum left _ _ _ => left.indent

/-- The right-hand factors of divisions that are zero, in a phrase that starts at `offset`: where
the first symbol of each stands, and where each ends. -/
def zeroDivisors : {rule : Rule} → (offset : Nat) → Phrase rule → List (Nat × Nat)
  | _, _, number _ _ => []
  | _, offset, ofNumber inner => inner.zeroDivisors offset
  | _, offset, group before body _ => body.zeroDivisors (offset + before.length + 1)
  | _, offset, ofFactor inner => inner.zeroDivisors offset
  | _, offset, product left blanks op right =>
      let start := offset + left.text.length + blanks.length + 1
      left.zeroDivisors offset ++ right.zeroDivisors start ++
        if op = .divide ∧ right.value? = some 0 then
          [(start + right.indent, start + right.text.length)]
        else []
  | _, offset, ofTerm inner => inner.zeroDivisors offset
  | _, offset, sum left blanks _ right =>
      left.zeroDivisors offset ++
        right.zeroDivisors (offset + left.text.length + blanks.length + 1)

end Phrase

end Abacus
