/-
Module: Abacus.Literal
Purpose: Texts that denote a constant value, and what is wrong with those that do not.
Main exports: Literal.Value, Literal.complaint?
-/
import Abacus.Literal.Misplaced

namespace Abacus.Literal

/-!
A literal is a numeral, with a sign or as the sum of a real and an imaginary one, a quotation or
several side by side, one of the words `True`, `False` and `None`, an ellipsis, or a tuple, a set
or a dictionary of literals.  Sets and dictionaries may change, so they can be neither items of a
set nor keys of a dictionary, and nor can tuples that hold them.
-/

/-- The value of a literal, as far as it matters to where it may stand. -/
inductive Value where
  | real
  | imaginary
  | atom
  | tuple (changing : Option String)
  | set
  | dictionary
deriving Repr, DecidableEq

/-- What in the value may change: the kind of thing that it is or holds. -/
def Value.changing? : Value → Option String
  | set => some "set"
  | dictionary => some "dict"
  | tuple changing => changing
  | _ => none

/-- The first complaint about values that must not change. -/
def checkFixed (values : List Value) : Except Complaint Unit :=
  match values.findSome? Value.changing? with
  | some kind => .error (.unhashable kind)
  | none => .ok ()

/-- Join quotations that stand side by side.  All of them are bytes, or none is. -/
def joinQuoted (bytes : Bool) : List Placed → Except Complaint (Value × List Placed)
  | ⟨.quoted bytes' ascii, _⟩ :: rest =>
      if bytes' ≠ bytes then .error .mixedQuotes
      else if bytes ∧ !ascii then .error .bytesBeyondAscii
      else joinQuoted bytes rest
  | rest => .ok (.atom, rest)

/-- Whether a sign comes next. -/
def startsWithSign : List Placed → Bool
  | ⟨.symbol c, _⟩ :: _ => c = '+' || c = '-'
  | _ => false

/-- Whether a series of values ends here. -/
def endsSeries : List Placed → Bool
  | [] => true
  | ⟨.symbol c, _⟩ :: _ => c = ')' || c = '\x7d' || c = '\n'
  | _ => false

mutual

/-- A value without an operator.  The fuel bounds the depth and the number of values. -/
def readAtom : (fuel : Nat) → List Placed → Except Complaint (Value × List Placed)
  | 0, _ => .error .unexpected
  | _, [] => .error .unexpected
  | fuel + 1, ⟨lexeme, opened⟩ :: rest =>
      match lexeme with
      | .number imaginary => .ok (if imaginary then .imaginary else .real, rest)
      | .quoted bytes ascii => joinQuoted bytes (⟨.quoted bytes ascii, opened⟩ :: rest)
      | .ellipsis => .ok (.atom, rest)
      | .name word =>
          if ["True", "False", "None"].contains (String.ofList word) then .ok (.atom, rest)
          else
            match String.ofList word, rest with
            | "set", ⟨.symbol '(', _⟩ :: ⟨.symbol ')', _⟩ :: rest => .ok (.set, rest)
            | _, _ => .error .unexpected
      | .symbol '(' =>
          match rest with
          | ⟨.symbol ')', _⟩ :: rest => .ok (.tuple none, rest)
          | _ => do
              let ((values, comma), rest) ← readSeries fuel rest
              match rest, values with
              | ⟨.symbol ')', _⟩ :: rest, [value] =>
                  return (if comma then .tuple value.changing? else value, rest)
              | ⟨.symbol ')', _⟩ :: rest, values =>
                  return (.tuple (values.findSome? Value.changing?), rest)
              | _, _ => throw .unexpected
      | .symbol '\x7b' =>
          match rest with
          | ⟨.symbol '\x7d', _⟩ :: rest => .ok (.dictionary, rest)
          | _ => do
              let (_, behind) ← readSum fuel rest
              match behind with
              | ⟨.symbol ':', _⟩ :: _ => do
                  let (keys, rest) ← readPairs fuel rest
                  checkFixed keys
                  return (.dictionary, rest)
              | _ => do
                  let ((values, _), rest) ← readSeries fuel rest
                  match rest with
                  | ⟨.symbol '\x7d', _⟩ :: rest => do
                      checkFixed values
                      return (.set, rest)
                  | _ => throw .unexpected
      | .symbol _ => .error .unexpected

/-- A value, which may have a sign if it is a number, and an imaginary part if it is real. -/
def readSum : (fuel : Nat) → List Placed → Except Complaint (Value × List Placed)
  | 0, _ => .error .unexpected
  | fuel + 1, lexemes => do
      let (value, rest) ← readAtom fuel (if startsWithSign lexemes then lexemes.drop 1 else lexemes)
      if startsWithSign lexemes ∧ value ≠ .real ∧ value ≠ .imaginary then throw .unexpected
      if startsWithSign rest then
        match value, ← readAtom fuel (rest.drop 1) with
        | .real, (.imaginary, rest) => return (.imaginary, rest)
        | _, _ => throw .unexpected
      else return (value, rest)

/-- Values with commas between them, and whether there is a comma behind the last one. -/
def readSeries : (fuel : Nat) → List Placed → Except Complaint ((List Value × Bool) × List Placed)
  | 0, _ => .error .unexpected
  | fuel + 1, lexemes => do
      let (value, rest) ← readSum fuel lexemes
      match rest with
      | ⟨.symbol ',', _⟩ :: more =>
          if endsSeries more then return (([value], true), more)
          else do
            let ((values, comma), rest) ← readSeries fuel more
            return ((value :: values, comma), rest)
      | _ => return (([value], false), rest)

/-- Keys and values of a dictionary up to its closing brace. -/
def readPairs : (fuel : Nat) → List Placed → Except Complaint (List Value × List Placed)
  | 0, _ => .error .unexpected
  | fuel + 1, lexemes => do
      let (key, rest) ← readSum fuel lexemes
      match rest with
      | ⟨.symbol ':', _⟩ :: more =>
          match more with
          | ⟨.symbol '\x7d', _⟩ :: _ => throw .valueMissing
          | ⟨.symbol ',', _⟩ :: _ => throw .valueMissing
          | _ => do
              let (_, rest) ← readSum fuel more
              match rest with
              | ⟨.symbol '\x7d', _⟩ :: rest => return ([key], rest)
              | ⟨.symbol ',', _⟩ :: ⟨.symbol '\x7d', _⟩ :: rest => return ([key], rest)
              | ⟨.symbol ',', _⟩ :: more => do
                  let (keys, rest) ← readPairs fuel more
                  return (key :: keys, rest)
              | _ => throw .unexpected
      | ⟨.symbol '\x7d', _⟩ :: _ => throw .colonMissing
      | ⟨.symbol ',', _⟩ :: _ => throw .colonMissing
      | _ => throw .unexpected

end

/-- Whether some lexemes are a literal, or else why not. -/
def readAll (placed : List Placed) : Except Complaint Bool := do
  let (_, rest) ← readSeries (2 * placed.length + 2) placed
  return rest.all (·.lexeme = .symbol '\n')

/-! ### Complaints -/

/-- What is wrong with quotations that stand side by side. -/
def quotationComplaint? : List Placed → Option Complaint
  | ⟨.quoted bytes ascii, _⟩ :: rest =>
      if bytes ∧ !ascii then some .bytesBeyondAscii
      else
        match rest with
        | ⟨.quoted bytes' _, _⟩ :: _ =>
            if bytes' ≠ bytes then some .mixedQuotes else quotationComplaint? rest
        | _ => quotationComplaint? rest
  | _ :: rest => quotationComplaint? rest
  | [] => none

/-- What is wrong where a value comes after another one at once.  In brackets a comma is missing
between them, unless the first one is a mere name before a quotation.  The value may go on until
the text ends with brackets that are open. -/
def besideComplaint (opened : Brackets) (before : Placed) (rest : List Placed) : Complaint :=
  let inside := rest.takeWhile fun p =>
    before.depth ≤ p.depth ∧ !(p.depth = before.depth ∧ [',', ':'].any fun c => p.lexeme = .symbol c)
  let behind := (misplaced .value inside).2
  match opened, behind, rest.head? with
  | (bracket, _) :: _, [], some two =>
      if inside.length = rest.length then .unclosed bracket
      else if isPlainName before.lexeme ∧ isQuoted two.lexeme then .unexpected
      else if 0 < before.depth then .commaMissing
      else .unexpected
  | _, ⟨.symbol '\\', _⟩ :: _, _ => .strayBackslash
  | _, _, some two =>
      if isPlainName before.lexeme ∧ isQuoted two.lexeme then .unexpected
      else if 0 < before.depth then .commaMissing
      else .unexpected
  | _, _, none => .unexpected

/-- What is wrong with an equals sign behind some lexemes, the last one first.  It has to stand
behind the first value in brackets, or the first one after a comma. -/
def assignedComplaint : (before : List Placed) → Complaint
  | value :: ⟨.symbol c, _⟩ :: _ =>
      if 0 < value.depth ∧ ['(', ',', '\x7b'].contains c then
        match value.lexeme with
        | .name word => if isPlainName (.name word) then .assigned false else .unexpected
        | .number _ => .assigned true
        | .quoted _ _ => .assigned true
        | _ => .unexpected
      else .unexpected
  | _ => .unexpected

/-- What is wrong with lexemes that are no literal. -/
def lexemesComplaint (placed : List Placed) (opened : Brackets) : Complaint :=
  let (beside?, rest) := misplaced .value placed
  let before := placed.take (placed.length - rest.length)
  let beside := if beside?.isSome then rest.takeWhile fun p => isQuoted p.lexeme else []
  match quotationComplaint? before <|> quotationComplaint? beside with
  | some complaint => complaint
  | none =>
      match rest, opened with
      | [], (bracket, _) :: _ => .unclosed bracket
      | [], [] => .unexpected
      | ⟨.symbol '\\', _⟩ :: _, _ => .strayBackslash
      | ⟨.symbol '=', _⟩ :: more, opened =>
          match opened, misplaced .value more with
          | (bracket, _) :: _, (_, []) => .unclosed bracket
          | _, _ =>
              if more.head?.any fun value => startsValue value.lexeme then
                assignedComplaint before.reverse
              else .unexpected
      | rest, opened =>
          match beside? with
          | some before => besideComplaint opened before rest
          | none => .unexpected

/-- What is wrong with a text, if it is no literal. -/
def complaint? (cs : List Char) : Option Complaint :=
  if cs.contains '\x00' then some .nullCharacter
  else
    match lexemes cs with
    | .error complaint => some complaint
    | .ok (placed, opened) =>
        if opened.isEmpty then
          match readAll placed with
          | .ok true => none
          | .ok false => some (lexemesComplaint placed opened)
          | .error .unexpected => some (lexemesComplaint placed opened)
          | .error complaint => some complaint
        else some (lexemesComplaint placed opened)

end Abacus.Literal
