/-
Module: Abacus.Literal.Lexeme
Purpose: Cutting the text of a literal into names, numerals, quotations and symbols.
Main exports: Literal.Lexeme, Literal.Placed, Literal.isWordChar, Literal.lexemes
-/
import Abacus.Literal.Complaint
import Abacus.Text.Cased
import Abacus.Text.Digit
import Abacus.Text.Lines

namespace Abacus.Literal

open Text

/-- The smallest parts of the text of a literal. -/
inductive Lexeme where
  | name (text : List Char)
  | number (imaginary : Bool)
  | quoted (bytes ascii : Bool)
  | ellipsis
  | symbol (c : Char)
deriving Repr, DecidableEq

/-- A part of a text, and the brackets that are open behind it, the last one first. -/
structure Placed where
  lexeme : Lexeme
  opened : List Char
deriving Repr, DecidableEq

/-- The number of brackets that are open behind a part of a text. -/
def Placed.depth (placed : Placed) : Nat :=
  placed.opened.length

/-! ### Characters -/

/-- Whether a name may hold the character. -/
def isWordChar (c : Char) : Bool :=
  c.isAlphanum || c = '_' || (128 ≤ c.toNat && (isCased c || isDigit c))

/-- Whether the character belongs to a name as far as its end is concerned: whatever is beyond
ASCII does. -/
def extendsName (c : Char) : Bool :=
  c.isAlphanum || c = '_' || 128 ≤ c.toNat

/-! ### Numerals -/

/-- What comes behind digits with single underscores between them.  A digit has to come next if it
is `due`. -/
def skipDigits? (isDigit : Char → Bool) (due : Bool) : List Char → Option (List Char)
  | [] => if due then none else some []
  | c :: cs =>
      if isDigit c then skipDigits? isDigit false cs
      else if due then none
      else if c = '_' then skipDigits? isDigit true cs
      else some (c :: cs)

/-- The words that may follow a numeral without a blank. -/
def followers : List String :=
  ["and", "else", "for", "if", "in", "is", "or", "not"]

/-- A numeral ends here, unless it runs into a name in ASCII letters. -/
def endNumber (kind : String) (imaginary : Bool) (rest : List Char) :
    Except Complaint (Lexeme × List Char) :=
  match rest with
  | c :: _ =>
      if (c.isAlphanum ∨ c = '_') ∧ !(followers.any fun word => word.toList.isPrefixOf rest) then
        .error (.badNumber kind)
      else .ok (.number imaginary, rest)
  | [] => .ok (.number imaginary, [])

/-- The end of a decimal numeral, where it may turn out to be imaginary. -/
def endDecimal : List Char → Except Complaint (Lexeme × List Char)
  | 'j' :: rest => endNumber "imaginary" true rest
  | 'J' :: rest => endNumber "imaginary" true rest
  | rest => endNumber "decimal" false rest

/-- What comes behind some digits of a decimal numeral, of which one may be due. -/
def skipDecimal (due : Bool) (rest : List Char) : Except Complaint (List Char) :=
  match skipDigits? Char.isDigit due rest with
  | some rest => .ok rest
  | none => .error (.badNumber "decimal")

/-- A decimal numeral from its exponent on, if it has one. -/
def endScientific (rest : List Char) : Except Complaint (Lexeme × List Char) :=
  match rest with
  | [] => endDecimal rest
  | e :: more =>
      if e = 'e' ∨ e = 'E' then
        match more with
        | c :: digits =>
            if c = '+' ∨ c = '-' then do endDecimal (← skipDecimal true digits)
            else if c.isDigit then do endDecimal (← skipDecimal true more)
            else endNumber "decimal" false rest
        | [] => endNumber "decimal" false rest
      else endDecimal rest

/-- A decimal numeral from its point on, if it has one. -/
def endFraction (rest : List Char) : Except Complaint (Lexeme × List Char) :=
  match rest with
  | '.' :: more =>
      match more with
      | c :: _ => if c.isDigit then do endScientific (← skipDecimal true more)
          else endScientific more
      | [] => endScientific []
  | rest => endScientific rest

/-- A numeral in another base, behind its mark. -/
def basedNumber (kind : String) (isDigit : Char → Bool) (rest : List Char) :
    Except Complaint (Lexeme × List Char) :=
  let rest := if rest.head? = some '_' then rest.drop 1 else rest
  match skipDigits? isDigit true rest with
  | some rest =>
      match rest with
      | c :: _ => if c.isDigit then .error (.badDigit c kind) else endNumber kind false rest
      | [] => endNumber kind false rest
  | none =>
      match rest.dropWhile fun c => isDigit c || c = '_' with
      | c :: _ => if c.isDigit then .error (.badDigit c kind) else .error (.badNumber kind)
      | [] => .error (.badNumber kind)

/-- A decimal numeral.  An integer that starts with a zero must be zero. -/
def decimalNumber (cs : List Char) : Except Complaint (Lexeme × List Char) := do
  let rest ← skipDecimal true cs
  let digits := cs.take (cs.length - rest.length)
  match rest with
  | c :: _ =>
      if ['.', 'e', 'E', 'j', 'J'].contains c then endFraction rest
      else if digits.head? = some '0' ∧ digits.any (fun d => d ≠ '0' ∧ d ≠ '_') then
        .error .leadingZeros
      else endNumber "decimal" false rest
  | [] =>
      if digits.head? = some '0' ∧ digits.any (fun d => d ≠ '0' ∧ d ≠ '_') then
        .error .leadingZeros
      else endNumber "decimal" false []

/-- A numeral. -/
def number (cs : List Char) : Except Complaint (Lexeme × List Char) :=
  match cs with
  | '.' :: _ => endFraction cs
  | '0' :: mark :: rest =>
      match mark.toLower with
      | 'x' => basedNumber "hexadecimal" (fun c => (hexValue? c).isSome) rest
      | 'o' => basedNumber "octal" (fun c => '0' ≤ c && c ≤ '7') rest
      | 'b' => basedNumber "binary" (fun c => c = '0' || c = '1') rest
      | _ => decimalNumber cs
  | cs => decimalNumber cs

/-! ### Quotations -/

/-- What comes behind a quotation, the line where that is, and whether all of the quotation is
ASCII.  `run` is the number of quotes since any other character. -/
def skipQuoted (quote : Char) (triple : Bool) (run line : Nat) (ascii : Bool) :
    List Char → Except Complaint (List Char × Nat × Bool)
  | [] => .error (.quoteOpen triple line)
  | '\\' :: c :: cs =>
      skipQuoted quote triple 0 (if c = '\n' then line + 1 else line)
        (ascii && c.toNat < 128) cs
  | c :: cs =>
      if c = quote then
        if !triple ∨ run = 2 then .ok (cs, line, ascii)
        else skipQuoted quote triple (run + 1) line ascii cs
      else if c = '\n' then
        if triple then skipQuoted quote triple 0 (line + 1) ascii cs
        else .error (.quoteOpen false line)
      else skipQuoted quote triple 0 line (ascii && c.toNat < 128) cs

/-- A quotation behind its first quote. -/
def quotation (quote : Char) (line : Nat) (cs : List Char) :
    Except Complaint (List Char × Nat × Bool) :=
  match cs with
  | c :: d :: rest =>
      if c = quote ∧ d = quote then skipQuoted quote true 0 line true rest
      else skipQuoted quote false 0 line true cs
  | cs => skipQuoted quote false 0 line true cs

/-- The letters that may stand before a quotation, in small letters, and whether they make it one
of bytes or one that is no literal. -/
def quotationMarks : List (String × Option Bool) :=
  [("", some false), ("u", some false), ("r", some false), ("b", some true), ("br", some true),
   ("rb", some true), ("f", none), ("fr", none), ("rf", none)]

/-! ### The whole text -/

/-- The bracket that a bracket closes. -/
def partner? (c : Char) : Option Char :=
  match c with
  | ')' => some '('
  | ']' => some '['
  | '}' => some '\x7b'
  | _ => none

/-- Whether the character is a bracket that opens. -/
def opens (c : Char) : Bool :=
  ['(', '[', '\x7b'].contains c

/-- Brackets that are open, the last one first, with their lines. -/
abbrev Brackets := List (Char × Nat)

/-- The lexemes of a text, and the brackets that are open at its end.  A backslash that does not
stand before a line end is the last one.  The fuel bounds the number of lexemes and blanks; one
more than the length of the text is enough. -/
def lexemesFrom : (fuel line : Nat) → Brackets → List Char →
    Except Complaint (List Placed × Brackets)
  | 0, _, opened, _ => .ok ([], opened)
  | _, _, opened, [] => .ok ([], opened)
  | fuel + 1, line, opened, c :: cs =>
      let yield (lexeme : Lexeme) (line : Nat) (rest : List Char) : _ := do
        let (more, opened') ← lexemesFrom fuel line opened rest
        return (({ lexeme := lexeme, opened := opened.map (·.1) } : Placed) :: more, opened')
      if c = ' ' ∨ c = '\t' ∨ c = '\x0c' then lexemesFrom fuel line opened cs
      else if c = '#' then lexemesFrom fuel line opened (cs.dropWhile (· ≠ '\n'))
      else if c = '\n' then
        if opened.isEmpty then yield (.symbol c) (line + 1) cs
        else lexemesFrom fuel (line + 1) opened cs
      else if c = '\\' then
        match cs with
        | '\n' :: rest => lexemesFrom fuel (line + 1) opened rest
        | _ => yield (.symbol c) line []
      else if c.isDigit ∨ (c = '.' ∧ (cs.head?.map Char.isDigit).getD false) then do
        let (lexeme, rest) ← number (c :: cs)
        yield lexeme line rest
      else if c = '\'' ∨ c = '"' ∨ extendsName c then
        let word := (c :: cs).takeWhile extendsName
        let rest := (c :: cs).dropWhile extendsName
        let marks := quotationMarks.lookup (String.ofList (word.map Char.toLower))
        match marks, rest with
        | some bytes?, quote :: rest =>
            if quote = '\'' ∨ quote = '"' then do
              let (rest, line', ascii) ← quotation quote line rest
              let lexeme := bytes?.elim (Lexeme.name word) fun bytes => .quoted bytes ascii
              yield lexeme line' rest
            else
              match word.find? fun d => !isWordChar d with
              | some d => .error (.badCharacter d)
              | none => yield (.name word) line (quote :: rest)
        | _, rest =>
            match word.find? fun d => !isWordChar d with
            | some d => .error (.badCharacter d)
            | none => yield (.name word) line rest
      else if c = '.' ∧ cs.take 2 = ['.', '.'] then yield .ellipsis line (cs.drop 2)
      else if opens c then do
        let opened' := (c, line) :: opened
        let (more, last) ← lexemesFrom fuel line opened' cs
        return ({ lexeme := .symbol c, opened := opened'.map (·.1) } :: more, last)
      else
        match partner? c with
        | some opening =>
            match opened with
            | [] => .error (.unopened c)
            | (bracket, openedOn) :: opened' =>
                if bracket = opening then do
                  let (more, last) ← lexemesFrom fuel line opened' cs
                  return ({ lexeme := .symbol c, opened := opened'.map (·.1) } :: more, last)
                else
                  .error (.crossed c bracket (if openedOn = line then none else some openedOn))
        | none =>
            if isPrintable c then yield (.symbol c) line cs else .error (.badCharacter c)

/-- The lexemes of a text, and the brackets that are open at its end. -/
def lexemes (cs : List Char) : Except Complaint (List Placed × Brackets) :=
  lexemesFrom (cs.length + 1) 1 [] (unifyLineEnds cs)

end Abacus.Literal
