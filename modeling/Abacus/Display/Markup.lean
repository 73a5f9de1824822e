/-
Module: Abacus.Display.Markup
Purpose: Text with style tags in brackets: what of it is shown, and how to show a text literally.
Main exports: Markup.pieces, Markup.escape, Markup.render
-/

namespace Abacus.Display.Markup

/-!
A tag is a bracket, a lower-case letter or one of `#`, `/` and `@`, and whatever other than a
bracket comes before the closing bracket.  A tag styles and is not shown.  Backslashes directly
before a tag pair up, each pair showing one backslash; an odd one out makes the tag literal.
Before any other opening bracket a single backslash is dropped.  Colons are characters like any
other here: the name of an emoji between two of them is taken to be shown as it is written.

Both escaping and rendering first cut the text into tags and single characters, and then walk
over these pieces, counting backslashes.
-/

/-- A tag, brackets included, or any other character. -/
inductive Piece where
  | plain (c : Char)
  | tag (text : List Char)
deriving Repr, DecidableEq

/-- Whether a tag may start with the character. -/
def startsTag (c : Char) : Bool :=
  ('a' ≤ c ∧ c ≤ 'z') ∨ c = '#' ∨ c = '/' ∨ c = '@'

/-- The tag that a text starts with, if it does. -/
def tagAt? : List Char → Option (List Char)
  | '[' :: c :: cs =>
      if startsTag c then
        match cs.dropWhile (fun d => d ≠ '[' ∧ d ≠ ']') with
        | ']' :: _ => some ('[' :: c :: cs.takeWhile (fun d => d ≠ '[' ∧ d ≠ ']') ++ [']'])
        | _ => none
      else none
  | _ => none

/-- The pieces of a text of which the first `inside` characters belong to a piece already cut. -/
def piecesFrom : (inside : Nat) → List Char → List Piece
  | _, [] => []
  | inside + 1, _ :: cs => piecesFrom inside cs
  | 0, c :: cs =>
      match tagAt? (c :: cs) with
      | some tag => .tag tag :: piecesFrom (tag.length - 1) cs
      | none => .plain c :: piecesFrom 0 cs

/-- The pieces of a text, in order. -/
def pieces (cs : List Char) : List Piece :=
  piecesFrom 0 cs

/-! ### Escaping -/

/-- Pieces with every tag made literal, after a run of so many backslashes. -/
def escapePieces (slashes : Nat) : List Piece → List Char
  | [] => []
  | .plain c :: rest => c :: escapePieces (if c = '\\' then slashes + 1 else 0) rest
  | .tag text :: rest => List.replicate (slashes + 1) '\\' ++ text ++ escapePieces 0 rest

/-- A text that would end in a single backslash gets a second one, so that it cannot make a tag
after it literal. -/
def closeSlash (cs : List Char) : List Char :=
  match cs.reverse with
  | '\\' :: '\\' :: _ => cs
  | '\\' :: _ => cs ++ ['\\']
  | _ => cs

/-- The text written so that none of it acts as a tag. -/
def escape (cs : List Char) : List Char :=
  closeSlash (escapePieces 0 (pieces cs))

/-! ### Rendering -/

/-- A run of backslashes. -/
def backslashes (count : Nat) : List Char :=
  List.replicate count '\\'

/-- What is shown of pieces after a run of so many backslashes that is not shown yet. -/
def renderPieces (slashes : Nat) : List Piece → List Char
  | [] => backslashes slashes
  | .plain c :: rest =>
      if c = '\\' then renderPieces (slashes + 1) rest
      else if c = '[' then backslashes (slashes - 1) ++ c :: renderPieces 0 rest
      else backslashes slashes ++ c :: renderPieces 0 rest
  | .tag text :: rest =>
      backslashes (slashes / 2) ++ (if slashes % 2 = 1 then text else []) ++ renderPieces 0 rest

/-- What is shown of a text with markup.  Names of emoji in it are left alone. -/
def render (cs : List Char) : List Char :=
  renderPieces 0 (pieces cs)

end Abacus.Display.Markup
