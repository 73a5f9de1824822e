/-
Module: Abacus.Display.Nesting
Purpose: Whether the tags of a text with markup can be made sense of.
Main exports: Markup.Tag, Markup.Fault, Markup.fault?, Markup.styleFault?
-/
import Abacus.Display.Markup
import Abacus.Display.Style
import Abacus.Literal
import Abacus.Text.Quoted

namespace Abacus.Display.Markup

open Text

/-!
A tag opens a style, or closes one if it starts with a slash.  What closes a style need not be the
tag of the style that was opened last, nor spell the style in the same way; a slash alone closes
whatever was opened last.  Styles that are still open at the end do no harm.

Behind an equals sign a tag has parameters.  Those of a style are further words of its name.  A
name that starts with `@` is that of a handler, whose parameters are a literal, or the name of what
handles it and maybe a literal in parentheses; they are looked at when the tag is closed.
-/

/-- What a tag does: it opens a style, closes a style, or closes the last one. -/
inductive Tag where
  | opening (style : List Char) (parameters : Option (List Char))
  | closing (style : List Char)
  | closingLast
deriving Repr, DecidableEq

/-- What a tag does, from its text with the brackets. -/
def Tag.ofText (text : List Char) : Tag :=
  let inside := (text.drop 1).dropLast
  match inside.takeWhile (· ≠ '=') with
  | '/' :: style => if (trim style).isEmpty then closingLast else closing (trim style)
  | style => opening style ((inside.dropWhile (· ≠ '=')).tail?)

/-- What is wrong with a tag: it closes nothing, at some place in the text, its parameters are no
literal, or its color cannot be read. -/
inductive Fault where
  | neverOpened (tag : List Char) (position : Nat)
  | nothingOpen (position : Nat)
  | parameters (all literal : List Char) (complaint : Literal.Complaint)
  | share (fault : ShareFault)
deriving Repr, DecidableEq

/-- What is said about such a tag. -/
def Fault.message : Fault → String
  | neverOpened tag position =>
      "closing tag '" ++ String.ofList tag ++ "' at position " ++ toString position ++
        " doesn't match any open tag"
  | nothingOpen position =>
      "closing tag '[/]' at position " ++ toString position ++ " has nothing to close"
  | parameters all literal complaint =>
      let place :=
        if complaint.isSyntactic then
          Quoted.literal (String.ofList literal) ++ " in " ++ Quoted.literal (String.ofList all)
        else Quoted.literal (String.ofList all)
      "error parsing " ++ place ++ "; " ++ complaint.message
  | share fault => fault.message

/-! ### Handlers -/

/-- The literal in the parameters of a handler: what comes behind a name, or else all of them. -/
def literalOf (parameters : List Char) : List Char :=
  let all := trim parameters
  let behind := all.dropWhile fun c => Literal.isWordChar c || c = '.'
  match behind with
  | [] => ['(', ')']
  | '(' :: rest =>
      if rest.getLast? = some ')' ∧ !rest.contains '\n' then behind else all
  | _ => all

/-- What is wrong with the parameters of a handler. -/
def parametersFault? (parameters : List Char) : Option Fault :=
  (Literal.complaint? (literalOf parameters)).map (.parameters parameters (literalOf parameters))

/-! ### Tags -/

/-- A style that is open: the one spelling of its name, and its parameters. -/
structure Opened where
  style : String
  parameters : Option (List Char)
deriving Repr, DecidableEq

namespace Opened

/-- What is wrong with a tag when it is closed. -/
def fault? (opened : Opened) : Option Fault :=
  match opened.style.toList, opened.parameters with
  | '@' :: _, some (c :: parameters) => parametersFault? (c :: parameters)
  | _, _ => none

/-- The name of the style with its parameters. -/
def fullName (opened : Opened) : List Char :=
  opened.style.toList ++ opened.parameters.elim [] (' ' :: ·)

end Opened

/-- The open style that a tag closes, and the styles that stay open. -/
def closes? (style : String) (open' : List Opened) : Option (Opened × List Opened) :=
  (open'.find? (·.style = style)).map fun found => (found, open'.eraseP (·.style = style))

/-- The first fault of some pieces, or else the styles that they open.  The pieces start at the
given place of the text, after a run of so many backslashes, and `stack` holds the styles that are
open, the last one first. -/
def nest (position slashes : Nat) (stack : List Opened) :
    List Piece → Except Fault (List Opened)
  | [] => .ok []
  | .plain c :: rest => nest (position + 1) (if c = '\\' then slashes + 1 else 0) stack rest
  | .tag text :: rest =>
      let behind := position + text.length
      let close : Option (Opened × List Opened) → Fault → Except Fault (List Opened)
        | some (found, stack), _ =>
            match found.fault? with
            | some fault => .error fault
            | none => nest behind 0 stack rest
        | none, fault => .error fault
      if slashes % 2 = 1 then nest behind 0 stack rest
      else
        match Tag.ofText text with
        | .opening name parameters => do
            let style ← (normalStyle name).mapError .share
            let opened : Opened := { style := style, parameters := parameters }
            return opened :: (← nest behind 0 (opened :: stack) rest)
        | .closing name => do
            let style ← (normalStyle name).mapError .share
            close (closes? style stack) (.neverOpened text position)
        | .closingLast =>
            close (stack.head?.map fun found => (found, stack.drop 1)) (.nothingOpen position)

/-- The first fault among the tags of a text with markup. -/
def fault? (markup : List Char) : Option Fault :=
  match nest 0 0 [] (pieces markup) with
  | .error fault => some fault
  | .ok _ => none

/-- The first color that cannot be read among the styles of a text with markup, their parameters
included.  This matters only where the text is put on the display. -/
def styleFault? (markup : List Char) : Option Fault :=
  match nest 0 0 [] (pieces markup) with
  | .error _ => none
  | .ok opened => opened.findSome? fun o =>
      match Style.ofName? o.fullName with
      | .error fault => some (.share fault)
      | .ok _ => none

end Abacus.Display.Markup
