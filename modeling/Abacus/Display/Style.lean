/-
Module: Abacus.Display.Style
Purpose: Styles as tags name them, and the one spelling of all names of the same style.
Main exports: Style, Style.ofName?, Style.text, normalStyle
-/
import Abacus.Display.Color
import Abacus.Text.Blank
import Abacus.Text.LetterCase

namespace Abacus.Display

open Text

/-!
The name of a style is a row of words: attributes such as `bold`, each of which `not` may precede,
a color, `on` and the color of the background, and `link` with what it leads to.  A later word
takes the place of an earlier one of the same kind, so a style has many names.
-/

/-- The ways in which a style may change the look of a text, apart from its colors. -/
inductive Attribute where
  | bold
  | dim
  | italic
  | underline
  | blink
  | blinkFast
  | reverse
  | conceal
  | strike
  | underlineTwice
  | frame
  | encircle
  | overline
deriving Repr, DecidableEq

namespace Attribute

/-- All attributes, in the order in which they are named. -/
def all : List Attribute :=
  [bold, dim, italic, underline, blink, blinkFast, reverse, conceal, strike, underlineTwice, frame,
   encircle, overline]

/-- The name of an attribute. -/
def name : Attribute → String
  | bold => "bold"
  | dim => "dim"
  | italic => "italic"
  | underline => "underline"
  | blink => "blink"
  | blinkFast => "blink2"
  | reverse => "reverse"
  | conceal => "conceal"
  | strike => "strike"
  | underlineTwice => "underline2"
  | frame => "frame"
  | encircle => "encircle"
  | overline => "overline"

/-- The short name of an attribute, if it has one. -/
def shortName? : Attribute → Option String
  | bold => some "b"
  | dim => some "d"
  | italic => some "i"
  | underline => some "u"
  | reverse => some "r"
  | conceal => some "c"
  | strike => some "s"
  | underlineTwice => some "uu"
  | overline => some "o"
  | _ => none

/-- The attribute that a word names. -/
def ofWord? (word : List Char) : Option Attribute :=
  all.find? fun a => a.name = String.ofList word ∨ a.shortName? = some (String.ofList word)

end Attribute

/-- What a name says about a style.  The attributes that it switches on or off have the last one
first. -/
structure Style where
  attributes : List (Attribute × Bool) := []
  color : Option (List Char) := none
  background : Option (List Char) := none
  link : Option (List Char) := none
deriving Repr, DecidableEq

namespace Style

/-- The style that some words make of another one, unless there are words among them that name
nothing.  Words are read in small letters, but for the attribute after `not` and the end of a
link. -/
def ofWords? (style : Style) : List (List Char) → Except ShareFault (Option Style)
  | [] => .ok (some style)
  | word :: rest =>
      match String.ofList (lower word), rest with
      | "on", color :: rest => do
          if ← isColor (lower color) then
            ofWords? { style with background := some (lower color) } rest
          else return none
      | "on", [] => .ok none
      | "not", word :: rest =>
          match Attribute.ofWord? word with
          | some a => ofWords? { style with attributes := (a, false) :: style.attributes } rest
          | none => .ok none
      | "not", [] => .ok none
      | "link", target :: rest => ofWords? { style with link := some target } rest
      | "link", [] => .ok none
      | _, rest =>
          match Attribute.ofWord? (lower word) with
          | some a => ofWords? { style with attributes := (a, true) :: style.attributes } rest
          | none => do
              if ← isColor (lower word) then
                ofWords? { style with color := some (lower word) } rest
              else return none

/-- The style that a name names, if it names one. -/
def ofName? (name : List Char) : Except ShareFault (Option Style) :=
  ofWords? {} (words name)

/-- The words for an attribute, if a style says anything about it. -/
def attributeWords (style : Style) (a : Attribute) : List String :=
  match style.attributes.lookup a with
  | some true => [a.name]
  | some false => ["not", a.name]
  | none => []

/-- The words that name a style, in a fixed order. -/
def toWords (style : Style) : List String :=
  Attribute.all.flatMap style.attributeWords ++
    (style.color.elim [] fun color => [String.ofList color]) ++
    (style.background.elim [] fun color => ["on", String.ofList color]) ++
    style.link.elim [] fun target => ["link", String.ofList target]

/-- The name of a style, the same for all names that say the same. -/
def text (style : Style) : String :=
  match style.toWords with
  | [] => "none"
  | words => " ".intercalate words

end Style

/-- The one spelling of the name of a style.  A name that says nothing about any style is taken as
it is, in small letters. -/
def normalStyle (name : List Char) : Except ShareFault String := do
  match ← Style.ofName? name with
  | some style => return style.text
  | none => return String.ofList (lower (trim name))

end Abacus.Display
