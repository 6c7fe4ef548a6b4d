import LoadBinding.Log.ColorName
import LoadBinding.Number.Numeral
import LoadBinding.Text.Lower

/-!
# Styles of a console

A style is defined by words: attributes such as `bold` or `not italic`, a colour for the letters, a
colour for the background after `on`, and a target after `link`.  A later word replaces an earlier
one of the same kind.  Many definitions stand for the same style; `Style.text` is the one that a
style is written as, and `normalForm` brings a definition into this form.
-/

namespace LoadBinding.Log

open LoadBinding.Text LoadBinding.Number

/-! ## Attributes -/

/-- What a style switches on or off. -/
inductive Attribute
  | bold
  | dim
  | italic
  | underline
  | blink
  | blink2
  | reverse
  | conceal
  | strike
  | underline2
  | frame
  | encircle
  | overline
  deriving DecidableEq, Repr

namespace Attribute

/-- All attributes, in the order in which a style is written. -/
def all : List Attribute :=
  [bold, dim, italic, underline, blink, blink2, reverse, conceal, strike, underline2, frame,
    encircle, overline]

/-- The word for an attribute. -/
def word : Attribute → String
  | bold => "bold"
  | dim => "dim"
  | italic => "italic"
  | underline => "underline"
  | blink => "blink"
  | blink2 => "blink2"
  | reverse => "reverse"
  | conceal => "conceal"
  | strike => "strike"
  | underline2 => "underline2"
  | frame => "frame"
  | encircle => "encircle"
  | overline => "overline"

/-- The short word for an attribute, if there is one. -/
def shortWord? : Attribute → Option String
  | bold => some "b"
  | dim => some "d"
  | italic => some "i"
  | underline => some "u"
  | reverse => some "r"
  | conceal => some "c"
  | strike => some "s"
  | underline2 => some "uu"
  | overline => some "o"
  | _ => none

/-- The attribute that a word stands for. -/
def ofWord? (w : String) : Option Attribute :=
  all.find? fun a => a.word == w || a.shortWord? == some w

end Attribute

/-! ## Colours -/

/-- What stands between the parentheses behind a name. -/
def argument? (name : String) (cs : List Char) : Option (List Char) :=
  let opening := name.toList ++ ['(']
  if opening.isPrefixOf cs && cs.getLast? == some ')' then some (cs.drop opening.length).dropLast
  else none

/-- Whether a text is a colour written by six hexadecimal digits behind `#`. -/
def isHexColor : List Char → Bool
  | '#' :: digits =>
    digits.length == 6 &&
      digits.all fun c => (asciiDigit? c).isSome || ('a' ≤ c && c ≤ 'f')
  | _ => false

/-- The greatest number of a colour of the palette, and the greatest share of a colour. -/
def maxShade : Nat := 255

/-- Whether a text is a colour of the palette, `color(n)`. -/
def isPaletteColor (cs : List Char) : Bool :=
  match argument? "color" cs with
  | some digits =>
    !digits.isEmpty && digits.length ≤ 3 && digits.all (fun c => (asciiDigit? c).isSome) &&
      ofDigits (digits.filterMap asciiDigit?) ≤ maxShade
  | none => false

/-- Whether a text is a mixed colour, `rgb(r,g,b)`.  Three shares are read as integers even when one
of them is empty, which is an error of its own. -/
def isMixedColor (cs : List Char) : Except NumeralError Bool :=
  match argument? "rgb" cs with
  | none => .ok false
  | some shares =>
    if shares.all fun c => (digitValue? c).isSome || c == ',' then
      match splitOn ',' shares with
      | [red, green, blue] => do
        let all ← [red, green, blue].mapM fun share => readEntry (String.ofList share)
        return all.all fun n => n ≤ maxShade
      | _ => .ok false
    else .ok false

/-- Whether a text in lower case is a colour. -/
def isColor (word : String) : Except NumeralError Bool :=
  if word == "default" || colorNames.contains word || isHexColor word.toList ||
      isPaletteColor word.toList then
    .ok true
  else isMixedColor word.toList

/-! ## Styles -/

/-- Why a text defines no style. -/
inductive StyleError
  /-- A word has no meaning where it stands. -/
  | unknownWord
  /-- A share of a mixed colour is no integer. -/
  | share (e : NumeralError)
  deriving DecidableEq, Repr

/-- A style.  Of two settings of an attribute the first counts. -/
structure Style where
  attributes : List (Attribute × Bool) := []
  color : Option String := none
  background : Option String := none
  link : Option String := none
  deriving DecidableEq, Repr

namespace Style

/-- Reads a colour in any case. -/
def readColor (word : String) : Except StyleError String :=
  match isColor (lower word) with
  | .ok true => .ok (lower word)
  | .ok false => .error .unknownWord
  | .error e => .error (.share e)

/-- Reads the words of a definition behind those that gave the style `s`. -/
def readWords (s : Style) : List String → Except StyleError Style
  | [] => .ok s
  | word :: rest =>
    match lower word, rest with
    | "on", color :: rest => do
      readWords { s with background := some (← readColor color) } rest
    | "not", word :: rest =>
      match Attribute.ofWord? word with
      | some a => readWords { s with attributes := (a, false) :: s.attributes } rest
      | none => .error .unknownWord
    | "link", target :: rest => readWords { s with link := some target } rest
    | word, rest =>
      if word == "on" || word == "not" || word == "link" then .error .unknownWord
      else
        match Attribute.ofWord? word with
        | some a => readWords { s with attributes := (a, true) :: s.attributes } rest
        | none => do readWords { s with color := some (← readColor word) } rest

/-- Reads a definition.  The style that changes nothing is `none`. -/
def read (definition : String) : Except StyleError Style :=
  if definition.isEmpty || strip definition == "none" then .ok {}
  else readWords {} ((words definition.toList).map String.ofList)

/-- The definition that a style is written as. -/
def text (s : Style) : String :=
  let attributes := Attribute.all.filterMap fun a =>
    (s.attributes.lookup a).map fun isOn => if isOn then a.word else "not " ++ a.word
  let parts :=
    attributes ++ s.color.toList ++ (s.background.toList.flatMap fun color => ["on", color]) ++
      s.link.toList.flatMap fun target => ["link", target]
  if parts.isEmpty then "none" else " ".intercalate parts

/-- The normal form of a definition; of other texts, the text in lower case. -/
def normalForm (definition : String) : Except NumeralError String :=
  match read definition with
  | .ok s => .ok s.text
  | .error .unknownWord => .ok (lower (strip definition))
  | .error (.share e) => .error e

end Style

end LoadBinding.Log
