import LoadBinding.Number.Double
import LoadBinding.Number.Numeral

/-!
# Real numbers in texts

A real number is written in decimal notation: an optional sign, digits with an optional point
before, between or after them, and an optional exponent.  `inf`, `infinity` and `nan` are read in
any case.  White space may surround the number, or else single underscores may stand inside it.  The
result is the double nearest to the number written.
-/

namespace LoadBinding.Number

open LoadBinding.Text

/-- The digits at the front of a text and what follows them. -/
def spanDigits (cs : List Char) : List Nat × List Char :=
  ((cs.takeWhile fun c => (asciiDigit? c).isSome).filterMap asciiDigit?,
    cs.dropWhile fun c => (asciiDigit? c).isSome)

/-- Reads an exponent, which is absent from an empty text. -/
def readExponent? : List Char → Option Int
  | [] => some 0
  | c :: cs =>
    if c == 'e' || c == 'E' then
      let (negative, cs) := takeSign cs
      match spanDigits cs with
      | ([], _) => none
      | (digits, []) => some (signed negative (ofDigits digits))
      | (_, _ :: _) => none
    else none

/-- Reads the digits, the point and the exponent of a number. -/
def readDecimal? (negative : Bool) (cs : List Char) : Option Float :=
  let (whole, rest) := spanDigits cs
  let (fraction, rest) :=
    match rest with
    | '.' :: rest => spanDigits rest
    | rest => ([], rest)
  if whole.isEmpty && fraction.isEmpty then none
  else
    (readExponent? rest).map fun exponent =>
      ofDecimal negative (ofDigits (whole ++ fraction)) (exponent - fraction.length)

/-- Reads a real number that has neither space around it nor underscores inside. -/
def readPlainReal? (cs : List Char) : Option Float :=
  let (negative, cs) := takeSign cs
  let word := String.ofList (cs.map Char.toLower)
  if word == "inf" || word == "infinity" then
    some (if negative then -(1.0 / 0.0) else 1.0 / 0.0)
  else if word == "nan" then some (0.0 / 0.0)
  else readDecimal? negative cs

/-- Reads a real number.  A text with underscores may have no space around it. -/
def readReal? (text : String) : Option Float :=
  readPlainReal? (trim isSpace text.toList) <|> readPlainReal? (dropUnderscores text.toList)

end LoadBinding.Number
