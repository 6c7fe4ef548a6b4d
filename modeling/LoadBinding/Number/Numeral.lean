import LoadBinding.Text.Blank
import LoadBinding.Text.Digit
import LoadBinding.Text.Quoted
import LoadBinding.Text.Search

/-!
# Integers in texts

Two grammars of integers are read, both with optional white space around, one optional sign, and
single underscores allowed between the digits.

* An *entry* of an integer list may use the decimal digits of any script.
* A *property* uses the digits `0` to `9`, and may end in a point and one or more zeros.  It is read
  in its plain spelling (`readPlain`) after everything else has been taken off
  (`plainSpelling?`).  Behind a leading zero any number of zeros and underscores are passed over,
  and the number that follows may have a minus sign of its own.

A number of more than `maxDigits` digits is refused by both.
-/

namespace LoadBinding.Number

open LoadBinding.Text

/-- The most digits that an integer may have. -/
def maxDigits : Nat := 4300

/-- Why a text is no integer. -/
inductive NumeralError
  /-- The text does not have the form of an integer. -/
  | malformed (text : String)
  /-- The text has the form of an integer, of too many digits. -/
  | tooLong (digits : Nat)
  deriving DecidableEq, Repr

/-- The longest part of a quoted text that a message shows. -/
def quotedLimit : Nat := 200

/-- What a message says about a text that is no integer. -/
def NumeralError.message : NumeralError → String
  | .malformed text =>
    "invalid literal for int() with base 10: " ++
      String.ofList ((quoteChars text.toList).take quotedLimit)
  | .tooLong digits =>
    s!"Exceeds the limit ({maxDigits} digits) for integer string conversion: value has {digits} " ++
      "digits; use sys.set_int_max_str_digits() to increase the limit"

/-- Reads the digits at the front of a text, single underscores allowed between two of them, and
returns their values and what follows.  `pending` says that a digit must come next. -/
def takeDigits (digit? : Char → Option Nat) :
    (pending : Bool) → List Char → Option (List Nat × List Char)
  | pending, [] => if pending then none else some ([], [])
  | pending, c :: cs =>
    match digit? c with
    | some d => (takeDigits digit? false cs).map fun (ds, rest) => (d :: ds, rest)
    | none =>
      if pending then none
      else if c == '_' then takeDigits digit? true cs
      else some ([], c :: cs)

/-- Separates an optional sign from what follows it; `true` is the minus sign. -/
def takeSign : List Char → Bool × List Char
  | '-' :: cs => (true, cs)
  | '+' :: cs => (false, cs)
  | cs => (false, cs)

/-- The integer of a sign and a magnitude. -/
def signed (negative : Bool) (n : Nat) : Int :=
  if negative then -n else n

/-- Reads an entry of an integer list. -/
def readEntry (text : String) : Except NumeralError Int :=
  let (negative, cs) := takeSign (trim isSpace text.toList)
  match takeDigits digitValue? true cs with
  | none => .error (.malformed text)
  | some (digits, rest) =>
    if maxDigits < digits.length then .error (.tooLong digits.length)
    else if rest.isEmpty then .ok (signed negative (ofDigits digits))
    else .error (.malformed text)

/-! ## Properties -/

/-- Whether a text is a point followed by one or more zeros. -/
def isZeroFraction : List Char → Bool
  | '.' :: '0' :: zeros => zeros.all (· == '0')
  | _ => false

/-- Drops a fraction of zeros from the first point on; other texts are left as they are. -/
def dropZeroFraction (cs : List Char) : List Char :=
  if isZeroFraction (cs.dropWhile (· != '.')) then cs.takeWhile (· != '.') else cs

/-- Removes the underscores of a text that neither begins nor ends with one nor has two in a row;
other texts are left as they are. -/
def dropUnderscores (cs : List Char) : List Char :=
  let parts := splitOn '_' cs
  if parts.all fun part => !part.isEmpty then parts.flatten else cs

/-- Whether a character is one of the digits `1` to `9`. -/
def isSignificant (c : Char) : Bool :=
  '1' ≤ c && c ≤ '9'

/-- Reads an integer in its plain spelling: a minus sign or none, then a zero alone or digits that
do not begin with a zero.  The count of the digits is checked before what follows them. -/
def readPlain (cs : List Char) : Except NumeralError Int :=
  let negative := cs.head? == some '-'
  let magnitude := if negative then cs.tail else cs
  match magnitude with
  | ['0'] => .ok 0
  | c :: _ =>
    if !isSignificant c then .error (.malformed (String.ofList cs))
    else
      let digits := (magnitude.takeWhile fun c => (asciiDigit? c).isSome).filterMap asciiDigit?
      if maxDigits < digits.length then .error (.tooLong digits.length)
      else if digits.length == magnitude.length then .ok (signed negative (ofDigits digits))
      else .error (.malformed (String.ofList cs))
  | [] => .error (.malformed (String.ofList cs))

/-- Passes over zeros and underscores, of which `last` was the last, up to a digit, a minus sign, or
a point, which keeps the character before it.  A text without any of these is its last
character. -/
def skipZeros? (last : Char) : List Char → Option (List Char)
  | [] => some [last]
  | c :: cs =>
    if c == '0' || c == '_' then skipZeros? c cs
    else if isSignificant c || c == '-' then some (c :: cs)
    else if c == '.' then some (last :: c :: cs)
    else none

/-- Removes the zeros at the front of a text that begins with a digit. -/
def dropLeadingZeros? : List Char → Option (List Char)
  | [] => none
  | c :: cs =>
    if c == '0' then skipZeros? c cs
    else if isSignificant c then some (c :: cs)
    else none

/-- The plain spelling that a property is meant to have: without the space around it, without a
plus sign, leading zeros, a fraction of zeros, and underscores between the digits. -/
def plainSpelling? (cs : List Char) : Option (List Char) := do
  let (negative, magnitude) := takeSign (trim isSpace cs)
  let plain := dropUnderscores (dropZeroFraction (← dropLeadingZeros? magnitude))
  return if negative then '-' :: plain else plain

/-- Reads an integer property, as it stands or else by its plain spelling. -/
def readProperty (text : String) : Except NumeralError Int :=
  match readPlain text.toList with
  | .error (.malformed _) =>
    match (plainSpelling? text.toList).map readPlain with
    | some (.ok n) => .ok n
    | _ => .error (.malformed text)
  | read => read

/-! ## Lists of integers -/

/-- Reads a comma separated list of integers, one entry for each index.  A blank entry stands for
`missing`, and a blank text for no entries at all. -/
def readList (text : String) (missing : Int) : Except NumeralError (List Int) :=
  if isAllBlank text then .ok []
  else
    (splitOn ',' text.toList).mapM fun entry =>
      if entry.all isBlank then .ok missing else readEntry (String.ofList entry)

end LoadBinding.Number
