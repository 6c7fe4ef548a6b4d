import LoadBinding.Literal.Token
import LoadBinding.Text.Word

/-!
# Numbers of the literal notation

A number is decimal, with or without a fraction and an exponent, and imaginary when a `j` follows;
or it is an integer in another base behind `0x`, `0o` or `0b`.  Single underscores may stand between
the digits.  No word may follow at once, except those that can stand between two expressions.

`numberEnd?` finds where a number ends, and `numberValue` is what it stands for.
-/

namespace LoadBinding.Literal

open LoadBinding.Text

/-- Whether a character looks like a part of a name; beyond ASCII everything does. -/
def mayBeName (c : Char) : Bool :=
  c == '_' || isPlainLetter c || (asciiDigit? c).isSome || isBeyondAscii c

/-- Whether a character is one of the digits `0` to `9`. -/
def isDigit (c : Char) : Bool :=
  (asciiDigit? c).isSome

/-- The value of a hexadecimal digit. -/
def hexValue? (c : Char) : Option Nat :=
  match asciiDigit? c with
  | some d => some d
  | none =>
    let n := c.toLower.toNat
    if 97 ≤ n && n ≤ 102 then some (n - 87) else none

namespace NumberForm

/-- The base of a form of integers. -/
def base : NumberForm → Nat
  | hexadecimal => 16
  | octal => 8
  | binary => 2
  | decimal | imaginary => 10

/-- The form that a letter behind a zero announces. -/
def ofLetter? (c : Char) : Option NumberForm :=
  if c == 'x' || c == 'X' then some hexadecimal
  else if c == 'o' || c == 'O' then some octal
  else if c == 'b' || c == 'B' then some binary
  else none

/-- Whether a character is a digit of a form of integers. -/
def hasDigit (form : NumberForm) (c : Char) : Bool :=
  (hexValue? c).any fun d => d < form.base

end NumberForm

/-- The words that may follow a number at once, if nothing of a name follows them. -/
def wordsBehindNumber : List String :=
  ["and", "else", "for", "or", "not"]

/-- Whether a text begins with a word that may follow a number at once. -/
def continuesBehindNumber : List Char → Bool
  | 'i' :: c :: _ => c == 'f' || c == 'n' || c == 's'
  | cs =>
    wordsBehindNumber.any fun word =>
      word.toList.isPrefixOf cs && !(cs.drop word.length).head?.any mayBeName

/-- Ends a number before a text, unless a name of ASCII characters follows at once. -/
def endNumber (form : NumberForm) (cs : List Char) : Except ScanProblem (List Char) :=
  if (cs.head?.any fun c => mayBeName c && !isBeyondAscii c) && !continuesBehindNumber cs then
    .error (.invalidNumber form)
  else .ok cs

/-- Passes over decimal digits, after at least one of them. -/
def decimalTail : List Char → Except ScanProblem (List Char)
  | [] => .ok []
  | ['_'] => .error (.invalidNumber .decimal)
  | '_' :: d :: cs => if isDigit d then decimalTail cs else .error (.invalidNumber .decimal)
  | c :: cs => if isDigit c then decimalTail cs else .ok (c :: cs)

/-- Passes over the digits of an integer in another base; `isNeeded` says that a digit must come
next. -/
def basedTail (form : NumberForm) : (isNeeded : Bool) → List Char → Except ScanProblem (List Char)
  | true, [] => .error (.invalidNumber form)
  | false, [] => .ok []
  | isNeeded, c :: cs =>
    if form.hasDigit c then basedTail form false cs
    else if !isNeeded && c == '_' then basedTail form true cs
    else if isDigit c then .error (.invalidDigit c form)
    else if isNeeded then .error (.invalidNumber form)
    else .ok (c :: cs)

/-- Passes over zeros, after at least one of them; a digit other than zero may follow. -/
def zerosTail : List Char → Except ScanProblem (List Char)
  | [] => .ok []
  | ['_'] => .error (.invalidNumber .decimal)
  | '_' :: c :: cs =>
    if c == '0' then zerosTail cs
    else if isDigit c then .ok (c :: cs)
    else .error (.invalidNumber .decimal)
  | c :: cs => if c == '0' then zerosTail cs else .ok (c :: cs)

/-- Whether a text begins with a letter, small or capital. -/
def beginsWithLetter (letter : Char) (cs : List Char) : Bool :=
  cs.head?.any fun c => c.toLower == letter

/-- What follows behind the digits and the exponent of a decimal number. -/
def behindExponent (cs : List Char) : Except ScanProblem (List Char) :=
  if beginsWithLetter 'j' cs then endNumber .imaginary (cs.drop 1) else endNumber .decimal cs

/-- What follows behind the digits of a decimal number.  An `e` without digits is the beginning of a
word. -/
def behindFraction (cs : List Char) : Except ScanProblem (List Char) :=
  if beginsWithLetter 'e' cs then
    match cs.drop 1 with
    | c :: rest =>
      if c == '+' || c == '-' then
        if rest.head?.any isDigit then do behindExponent (← decimalTail rest)
        else .error (.invalidNumber .decimal)
      else if isDigit c then do behindExponent (← decimalTail (c :: rest))
      else endNumber .decimal cs
    | [] => endNumber .decimal cs
  else behindExponent cs

/-- What follows behind the point of a decimal number. -/
def behindPoint (cs : List Char) : Except ScanProblem (List Char) := do
  behindFraction (← if cs.head?.any isDigit then decimalTail cs else .ok cs)

/-- What follows behind a number that begins with the zero before a text. -/
def behindZero (cs : List Char) : Except ScanProblem (List Char) := do
  match cs.head?.bind NumberForm.ofLetter? with
  | some form =>
    let digits := cs.drop 1
    let digits := if digits.head? == some '_' then digits.drop 1 else digits
    endNumber form (← basedTail form true digits)
  | none =>
    let rest ← zerosTail cs
    let hasMore := rest.head?.any isDigit
    let rest ← if hasMore then decimalTail rest else .ok rest
    match rest with
    | '.' :: rest => behindPoint rest
    | rest =>
      if beginsWithLetter 'e' rest then behindFraction rest
      else if beginsWithLetter 'j' rest then behindExponent rest
      else if hasMore then .error .leadingZeros
      else endNumber .decimal rest

/-- What follows behind the number at the front of a text, if there is a number. -/
def numberEnd? : List Char → Option (Except ScanProblem (List Char))
  | '.' :: d :: cs => if isDigit d then some (behindPoint (d :: cs)) else none
  | '0' :: cs => some (behindZero cs)
  | d :: cs =>
    if isDigit d then
      some do
        match ← decimalTail cs with
        | '.' :: rest => behindPoint rest
        | rest => behindFraction rest
    else none
  | [] => none

/-- What a number stands for.  Of a real or an imaginary number only the kind matters. -/
inductive NumberValue
  | integer (n : Nat)
  | real
  | imaginary
  deriving DecidableEq, Repr

/-- The value of a number, given by its text, or the number of its digits when there are too many of
them. -/
def numberValue (maxDigits : Nat) (cs : List Char) : Except Nat NumberValue :=
  let cs := cs.filter (· != '_')
  match cs with
  | ['0'] => .ok (.integer 0)
  | '0' :: c :: digits =>
    match NumberForm.ofLetter? c with
    | some form =>
      .ok (.integer ((digits.filterMap hexValue?).foldl (fun n d => n * form.base + d) 0))
    | none =>
      if (c :: digits).getLast?.any fun d => d.toLower == 'j' then .ok .imaginary
      else if (c :: digits).all (· == '0') then .ok (.integer 0)
      else .ok .real
  | cs =>
    if cs.getLast?.any fun d => d.toLower == 'j' then .ok .imaginary
    else if !cs.all isDigit then .ok .real
    else if maxDigits < cs.length then .error cs.length
    else .ok (.integer (ofDigits (cs.filterMap asciiDigit?)))

end LoadBinding.Literal
