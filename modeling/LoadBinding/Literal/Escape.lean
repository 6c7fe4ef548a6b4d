import LoadBinding.Literal.Problem

/-!
# Escapes in strings

A backslash in a text stands for a character together with what follows it: a letter, up to three
octal digits, two, four or eight hexadecimal digits behind `x`, `u` or `U`, or a character's name
in braces behind `N`.  A backslash before anything else stands for itself.  `checkText` refuses the
escapes that stand for nothing, `checkBytes` does so for strings of bytes.

The positions that a refusal names count in the text as it is after `spellOut`, which writes every
character beyond ASCII, and a backslash before one, as an escape.
-/

namespace LoadBinding.Literal

open LoadBinding.Text

/-- A character written by its code in eight hexadecimal digits. -/
def wideEscape (c : Char) : List Char :=
  '\\' :: 'U' :: hex 8 c.toNat

/-- A backslash written by its code. -/
def backslashEscape : List Char :=
  ['\\', 'u', '0', '0', '5', 'c']

/-- Writes the characters beyond ASCII, and the backslashes before them or at the end, as
escapes. -/
def spellOut : List Char → List Char
  | [] => []
  | ['\\'] => backslashEscape
  | '\\' :: c :: cs =>
    if isBeyondAscii c then backslashEscape ++ wideEscape c ++ spellOut cs
    else '\\' :: c :: spellOut cs
  | c :: cs => if isBeyondAscii c then wideEscape c ++ spellOut cs else c :: spellOut cs

/-- Checks an escape of `length` hexadecimal digits behind the letter at `position + 1`. -/
def checkHex (position : Nat) (letter : Char) (length : Nat) (cs : List Char) :
    Except StringProblem Unit :=
  let digits := (cs.take length).takeWhile fun c => (hexValue? c).isSome
  let last := position + 1 + digits.length
  if digits.length < length then .error (.escape (.truncated letter length) position last)
  else if 0x10FFFF < (digits.filterMap hexValue?).foldl (fun n d => n * 16 + d) 0 then
    .error (.escape .noCharacter position last)
  else .ok ()

/-- Checks a character's name behind the letter at `position + 1`. -/
def checkCharacterName (isKnown : List Char → Bool) (position : Nat) (cs : List Char) :
    Except StringProblem Unit :=
  match cs with
  | '\x7b' :: cs =>
    let name := cs.takeWhile (· != '\x7d')
    let last := position + 2 + name.length
    if name.length == cs.length || name.isEmpty then
      .error (.escape .malformedName position last)
    else if isKnown name then .ok ()
    else .error (.escape .unknownName position (last + 1))
  | _ => .error (.escape .malformedName position (position + 1))

/-- Checks the escapes of a text from a position on. -/
def checkEscapes (isKnown : List Char → Bool) : (position : Nat) → List Char →
    Except StringProblem Unit
  | _, [] => .ok ()
  | position, '\\' :: c :: cs => do
    if c == 'x' then checkHex position c 2 cs
    else if c == 'u' then checkHex position c 4 cs
    else if c == 'U' then checkHex position c 8 cs
    else if c == 'N' then checkCharacterName isKnown position cs
    checkEscapes isKnown (position + 2) cs
  | position, _ :: cs => checkEscapes isKnown (position + 1) cs

/-- Checks the escapes of a text. -/
def checkText (isKnown : List Char → Bool) (cs : List Char) : Except StringProblem Unit :=
  checkEscapes isKnown 0 (spellOut cs)

/-- Checks the escapes of a string of bytes from a position on. -/
def checkBytes : (position : Nat) → List Char → Except StringProblem Unit
  | _, [] => .ok ()
  | position, '\\' :: c :: cs =>
    if c == 'x' && !((cs.take 2).length == 2 && (cs.take 2).all fun d => (hexValue? d).isSome) then
      .error (.byteEscape position)
    else checkBytes (position + 2) cs
  | position, _ :: cs => checkBytes (position + 1) cs

end LoadBinding.Literal
