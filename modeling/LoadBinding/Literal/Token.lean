import LoadBinding.Text.Quoted

/-!
# Tokens of the literal notation

A literal is written in a notation of expressions.  Its text is first divided into tokens: words,
numbers, strings and punctuation marks, and the line breaks and indentation between them as far as
they count.  `Scan` is the result: the tokens up to the end of the text, or up to the first place
that is no token.

Not every `ScanProblem` weighs the same.  One that is *deferred* (`ScanProblem.isDeferred`) is of
interest only to a reader that reaches it; any other spoils the text as a whole.
-/

namespace LoadBinding.Literal

open LoadBinding.Text

/-- The kinds of tokens. -/
inductive TokenKind
  /-- A name or a keyword. -/
  | word
  | number
  /-- A string with its quotes and the letters before them. -/
  | string
  /-- A punctuation mark. -/
  | mark
  /-- The end of a line. -/
  | newline
  /-- A line begins further to the right than the one before. -/
  | indent
  /-- A line begins further to the left. -/
  | dedent
  /-- The end of the text. -/
  | finish
  deriving DecidableEq, Repr

/-- A token: its text, the line on which it begins, and the number of brackets that are open
behind it. -/
structure Token where
  kind : TokenKind
  text : String
  line : Nat
  depth : Nat
  deriving DecidableEq, Repr

/-- A bracket that has been opened, and the line on which it stands. -/
structure Bracket where
  opening : Char
  line : Nat
  deriving DecidableEq, Repr

/-- The ways to write a number. -/
inductive NumberForm
  | hexadecimal
  | octal
  | binary
  | decimal
  | imaginary
  deriving DecidableEq, Repr

/-- The word for a form of numbers. -/
def NumberForm.word : NumberForm → String
  | hexadecimal => "hexadecimal"
  | octal => "octal"
  | binary => "binary"
  | decimal => "decimal"
  | imaginary => "imaginary"

/-- Why a text cannot be divided into tokens. -/
inductive ScanProblem
  /-- A text may not hold the character U+0000. -/
  | nullCharacter
  | invalidNumber (form : NumberForm)
  | invalidDigit (digit : Char) (form : NumberForm)
  /-- A decimal integer other than zero begins with a zero. -/
  | leadingZeros
  /-- A string, with one or three quotes at its ends, goes on to the end of the line or the text. -/
  | unterminated (isTriple : Bool) (line : Nat)
  /-- A closing bracket when none is open. -/
  | unmatched (closing : Char)
  /-- A closing bracket that is not the partner of the last opening one. -/
  | mismatched (closing : Char) (opening : Bracket) (line : Nat)
  | tooManyBrackets
  /-- A character that can stand in no name. -/
  | invalidCharacter (c : Char)
  /-- A character that is neither white space nor visible. -/
  | unprintable (c : Char)
  /-- A backslash is not the last character of its line. -/
  | afterContinuation
  /-- The text ends, and a bracket is still open. -/
  | neverClosed (opening : Char)
  /-- The text ends behind a backslash. -/
  | endsEarly
  /-- A line goes back to the left, but not to where an earlier one began. -/
  | unknownIndentation
  /-- The order of two indentations hangs on the width of a tab. -/
  | mixedIndentation
  | tooManyIndentations
  deriving DecidableEq, Repr

namespace ScanProblem

/-- The code of a character as it is written in a message. -/
def codePoint (c : Char) : String :=
  let width := if c.toNat < 0x10000 then 4 else if c.toNat < 0x100000 then 5 else 6
  "U+" ++ String.ofList ((hex width c.toNat).map Char.toUpper)

/-- What a message says about a text that cannot be divided into tokens. -/
def message : ScanProblem → String
  | nullCharacter => "source code string cannot contain null bytes"
  | invalidNumber form => s!"invalid {form.word} literal"
  | invalidDigit digit form => s!"invalid digit '{digit}' in {form.word} literal"
  | leadingZeros =>
    "leading zeros in decimal integer literals are not permitted; " ++
      "use an 0o prefix for octal integers"
  | unterminated isTriple line =>
    let quotes := if isTriple then "triple-quoted " else ""
    s!"unterminated {quotes}string literal (detected at line {line})"
  | unmatched closing => s!"unmatched '{closing}'"
  | mismatched closing opening line =>
    let place := if opening.line == line then "" else s!" on line {opening.line}"
    s!"closing parenthesis '{closing}' does not match opening parenthesis " ++
      s!"'{opening.opening}'" ++ place
  | tooManyBrackets => "too many nested parentheses"
  | invalidCharacter c => s!"invalid character '{c}' ({codePoint c})"
  | unprintable c => "invalid non-printable character " ++ codePoint c
  | afterContinuation => "unexpected character after line continuation character"
  | neverClosed opening => s!"'{opening}' was never closed"
  | endsEarly => "unexpected EOF while parsing"
  | unknownIndentation => "unindent does not match any outer indentation level"
  | mixedIndentation => "inconsistent use of tabs and spaces in indentation"
  | tooManyIndentations => "too many levels of indentation"

/-- Whether a problem concerns only a reader that comes to the place. -/
def isDeferred : ScanProblem → Bool
  | afterContinuation | neverClosed _ | endsEarly | unknownIndentation | mixedIndentation
  | tooManyIndentations => true
  | _ => false

end ScanProblem

/-- A text divided into tokens. -/
structure Scan where
  tokens : Array Token
  /-- Why there are no more tokens, if the text is not at its end. -/
  problem? : Option ScanProblem
  /-- The innermost bracket that is open behind the last token. -/
  unclosed? : Option Bracket
  /-- Whether the end of the text was seen when the last token was read, because a longer token
  could have begun like it. -/
  isEndSeen : Bool
  deriving Repr

end LoadBinding.Literal
