import LoadBinding.Text.Digit
import LoadBinding.Text.LetterTable
import LoadBinding.Text.Run

/-!
# Words and names

A word is made of letters, numbers of any kind, and underscores.  A name follows the stricter rule
of the Unicode standard for identifiers: it begins with a letter, a letter-like number or an
underscore (`isNameStart`), and goes on with these, decimal digits and marks (`isNamePart`).
-/

namespace LoadBinding.Text

/-- Whether a character is a letter of the Latin alphabet without any mark. -/
def isPlainLetter (c : Char) : Bool :=
  ('a' ≤ c && c ≤ 'z') || ('A' ≤ c && c ≤ 'Z')

/-- Whether a character is outside the range of ASCII. -/
def isBeyondAscii (c : Char) : Bool :=
  0x80 ≤ c.toNat

/-- Whether a character is a letter. -/
def isLetter (c : Char) : Bool :=
  isPlainLetter c || (isBeyondAscii c && inRuns letterRuns c)

/-- Whether a character may stand in a word. -/
def isWordPart (c : Char) : Bool :=
  c == '_' || isLetter c || (digitValue? c).isSome || (isBeyondAscii c && inRuns numberRuns c)

/-- Whether a character may begin a name. -/
def isNameStart (c : Char) : Bool :=
  (isLetter c && !inRuns innerLetterRuns c) || inRuns nameStartRuns c

/-- Whether a character may follow in a name. -/
def isNamePart (c : Char) : Bool :=
  isNameStart c || (digitValue? c).isSome || (isBeyondAscii c && inRuns markRuns c)

end LoadBinding.Text
