import LoadBinding.Literal.Template

/-!
# Strings

A string has letters before its quotes that say what it is: bytes (`b`), a template (`f`), or a
text; behind an `r` backslashes stand for themselves.  Strings that follow one another are one
value, and either all of them are bytes or none is.
-/

namespace LoadBinding.Literal

open LoadBinding.Text

/-- A string, taken apart. -/
structure Quoted where
  marks : List Char
  content : List Char
  /-- The line on which the content begins. -/
  line : Nat
  deriving DecidableEq, Repr

namespace Quoted

/-- Takes a string apart. -/
def ofToken (text : String) (line : Nat) : Quoted :=
  let cs := text.toList
  let marks := cs.takeWhile fun c => !isQuote c
  let quoted := cs.drop marks.length
  let quote := quoted.take 1
  let size := if 6 ≤ quoted.length && quoted.take 3 == quote ++ quote ++ quote then 3 else 1
  ⟨marks.map Char.toLower, (quoted.drop size).take (quoted.length - 2 * size), line⟩

/-- Whether a string is one of bytes. -/
def isBytes (q : Quoted) : Bool := q.marks.contains 'b'

/-- Whether a string is a template. -/
def isTemplate (q : Quoted) : Bool := q.marks.contains 'f'

/-- Whether backslashes stand for themselves. -/
def isRaw (q : Quoted) : Bool := q.marks.contains 'r'

/-- The kind of value that a string is. -/
def kind (q : Quoted) : Kind :=
  if q.isBytes then .bytes else if q.isTemplate then .template else .text

/-- Checks the content of a string that is no template. -/
def checkPlain (check : List Char → Except StringProblem Unit) (q : Quoted) :
    Except StringProblem Unit :=
  if q.isBytes && q.content.any isBeyondAscii then .error .bytesBeyondAscii
  else if q.isRaw then .ok ()
  else if q.isBytes then checkBytes 0 q.content
  else check q.content

end Quoted

/-- Reads the strings that follow those of the kind `before?` as one value, and returns its kind. -/
def joinBehind (readEmbedded : (line : Nat) → List Char → Except Problem Unit)
    (check : List Char → Except StringProblem Unit) : (before? : Option Kind) → List Quoted →
    Except Problem Kind
  | before?, [] => .ok (before?.getD .text)
  | before?, q :: qs => do
    if !q.isTemplate then (q.checkPlain check).mapError Problem.string
    if before?.any fun before => (before == .bytes) != q.isBytes then throw (.string .mixed)
    if q.isTemplate then readTemplate readEmbedded check q.isRaw q.line q.content
    joinBehind readEmbedded check
      (some (if before? == some .template then .template else q.kind)) qs

/-- Reads adjacent strings, each given by its text and its line, as one value. -/
def joinStrings (readEmbedded : (line : Nat) → List Char → Except Problem Unit)
    (check : List Char → Except StringProblem Unit) (strings : List (String × Nat)) :
    Except Problem Kind :=
  joinBehind readEmbedded check none (strings.map fun (text, line) => .ofToken text line)

end LoadBinding.Literal
