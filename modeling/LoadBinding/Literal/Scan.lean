import LoadBinding.Literal.Number
import LoadBinding.Text.Printable

/-!
# Dividing a text into tokens

`scan` reads tokens one after the other.  Between brackets, line breaks and indentation do not
count.  Elsewhere a line that is not blank is compared with the lines before it: a line further to
the right opens an indentation, a line further to the left closes one or more, and what is further
right may not hang on the width of a tab.  A backslash at the end of a line joins the next line to
it, and a `#` begins a comment.
-/

namespace LoadBinding.Literal

open LoadBinding.Text

/-- The width of a line's beginning, with tabs of two widths. -/
structure Indentation where
  wide : Nat
  narrow : Nat
  deriving DecidableEq, Repr

/-- The place that a scan has come to. -/
structure Place where
  rest : List Char
  /-- The number of the line on which `rest` begins, if there is a rest. -/
  line : Nat
  /-- Whether a line begins here. -/
  isLineStart : Bool := true
  /-- Whether nothing on this line counts so far. -/
  isBlank : Bool := false
  /-- Whether a token ends here that might have gone on. -/
  isBehindToken : Bool := false
  /-- The open brackets, the innermost first. -/
  brackets : List Bracket := []
  /-- The indentations that are open, the innermost first. -/
  indentations : List Indentation := []
  deriving Repr

namespace Place

/-- The indentation that is in force. -/
def indentation (p : Place) : Indentation :=
  p.indentations.headD ⟨0, 0⟩

/-- A token that begins here. -/
def token (p : Place) (kind : TokenKind) (text : List Char) : Token :=
  ⟨kind, String.ofList text, p.line, p.brackets.length⟩

end Place

/-! ## The beginning of a line -/

/-- The distance between two places at which a wide tab ends. -/
def tabWidth : Nat := 8

/-- The most indentations that may be open. -/
def maxIndentations : Nat := 99

/-- The most brackets that may be open. -/
def maxBrackets : Nat := 200

/-- Measures the white space at the beginning of a line, and returns the first width that was joined
to another line, the text behind, and the number of line breaks in between. -/
def measure (width : Indentation) (joined : Nat) (breaks : Nat) :
    List Char → Except ScanProblem (Indentation × Nat × List Char × Nat)
  | ' ' :: cs => measure ⟨width.wide + 1, width.narrow + 1⟩ joined breaks cs
  | '\t' :: cs =>
    measure ⟨(width.wide / tabWidth + 1) * tabWidth, width.narrow + 1⟩ joined breaks cs
  | '\x0c' :: cs => measure ⟨0, 0⟩ joined breaks cs
  | '\\' :: '\n' :: c :: cs =>
    measure width (if joined == 0 then width.wide else joined) (breaks + 1) (c :: cs)
  | ['\\', '\n'] => .error .endsEarly
  | '\\' :: _ => .error .afterContinuation
  | cs => .ok (width, joined, cs, breaks)

/-- Closes the indentations further to the right than `width`, and says how many they were. -/
def closeIndentations (width : Indentation) : List Indentation → List Indentation × Nat
  | [] => ([], 0)
  | i :: is =>
    if width.wide < i.wide then
      let (left, closed) := closeIndentations width is
      (left, closed + 1)
    else (i :: is, 0)

/-- Compares the beginning of a line with the lines before it. -/
def indent (p : Place) (width : Indentation) : Except ScanProblem (Place × List TokenKind) :=
  if width.wide == p.indentation.wide then
    if width.narrow == p.indentation.narrow then .ok (p, []) else .error .mixedIndentation
  else if p.indentation.wide < width.wide then
    if maxIndentations ≤ p.indentations.length then .error .tooManyIndentations
    else if width.narrow ≤ p.indentation.narrow then .error .mixedIndentation
    else .ok ({ p with indentations := width :: p.indentations }, [.indent])
  else
    let (left, closed) := closeIndentations width p.indentations
    let p := { p with indentations := left }
    if width.wide != p.indentation.wide then .error .unknownIndentation
    else if width.narrow != p.indentation.narrow then .error .mixedIndentation
    else .ok (p, List.replicate closed .dedent)

/-- Passes over the beginning of a line. -/
def beginLine (p : Place) : Except ScanProblem (Place × List Token) := do
  let (width, joined, rest, breaks) ← measure ⟨0, 0⟩ 0 0 p.rest
  let isBlank := rest.head?.any fun c => c == '#' || c == '\n'
  let q := { p with rest, isBlank, isLineStart := false, line := p.line + breaks }
  if isBlank || !p.brackets.isEmpty then return (q, [])
  else
    let (q, kinds) ← indent q (if joined == 0 then width else ⟨joined, joined⟩)
    return (q, kinds.map fun kind => q.token kind [])

/-! ## Strings -/

/-- The letters that may stand before a string, in lower case. -/
def stringMarks : List String :=
  ["", "b", "r", "u", "f", "br", "rb", "fr", "rf"]

/-- Whether a character can begin and end a string. -/
def isQuote (c : Char) : Bool :=
  c == '\'' || c == '"'

/-- The number of letters before the quote of the string at the front of a text, if there is a
string. -/
def stringMark? (cs : List Char) : Option Nat :=
  let letters := (cs.take 2).takeWhile fun c => !isQuote c
  if (cs.drop letters.length).head?.any isQuote &&
      stringMarks.contains (String.ofList (letters.map Char.toLower)) then
    some letters.length
  else none

/-- Finds the end of a string that ends in `size` quotes, of which the last `run` have been read,
and counts the line breaks.  `isFresh` says that the last character was a line break; without an
end, the answer is the number of line breaks up to the last line. -/
def stringEnd (quote : Char) (size : Nat) :
    (run breaks : Nat) → (isFresh : Bool) → List Char → Except Nat (List Char × Nat)
  | _, breaks, isFresh, [] => .error (if isFresh then breaks - 1 else breaks)
  | _, breaks, _, ['\\'] => .error breaks
  | _, breaks, _, '\\' :: c :: cs =>
    if c == '\n' then stringEnd quote size 0 (breaks + 1) true cs
    else stringEnd quote size 0 breaks false cs
  | run, breaks, _, c :: cs =>
    if c == quote then
      if run + 1 == size then .ok (cs, breaks) else stringEnd quote size (run + 1) breaks false cs
    else if c == '\n' then
      if size == 1 then .error breaks else stringEnd quote size 0 (breaks + 1) true cs
    else stringEnd quote size 0 breaks false cs

/-- The text behind a string, given by what follows its first quote, and the line breaks in the
string. -/
def behindString (line : Nat) (quote : Char) (cs : List Char) :
    Except ScanProblem (List Char × Nat) :=
  let isTriple := cs.take 2 == [quote, quote]
  let found :=
    if isTriple then stringEnd quote 3 0 0 false (cs.drop 2) else stringEnd quote 1 0 0 false cs
  found.mapError fun breaks => .unterminated isTriple (line + breaks)

/-! ## Words -/

/-- Checks that a word is a name. -/
def checkName (name : List Char) : Except ScanProblem Unit :=
  let front := name.take 1
  match (front.find? fun c => !isNameStart c) <|> (name.drop 1).find? fun c => !isNamePart c with
  | none => .ok ()
  | some c => .error (if isPrintable c then .invalidCharacter c else .unprintable c)

/-! ## Punctuation -/

/-- The punctuation marks of more than one character, the longest first. -/
def longMarks : List String :=
  ["**=", "//=", "<<=", ">>=", "...", "!=", "<>", "<<", "<=", "==", ">=", ">>", "->", ":=", "+=",
    "-=", "*=", "**", "//", "/=", "%=", "&=", "|=", "^=", "@="]

/-- The bracket that a closing one is the partner of. -/
def partner? (c : Char) : Option Char :=
  if c == ')' then some '('
  else if c == ']' then some '['
  else if c == '}' then some '{'
  else none

/-- Opens or closes the bracket `c`; other characters leave the brackets as they are. -/
def bracket (line : Nat) (brackets : List Bracket) (c : Char) :
    Except ScanProblem (List Bracket) :=
  if c == '(' || c == '[' || c == '{' then
    if maxBrackets ≤ brackets.length then .error .tooManyBrackets
    else .ok (⟨c, line⟩ :: brackets)
  else
    match partner? c, brackets with
    | none, _ => .ok brackets
    | some _, [] => .error (.unmatched c)
    | some opening, b :: brackets =>
      if b.opening == opening then .ok brackets else .error (.mismatched c b line)

/-! ## Tokens -/

/-- Whether a character separates tokens. -/
def isGap (c : Char) : Bool :=
  c == ' ' || c == '\t' || c == '\x0c'

/-- The token at the front of a text that begins with `c`, which is no gap, line break, comment or
backslash. -/
def takeToken (p : Place) (c : Char) (cs : List Char) : Except ScanProblem (Place × Token) :=
  let all := c :: cs
  let textBefore (rest : List Char) := all.take (all.length - rest.length)
  match stringMark? all with
  | some letters => do
    let (rest, breaks) ← behindString p.line (all.getD letters c) (all.drop (letters + 1))
    let q := { p with rest, line := p.line + breaks, isBehindToken := false }
    return (q, p.token .string (textBefore rest))
  | none =>
    match numberEnd? all with
    | some found => do
      let rest ← found
      return ({ p with rest, isBehindToken := true }, p.token .number (textBefore rest))
    | none =>
      if mayBeName c then do
        let name := all.takeWhile mayBeName
        if name.any isBeyondAscii then checkName name
        let q := { p with rest := all.drop name.length, isBehindToken := true }
        return (q, p.token .word name)
      else
        match longMarks.find? fun mark => mark.toList.isPrefixOf all with
        | some mark =>
          let q := { p with rest := all.drop mark.length, isBehindToken := mark.length < 3 }
          .ok (q, p.token .mark mark.toList)
        | none => do
          let brackets ← bracket p.line p.brackets c
          if !isPrintable c then .error (.unprintable c)
          else
            let q := { p with rest := cs, brackets, isBehindToken := true }
            return (q, q.token .mark [c])

/-- The next tokens of a text, and the place behind them; no place if the text is at its end.  There
need not be a token where something is passed over. -/
def step (p : Place) : Except ScanProblem (Option Place × List Token) :=
  if p.isLineStart then do
    let (q, tokens) ← beginLine p
    return (some q, tokens)
  else
    match p.rest.dropWhile isGap with
    | [] => if p.brackets.isEmpty then .ok (none, [p.token .finish []]) else .error .endsEarly
    | '#' :: cs =>
      .ok (some { p with rest := cs.dropWhile (· != '\n'), isBehindToken := false }, [])
    | '\n' :: cs =>
      let q :=
        { p with rest := cs, line := p.line + 1, isLineStart := true, isBehindToken := false }
      .ok (some q, if p.isBlank || !p.brackets.isEmpty then [] else [p.token .newline []])
    | ['\\', '\n'] => .error .endsEarly
    | '\\' :: '\n' :: cs => .ok (some { p with rest := cs, line := p.line + 1 }, [])
    | '\\' :: _ => .error .afterContinuation
    | c :: cs => do
      let (q, token) ← takeToken p c cs
      return (some q, [token])

/-- What is wrong where a scan has come to an end too soon: an open bracket, if there is one. -/
def atPlace (p : Place) : ScanProblem → ScanProblem
  | .endsEarly =>
    match p.brackets with
    | b :: _ => .neverClosed b.opening
    | [] => .endsEarly
  | problem => problem

/-- Reads at most `count` more pieces of a text. -/
def scanFrom : (count : Nat) → Place → Array Token → Scan
  | 0, _, tokens => ⟨tokens, none, none, false⟩
  | count + 1, p, tokens =>
    match step p with
    | .error problem =>
      let isEndSeen := p.isBehindToken && p.rest.isEmpty
      ⟨tokens, some (atPlace p problem), p.brackets.head?, isEndSeen⟩
    | .ok (none, more) => ⟨tokens ++ more, none, none, true⟩
    | .ok (some q, more) => scanFrom count q (tokens ++ more)

/-- Divides a text, of which the first line has the number `line`, into tokens. -/
def scan (line : Nat) (cs : List Char) : Scan :=
  if cs.contains '\x00' then ⟨#[], some .nullCharacter, none, false⟩
  else scanFrom (2 * cs.length + 2) { rest := cs, line } #[]

end LoadBinding.Literal
