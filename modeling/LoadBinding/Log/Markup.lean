import LoadBinding.Literal.Value
import LoadBinding.Log.Style

/-!
# Console markup

A message for a console with colours may hold tags in brackets.  `[bold]` opens a style, and
`[/bold]` closes the style of this name that was opened last; names are compared in their normal
form, and `[/]` closes whatever was opened last.  A closing tag that finds nothing to close is an
error; a style may stay open.

A tag begins with a lower-case letter, `#`, `/` or `@`, and ends at the next `]`; there may be no
`[` between.  Behind a backslash it is plain text, unless that backslash is itself behind one.  Only
the part before the first `=` is the name; what follows are the parameters.

A style whose name begins with `@` is a handler.  Its parameters are a literal, or the arguments of
a function in parentheses behind the function's name, and are read when the handler is closed.
-/

namespace LoadBinding.Log

open LoadBinding.Text LoadBinding.Number

/-- A tag: what stands between its brackets, and the position of the first of them. -/
structure Tag where
  body : List Char
  position : Nat
  deriving DecidableEq, Repr

namespace Tag

/-- The name of a tag. -/
def name (t : Tag) : List Char :=
  t.body.takeWhile (· != '=')

/-- The parameters of a tag. -/
def parameters (t : Tag) : List Char :=
  t.body.drop (t.name.length + 1)

/-- A tag as it is written. -/
def text (t : Tag) : String :=
  String.ofList ('[' :: t.body ++ [']'])

/-- Whether a character may be the first of a tag. -/
def isFirst (c : Char) : Bool :=
  ('a' ≤ c && c ≤ 'z') || c == '#' || c == '/' || c == '@'

/-- The body of the tag that begins before a text. -/
def body? (cs : List Char) : Option (List Char) :=
  let body := cs.takeWhile fun c => c != '[' && c != ']'
  if body.head?.any isFirst && (cs.drop body.length).head? == some ']' then some body else none

/-- The tags of a text that begins at `position`, behind `backslashes` backslashes; `skip` more
characters belong to the tag before. -/
def listFrom : (position backslashes skip : Nat) → List Char → List Tag
  | _, _, _, [] => []
  | position, _, skip + 1, _ :: cs => listFrom (position + 1) 0 skip cs
  | position, backslashes, 0, c :: cs =>
    if c == '\\' then listFrom (position + 1) (backslashes + 1) 0 cs
    else if c == '[' then
      match body? cs with
      | some body =>
        let others := listFrom (position + 1) 0 (body.length + 1) cs
        if backslashes % 2 == 0 then ⟨body, position⟩ :: others else others
      | none => listFrom (position + 1) 0 0 cs
    else listFrom (position + 1) 0 0 cs

/-- The tags of a text. -/
def list (s : String) : List Tag :=
  listFrom 0 0 0 s.toList

end Tag

/-- What is wrong with a text as markup. -/
inductive MarkupError
  /-- A closing tag without a name, when no style is open. -/
  | nothingOpen (position : Nat)
  /-- A closing tag for a style that is not open. -/
  | notOpen (tag : Tag)
  /-- A share of a mixed colour is no integer. -/
  | share (e : NumeralError)
  /-- The literal in the parameters of a handler cannot be read. -/
  | parameters (all literal : List Char) (problem : Literal.Problem)
  deriving DecidableEq, Repr

/-- What a message says about an error of the markup. -/
def MarkupError.message : MarkupError → String
  | nothingOpen position => s!"closing tag '[/]' at position {position} has nothing to close"
  | notOpen tag =>
    s!"closing tag '{tag.text}' at position {tag.position} doesn't match any open tag"
  | share e => e.message
  | parameters all literal problem =>
    let place := if problem.isSyntax then String.ofList (quoteChars literal) ++ " in " else ""
    s!"error parsing {place}{String.ofList (quoteChars all)}; {problem.message}"

namespace Markup

/-- The normal form of a style's name. -/
def normalName (name : List Char) : Except MarkupError String :=
  (Style.normalForm (String.ofList name)).mapError MarkupError.share

/-- A style that has been opened. -/
structure OpenStyle where
  style : String
  parameters : List Char
  deriving DecidableEq, Repr

/-- The literal in the parameters of a handler: what follows a function's name, which is the empty
tuple if nothing does.  Parameters of another form are a literal as a whole. -/
def literalOf (parameters : List Char) : List Char :=
  let cs := trim isBlank parameters
  match cs.dropWhile fun c => isWordPart c || c == '.' with
  | [] => ['(', ')']
  | c :: rest =>
    if c == '(' && rest.getLast? == some ')' && !rest.contains '\n' then c :: rest else cs

/-- Closes a style: the parameters of a handler are read. -/
def close (s : OpenStyle) : Except MarkupError Unit :=
  if s.style.startsWith "@" && !s.parameters.isEmpty then
    match Literal.Value.ofText (literalOf s.parameters) with
    | .ok _ => .ok ()
    | .error problem => .error (.parameters s.parameters (literalOf s.parameters) problem)
  else .ok ()

/-- The styles that are open after a tag, the innermost first. -/
def openAfter (styles : List OpenStyle) (t : Tag) : Except MarkupError (List OpenStyle) :=
  match t.name with
  | '/' :: name =>
    let name := trim isBlank name
    if name.isEmpty then
      match styles with
      | [] => .error (.nothingOpen t.position)
      | s :: styles => do
        close s
        return styles
    else do
      let style ← normalName name
      match styles.find? fun s => s.style == style with
      | some s =>
        close s
        return styles.eraseP fun s => s.style == style
      | none => .error (.notOpen t)
  | name => do return ⟨← normalName name, t.parameters⟩ :: styles

/-- The styles that a text leaves open, the innermost first. -/
def leftOpen (text : String) : Except MarkupError (List OpenStyle) :=
  (Tag.list text).foldlM openAfter []

end Markup

end LoadBinding.Log
