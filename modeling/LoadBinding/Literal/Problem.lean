import LoadBinding.Literal.Mistake

/-!
# What can be wrong with a literal

A literal is divided into tokens, read as an expression, and evaluated; its strings are decoded on
the way, and expressions embedded in them are read in the same manner.  Each of these can fail, and
`Problem` says how.
-/

namespace LoadBinding.Literal

/-- Why an escape in a text is refused. -/
inductive EscapeFault
  /-- The hexadecimal digits end too soon; `length` of them are due. -/
  | truncated (letter : Char) (length : Nat)
  /-- A code beyond the last character. -/
  | noCharacter
  /-- A character's name is not in braces. -/
  | malformedName
  /-- No character has the name. -/
  | unknownName
  deriving DecidableEq, Repr

/-- What a message says about an escape. -/
def EscapeFault.message : EscapeFault → String
  | truncated letter length =>
    let digits := String.ofList (List.replicate length 'X')
    s!"truncated \\{letter}{digits} escape"
  | noCharacter => "illegal Unicode character"
  | malformedName => "malformed \\N character escape"
  | unknownName => "unknown Unicode character name"

/-- What can be wrong with strings. -/
inductive StringProblem
  /-- A string of bytes holds a character beyond ASCII. -/
  | bytesBeyondAscii
  /-- A text stands next to a string of bytes. -/
  | mixed
  /-- An escape in a text from one position up to another is refused. -/
  | escape (fault : EscapeFault) (first last : Nat)
  /-- An escape in a string of bytes has too few digits. -/
  | byteEscape (position : Nat)
  deriving DecidableEq, Repr

/-- What a message says about strings. -/
def StringProblem.message : StringProblem → String
  | bytesBeyondAscii => "bytes can only contain ASCII literal characters"
  | mixed => "cannot mix bytes and nonbytes literals"
  | escape fault first last =>
    let place :=
      if first == last then s!"byte 0x5c in position {first}"
      else s!"bytes in position {first}-{last}"
    s!"(unicode error) 'unicodeescape' codec can't decode {place}: {fault.message}"
  | byteEscape position => s!"(value error) invalid \\x escape at position {position}"

/-- What can be wrong with a text that holds expressions. -/
inductive TemplateProblem
  /-- A closing brace stands alone. -/
  | singleBrace
  | nestedTooDeeply
  | backslash
  | comment
  | tooManyBrackets
  | unmatched (bracket : Char)
  | mismatched (closing opening : Char)
  /-- A string in an expression has no end. -/
  | unterminated
  /-- The braces are empty. -/
  | empty
  /-- There is no expression before a character that ends one. -/
  | missingExpression (before : Char)
  | missingBrace
  | unknownConversion
  deriving DecidableEq, Repr

/-- What a message says about a text that holds expressions. -/
def TemplateProblem.message : TemplateProblem → String
  | singleBrace => "f-string: single '\x7d' is not allowed"
  | nestedTooDeeply => "f-string: expressions nested too deeply"
  | backslash => "f-string expression part cannot include a backslash"
  | comment => "f-string expression part cannot include '#'"
  | tooManyBrackets => "f-string: too many nested parenthesis"
  | unmatched bracket => s!"f-string: unmatched '{bracket}'"
  | mismatched closing opening =>
    s!"f-string: closing parenthesis '{closing}' does not match opening parenthesis '{opening}'"
  | unterminated => "f-string: unterminated string"
  | empty => "f-string: empty expression not allowed"
  | missingExpression before => s!"f-string: expression required before '{before}'"
  | missingBrace => "f-string: expecting '\x7d'"
  | unknownConversion => "f-string: invalid conversion character: expected 's', 'r', or 'a'"

/-- What can be wrong with the value of an expression. -/
inductive ValueProblem
  /-- The expression is more than a literal. -/
  | notLiteral
  /-- A dictionary is to be taken over into another one. -/
  | unpacking
  /-- A set or a dictionary is to be a key or a member of a set. -/
  | unhashable (what : String)
  /-- An integer is too large to be added to an imaginary number. -/
  | tooLarge
  deriving DecidableEq, Repr

/-- What a message says about the value of an expression. -/
def ValueProblem.message : ValueProblem → String
  | notLiteral => "malformed node or string"
  | unpacking => "malformed node or string: None"
  | unhashable what => s!"unhashable type: '{what}'"
  | tooLarge => "int too large to convert to float"

/-- What can be wrong with a literal. -/
inductive Problem
  | scan (p : ScanProblem)
  | mistake (m : Mistake)
  | string (p : StringProblem)
  | template (p : TemplateProblem)
  /-- Something is wrong with an expression embedded in a string, other than its tokens. -/
  | embedded (p : Problem)
  /-- The reader has to go too deep into the expression. -/
  | tooDeep
  /-- The expression is nested too deep to be built. -/
  | tooNested
  | value (p : ValueProblem)
  deriving DecidableEq, Repr

namespace Problem

/-- What a message says about a literal. -/
def message : Problem → String
  | scan p => p.message
  | mistake m => m.message
  | string p => p.message
  | template p => p.message
  | embedded p => "f-string: " ++ p.message
  | tooDeep => ""
  | tooNested => "maximum recursion depth exceeded during ast construction"
  | value p => p.message

/-- Whether the text is at fault, rather than what it stands for or the size of it. -/
def isSyntax : Problem → Bool
  | tooDeep | tooNested | value _ => false
  | _ => true

end Problem

end LoadBinding.Literal
