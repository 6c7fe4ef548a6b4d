import LoadBinding.Literal.Tree

/-!
# Mistakes in expressions

What can be wrong with an expression whose tokens are in order.  The general case is
`invalidSyntax`; the others are the mistakes that are recognized by their form.
-/

namespace LoadBinding.Literal

/-- A mistake in the form of an expression. -/
inductive Mistake
  /-- The tokens form no expression. -/
  | invalidSyntax
  | unexpectedIndent
  | unexpectedDedent
  /-- An integer has too many decimal digits. -/
  | tooManyDigits (limit digits : Nat)
  /-- Two expressions stand side by side between brackets. -/
  | missingComma
  /-- A condition has no other case. -/
  | missingElse
  /-- A command that is a function is used without parentheses. -/
  | bareCommand (name : String)
  /-- Something other than a name is to be named. -/
  | namesExpression (kind : Kind)
  /-- A single equals sign behind a name. -/
  | singleEquals
  /-- A single equals sign behind something that is no name. -/
  | assignsWithin (kind : Kind)
  /-- A keyword argument has no name. -/
  | assignsArgument
  /-- A value that cannot change is assigned to. -/
  | assigns (kind : Kind)
  /-- A generator shares the parentheses of a call with other arguments. -/
  | bareGenerator
  /-- A positional argument behind a keyword argument. -/
  | latePositional (isBehindUnpacking : Bool)
  /-- Unpacked positional arguments behind unpacked keyword arguments. -/
  | lateUnpacking
  /-- A star with no expression behind it. -/
  | bareStar
  | starredElement
  /-- A tuple as the element of a comprehension, without parentheses. -/
  | bareElement
  | unpackedElement
  | starredGroup
  | doubleStarredGroup
  | starredValue
  | missingValue
  | missingColon
  /-- A parameter without a default behind one with a default. -/
  | lateParameter
  | parenthesizedParameters
  | nothingBeforeSlash
  | secondSlash
  | slashBehindStar
  | starJoinsSlash
  | nothingBehindStar
  | defaultOfStar
  | secondStar
  | defaultOfDoubleStar
  | behindDoubleStar
  | missingDefault
  deriving DecidableEq, Repr

/-- What a message says about a mistake. -/
def Mistake.message : Mistake → String
  | invalidSyntax => "invalid syntax"
  | unexpectedIndent => "unexpected indent"
  | unexpectedDedent => "unexpected unindent"
  | tooManyDigits limit digits =>
    s!"Exceeds the limit ({limit} digits) for integer string conversion: value has {digits} " ++
      "digits; use sys.set_int_max_str_digits() to increase the limit - " ++
      "Consider hexadecimal for huge integer literals to avoid decimal conversion limits."
  | missingComma => "invalid syntax. Perhaps you forgot a comma?"
  | missingElse => "expected 'else' after 'if' expression"
  | bareCommand name =>
    s!"Missing parentheses in call to '{name}'. Did you mean {name}(...)?"
  | namesExpression kind => "cannot use assignment expressions with " ++ kind.word
  | singleEquals => "invalid syntax. Maybe you meant '==' or ':=' instead of '='?"
  | assignsWithin kind =>
    s!"cannot assign to {kind.word} here. Maybe you meant '==' instead of '='?"
  | assignsArgument => "expression cannot contain assignment, perhaps you meant \"==\"?"
  | assigns kind => "cannot assign to " ++ kind.word
  | bareGenerator => "Generator expression must be parenthesized"
  | latePositional true => "positional argument follows keyword argument unpacking"
  | latePositional false => "positional argument follows keyword argument"
  | lateUnpacking => "iterable argument unpacking follows keyword argument unpacking"
  | bareStar => "Invalid star expression"
  | starredElement => "iterable unpacking cannot be used in comprehension"
  | bareElement => "did you forget parentheses around the comprehension target?"
  | unpackedElement => "dict unpacking cannot be used in dict comprehension"
  | starredGroup => "cannot use starred expression here"
  | doubleStarredGroup => "cannot use double starred expression here"
  | starredValue => "cannot use a starred expression in a dictionary value"
  | missingValue => "expression expected after dictionary key and ':'"
  | missingColon => "':' expected after dictionary key"
  | lateParameter => "non-default argument follows default argument"
  | parenthesizedParameters => "Lambda expression parameters cannot be parenthesized"
  | nothingBeforeSlash => "at least one argument must precede /"
  | secondSlash => "/ may appear only once"
  | slashBehindStar => "/ must be ahead of *"
  | starJoinsSlash => "expected comma between / and *"
  | nothingBehindStar => "named arguments must follow bare *"
  | defaultOfStar => "var-positional argument cannot have default value"
  | secondStar => "* argument may appear only once"
  | defaultOfDoubleStar => "var-keyword argument cannot have default value"
  | behindDoubleStar => "arguments cannot follow var-keyword argument"
  | missingDefault => "expected default value expression"

end LoadBinding.Literal
