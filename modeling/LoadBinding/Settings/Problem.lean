import LoadBinding.Settings.Choice

/-!
# Problems of a property bag

A property bag is refused with the list of everything that is wrong with it.  A problem names the
property in which it was found, and for an element of a list its index; a problem that concerns
several properties together names none.
-/

namespace LoadBinding

/-- What is wrong with a property. -/
inductive Flaw
  /-- Not a text. -/
  | notText
  /-- Not one of the words of a choice. -/
  | unknownChoice (words : List String)
  /-- Neither an integer nor anything that is read as one. -/
  | notInteger
  /-- A text that is not read as an integer. -/
  | unreadableInteger
  /-- An integer of more digits than are read. -/
  | oversizedInteger
  /-- A number with a fractional part in place of an integer. -/
  | fractional
  /-- An infinite number in place of an integer. -/
  | notFinite
  /-- Neither a number nor anything that is read as one. -/
  | notNumber
  /-- A text that is not read as a number. -/
  | unreadableNumber
  /-- A number that must be greater than a bound. -/
  | notGreaterThan (bound : Int)
  /-- A number that must not be below a bound. -/
  | below (bound : Int)
  /-- Not a list. -/
  | notList
  /-- Refused for a reason of its own. -/
  | refused (reason : String)
  deriving DecidableEq, Repr

namespace Flaw

/-- Words in quotes, separated by commas and a last `or`. -/
def alternatives (words : List String) : String :=
  let quoted := words.map fun w => "'" ++ w ++ "'"
  match quoted.reverse with
  | [] => ""
  | [only] => only
  | last :: others => ", ".intercalate others.reverse ++ " or " ++ last

/-- The name of the kind of a flaw. -/
def kind : Flaw → String
  | notText => "string_type"
  | unknownChoice _ => "enum"
  | notInteger => "int_type"
  | unreadableInteger => "int_parsing"
  | oversizedInteger => "int_parsing_size"
  | fractional => "int_from_float"
  | notFinite => "finite_number"
  | notNumber => "float_type"
  | unreadableNumber => "float_parsing"
  | notGreaterThan _ => "greater_than"
  | below _ => "greater_than_equal"
  | notList => "list_type"
  | refused _ => "value_error"

/-- What a report says about a flaw. -/
def message : Flaw → String
  | notText => "Input should be a valid string"
  | unknownChoice words => "Input should be " ++ alternatives words
  | notInteger => "Input should be a valid integer"
  | unreadableInteger =>
    "Input should be a valid integer, unable to parse string as an integer"
  | oversizedInteger =>
    "Unable to parse input string as an integer, exceeded maximum size"
  | fractional => "Input should be a valid integer, got a number with a fractional part"
  | notFinite => "Input should be a finite number"
  | notNumber => "Input should be a valid number"
  | unreadableNumber => "Input should be a valid number, unable to parse string as a number"
  | notGreaterThan bound => s!"Input should be greater than {bound}"
  | below bound => s!"Input should be greater than or equal to {bound}"
  | notList => "Input should be a valid list"
  | refused reason => "Value error, " ++ reason

end Flaw

/-- Where a flaw was found, and what it is. -/
structure Problem where
  /-- The property, if the flaw concerns a single one. -/
  property : Option String
  /-- The place of the element of a list, counted from zero. -/
  index : Option Nat
  flaw : Flaw
  deriving DecidableEq, Repr

/-- The first line of the report on a refused bag. -/
def Problem.summary (problems : List Problem) : String :=
  let count := problems.length
  let noun := if count == 1 then "error" else "errors"
  s!"Invalid binding configuration: {count} validation {noun} for BindingConfig"

end LoadBinding
