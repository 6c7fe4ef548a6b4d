/-!
# Log entries

What a component has to say goes to the log under the component's name, at one of five levels.
-/

namespace LoadBinding.Log

/-- How much an entry matters. -/
inductive Level
  | debug
  | info
  | warning
  | error
  | critical
  deriving DecidableEq, Repr

/-- The name of a level. -/
def Level.word : Level → String
  | debug => "DEBUG"
  | info => "INFO"
  | warning => "WARNING"
  | error => "ERROR"
  | critical => "CRITICAL"

/-- One message of one component. -/
structure Entry where
  level : Level
  /-- The name of the component that speaks. -/
  source : String
  text : String
  deriving DecidableEq, Repr

end LoadBinding.Log
