import LoadBinding.Literal.Mistake

/-!
# Rules of a grammar

A grammar gives every rule its branches, which are tried in order, and the first that fits is taken.
A branch is a list of items to be found one after the other, with a function that makes of what was
found an `Outcome`: a tree, a refusal, or a mistake that has been recognized.

A branch marked as a mistake is tried only after the text has turned out to be no expression.
-/

namespace LoadBinding.Literal

/-- The comparisons of two operands. -/
inductive Comparator
  | equal
  | unequal
  | atMost
  | below
  | atLeast
  | above
  | notIn
  | isIn
  | isNot
  | same
  deriving DecidableEq, Repr

/-- The classes of operators with two operands, from the one that binds least. -/
inductive OperatorClass
  | either
  | exactlyOne
  | both
  | shift
  | sum
  | product
  deriving DecidableEq, Repr

/-- The rules of the grammar.  Those whose names begin with `wrong` describe mistakes. -/
inductive Rule
  /-- A text that is one expression. -/
  | whole
  /-- An expression embedded in a string. -/
  | embedded
  | expressions
  | moreExpressions
  | expression
  /-- An expression in which no mistakes are looked for. -/
  | plainExpression
  | yieldExpression
  | starExpressions
  | moreStarExpressions
  | starExpression
  | starNamedExpressions
  | starNamedExpression
  | assignment
  | namedExpression
  | disjunction
  | orConjunction
  | conjunction
  | andInversion
  | inversion
  | comparison
  | comparedPart
  | comparedBy (c : Comparator)
  | unequalMark
  | operation (c : OperatorClass)
  | factor
  | power
  | awaited
  | primary
  | atom
  | parenthesized
  | braced
  | group
  | groupInside
  | tuple
  | tupleInside
  | setDisplay
  | dictDisplay
  | pairs
  | pairOrUnpacked
  | pair
  | setComprehension
  | dictComprehension
  | generator
  | generatorElement
  | forClauses
  | forClause
  | ifClause
  | arguments
  | argumentList
  | argument
  | plainArgument
  | moreKeywords
  | keywords
  | keywordOrStarred
  | keywordOrUnpacked
  | starredArgument
  | targets
  | moreTargets
  | tupleTargets
  | target
  | unstarredTarget
  | memberTarget
  | targetAtom
  | targetPrimary
  | primaryGoesOn
  | lambda
  | lambdaParameters
  | parameters
  | plainBeforeSlash
  | defaultsBeforeSlash
  | starParameters
  | doubleStarParameter
  | plainParameter
  | defaultParameter
  | anyParameter
  | parameter
  | defaultValue
  | strings
  | wrongExpression
  | twoNames
  | elseOrColon
  | wrongCommand
  | wrongNaming
  | fixedValue
  | equalsOrNaming
  | wrongGroup
  | wrongComprehension
  | anyOpening
  | displayOpening
  | wrongDictComprehension
  | wrongArguments
  | argumentsBefore
  | keywordsBehind
  | unassignedStarred
  | argumentsOrGenerator
  | wrongKeyword
  | constantWord
  | nameEquals
  | wrongPairs
  | wrongPair
  | bracketOrComma
  | wrongTarget
  | wrongParameters
  | defaultsBefore
  | beforeSlash
  | behindStar
  | wrongStarParameters
  | nothingBehindStar
  | colonOrDoubleStar
  | wrongDoubleStar
  | starOrSlash
  | wrongDefault
  | parenthesisOrComma
  deriving DecidableEq, Repr

/-- What can be looked for at one place. -/
inductive Piece
  /-- A keyword or a punctuation mark. -/
  | token (text : String)
  /-- A name that is no keyword. -/
  | name
  | number
  | string
  /-- A name with which a word begins that is a keyword in other places only. -/
  | softKeyword
  | newline
  | finish
  | rule (r : Rule)
  deriving DecidableEq, Repr

/-- Whether a piece leaves no trace in what was found. -/
def Piece.isSilent : Piece → Bool
  | token _ | newline | finish => true
  | _ => false

/-- An item of a branch. -/
inductive Item
  | one (p : Piece)
  /-- A piece or nothing. -/
  | optional (p : Piece)
  /-- A piece any number of times. -/
  | many (p : Piece)
  | oneOrMore (p : Piece)
  /-- A piece once or more, with a token between two of them. -/
  | list (p : Piece) (separator : String)
  /-- A piece must follow, and is not passed over. -/
  | ahead (p : Piece)
  /-- A piece must not follow. -/
  | notAhead (p : Piece)
  /-- From here on no other branch comes into question. -/
  | commit
  deriving DecidableEq, Repr

instance : Coe Rule Piece := ⟨Piece.rule⟩
instance : Coe String Piece := ⟨Piece.token⟩
instance : Coe Piece Item := ⟨Item.one⟩
instance : Coe Rule Item := ⟨fun r => Item.one (Piece.rule r)⟩
instance : Coe String Item := ⟨fun text => Item.one (Piece.token text)⟩

/-- What becomes of a branch that fits. -/
inductive Outcome
  | tree (t : Tree)
  /-- The rule does not fit after all. -/
  | refused
  | mistake (m : Mistake)
  /-- A mistake if brackets are open behind what was found; otherwise the rule does not fit. -/
  | mistakeInBrackets (m : Mistake)
  /-- String tokens that are to be read as one value. -/
  | joined (strings : List Tree)
  deriving Repr

/-- One way to fit a rule. -/
structure Branch where
  items : List Item
  /-- Makes an outcome of what the items found, silent ones left out. -/
  build : List Tree → Outcome
  /-- Whether the branch is tried only when mistakes are looked for. -/
  isMistake : Bool := false

namespace Branch

/-- A branch that makes a node of what was found. -/
def form (kind : Kind) (items : List Item) : Branch :=
  { items, build := fun ts => .tree (.gather kind ts) }

/-- A branch that puts what was found side by side. -/
def side (items : List Item) : Branch :=
  form .several items

/-- A branch that is the tree of its only item that is not silent. -/
def pass (items : List Item) : Branch :=
  { items, build := fun ts => .tree (ts.headD (.several [])) }

/-- A rule that describes mistakes. -/
def slip (r : Rule) : Branch :=
  { pass [r] with isMistake := true }

/-- A branch that is a mistake. -/
def fault (m : Mistake) (items : List Item) : Branch :=
  { items, build := fun _ => .mistake m }

/-- A branch that is a mistake of the kind of the first expression found. -/
def faultOf (m : Kind → Mistake) (items : List Item) : Branch :=
  { items, build := fun ts => .mistake (m (ts.headD (.several [])).kind) }

end Branch

/-- How a rule is fitted. -/
inductive Body
  /-- By the first branch that fits. -/
  | choice (branches : List Branch)
  /-- By one of the seeds, which then grows by the suffixes as long as one of them fits; what has
  grown so far comes first in what was found. -/
  | growing (seeds suffixes : List Branch)

end LoadBinding.Literal
