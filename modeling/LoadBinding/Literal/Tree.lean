import LoadBinding.Literal.Number

/-!
# Expressions

An expression is a tree: every node has a kind, and its parts are trees again.  `Kind.word` is the
word that messages use for a kind of expression.  `Tree.badTarget?` finds what keeps an expression
from being the target of a loop.
-/

namespace LoadBinding.Literal

/-- The kinds of nodes: expressions, and what expressions are made of. -/
inductive Kind
  | name (s : String)
  | truth (b : Bool)
  /-- The constant that stands for no value. -/
  | nothing
  | ellipsis
  | number (v : NumberValue)
  | text
  | bytes
  /-- A text with expressions embedded in it. -/
  | template
  | tuple
  | set
  | dict
  /-- A key with its value. -/
  | pair
  /-- A dictionary whose pairs are taken over into another one. -/
  | unpacked
  | unary (op : String)
  | binary (op : String)
  /-- Operands joined by `and` or `or`. -/
  | boolean
  /-- An operand, and `compared` parts. -/
  | comparison
  | compared (op : String)
  | conditional
  | lambda
  /-- An expression whose value gets a name. -/
  | named
  | starred
  | member
  /-- What is called, and the arguments. -/
  | call
  | keywordArgument
  | keywordUnpacking
  | generator
  | setComprehension
  | dictComprehension
  | yield
  | await
  /-- A string token. -/
  | written (text : String) (line : Nat)
  /-- A number of trees that do not form an expression. -/
  | several
  deriving DecidableEq, Repr

/-- The word for a kind of expression. -/
def Kind.word : Kind → String
  | name _ => "name"
  | truth true => "True"
  | truth false => "False"
  | nothing => "None"
  | ellipsis => "ellipsis"
  | number _ | text | bytes | written .. => "literal"
  | template => "f-string expression"
  | tuple | several => "tuple"
  | set => "set display"
  | dict | pair | unpacked => "dict literal"
  | unary _ | binary _ | boolean => "expression"
  | comparison | compared _ => "comparison"
  | conditional => "conditional expression"
  | lambda => "lambda"
  | named => "named expression"
  | starred => "starred"
  | member => "attribute"
  | call | keywordArgument | keywordUnpacking => "function call"
  | generator => "generator expression"
  | setComprehension => "set comprehension"
  | dictComprehension => "dict comprehension"
  | yield => "yield expression"
  | await => "await expression"

/-- A tree of expressions. -/
inductive Tree
  | node (kind : Kind) (parts : List Tree)
  deriving Repr

namespace Tree

/-- The kind of a tree. -/
def kind : Tree → Kind
  | node kind _ => kind

/-- The parts of a tree. -/
def parts : Tree → List Tree
  | node _ parts => parts

/-- A tree without parts. -/
def leaf (kind : Kind) : Tree :=
  node kind []

/-- Several trees as one. -/
def several (ts : List Tree) : Tree :=
  node .several ts

/-- The trees that a tree stands for: its parts if it is `several`, or else itself. -/
def members : Tree → List Tree
  | node .several ts => ts
  | t => [t]

/-- A node whose parts are the members of some trees. -/
def gather (kind : Kind) (ts : List Tree) : Tree :=
  node kind (ts.flatMap members)

/-- Whether the first comparison behind an operand asks for membership. -/
def asksMembership : List Tree → Bool
  | node (.compared op) _ :: _ => op == "in"
  | _ => false

mutual

/-- The kind of the part of an expression that cannot be the target of a loop.  As far as the word
`in` has been taken for a comparison, only what stands before it is a target. -/
def badTarget? : Tree → Option Kind
  | node .tuple parts => badTargetIn? parts
  | node .starred parts => badTargetIn? parts
  | node .comparison (left :: others) => if asksMembership others then badTarget? left else none
  | node (.name _) _ => none
  | node .member _ => none
  | node kind _ => some kind

/-- The kind of the first part of some expressions that cannot be the target of a loop. -/
def badTargetIn? : List Tree → Option Kind
  | [] => none
  | t :: ts =>
    match badTarget? t with
    | some kind => some kind
    | none => badTargetIn? ts

end

end Tree

end LoadBinding.Literal
