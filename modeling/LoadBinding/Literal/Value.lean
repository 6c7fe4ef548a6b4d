import LoadBinding.Literal.Reader
import LoadBinding.Literal.Strings
import LoadBinding.Text.CharacterName

/-!
# Values of literals

A literal is a constant, a signed number, the sum of a real and an imaginary number, or a tuple, a
set or a dictionary of literals; the empty set is written as a call.  Members of sets and keys of
dictionaries may be neither sets nor dictionaries, nor tuples that hold one.

Of a value only its structure is kept.  `Value.ofText` reads a literal.
-/

namespace LoadBinding.Literal

/-- The structure of a value. -/
inductive Value
  | single
  | tuple (members : List Value)
  | set
  | dict
  deriving Repr

namespace Value

mutual

/-- What keeps a value from being a key, or a member of a set. -/
def unhashable? : Value → Option String
  | single => none
  | tuple members => unhashableIn? members
  | set => some "set"
  | dict => some "dict"

/-- What keeps the first of some values from being a key. -/
def unhashableIn? : List Value → Option String
  | [] => none
  | v :: vs =>
    match unhashable? v with
    | some what => some what
    | none => unhashableIn? vs

end

/-- Checks that a value can be a key. -/
def checkKey (v : Value) : Except ValueProblem Unit :=
  match unhashable? v with
  | some what => .error (.unhashable what)
  | none => .ok ()

/-- The number that a constant is. -/
def number? : Tree → Option NumberValue
  | .node (.number v) _ => some v
  | _ => none

/-- The number that a constant with at most one sign is. -/
def signedNumber? : Tree → Option NumberValue
  | .node (.number v) _ => some v
  | .node (.unary op) [t] => if op == "+" || op == "-" then number? t else none
  | _ => none

/-- The least integer that is too large for a floating-point number. -/
def tooLarge : Nat := Nat.pow 2 1024 - Nat.pow 2 970

/-- The sum of two numbers, or the difference. -/
def sum (left right : Option NumberValue) : Except ValueProblem Value :=
  match left, right with
  | some (.integer n), some .imaginary => if n < tooLarge then .ok single else .error .tooLarge
  | some .real, some .imaginary => .ok single
  | _, _ => .error .notLiteral

mutual

/-- The value of an expression. -/
def ofTree : Tree → Except ValueProblem Value
  | .node .tuple parts => (ofTrees parts).map tuple
  | .node .set parts => (ofMembers parts).map fun _ => set
  | .node .dict parts => (ofPairs parts).map fun _ => dict
  | .node .call [.node (.name s) _] => if s == "set" then .ok set else .error .notLiteral
  | .node (.binary op) [left, right] =>
    if op == "+" || op == "-" then sum (signedNumber? left) (number? right)
    else .error .notLiteral
  | .node (.unary op) parts =>
    if (signedNumber? (.node (.unary op) parts)).isSome then .ok single else .error .notLiteral
  | .node (.truth _) _ | .node .nothing _ | .node .ellipsis _ | .node (.number _) _
  | .node .text _ | .node .bytes _ => .ok single
  | _ => .error .notLiteral

/-- The values of some expressions. -/
def ofTrees : List Tree → Except ValueProblem (List Value)
  | [] => .ok []
  | t :: ts => do
    let v ← ofTree t
    return v :: (← ofTrees ts)

/-- Checks the members of a set, one after the other. -/
def ofMembers : List Tree → Except ValueProblem Unit
  | [] => .ok ()
  | t :: ts => do
    checkKey (← ofTree t)
    ofMembers ts

/-- Checks the pairs of a dictionary, one after the other. -/
def ofPairs : List Tree → Except ValueProblem Unit
  | [] => .ok ()
  | .node .pair [k, v] :: ts => do
    let key ← ofTree k
    let _ ← ofTree v
    checkKey key
    ofPairs ts
  | _ :: _ => .error .unpacking

end

/-! ## Reading -/

/-- A problem of an expression embedded in a string.  What spoils the tokens of the expression, or
has been found deeper inside, is left as it is. -/
def embed : Problem → Problem
  | .scan p => if p.isDeferred then .embedded (.scan p) else .scan p
  | .embedded p => .embedded p
  | .tooDeep => .tooDeep
  | p => .embedded p

/-- Reads an expression by a rule, with strings whose expressions are nested less than `nesting`
deep.  An embedded expression is read as if it stood in parentheses. -/
def readBy : (nesting : Nat) → Rule → (line : Nat) → List Char → Except Problem Tree
  | 0, _, _, _ => .error .tooDeep
  | nesting + 1, r, line, cs =>
    let readEmbedded (line : Nat) (inside : List Char) : Except Problem Unit :=
      match readBy nesting .embedded line ('(' :: inside ++ [')', '\n']) with
      | .ok _ => .ok ()
      | .error problem => .error (embed problem)
    readTokens
      { scan := scan line cs
        join := joinStrings readEmbedded (checkText Text.isCharacterName) } r

/-- The most levels of an expression, counted from its innermost parts. -/
def maxHeight : Nat := 2950

mutual

/-- The number of levels of a tree. -/
def height : Tree → Nat
  | .node _ parts => heightOf parts + 1

/-- The number of levels of the highest of some trees. -/
def heightOf : List Tree → Nat
  | [] => 0
  | t :: ts => max (height t) (heightOf ts)

end

/-- Writes every line break as a line feed. -/
def plainBreaks : List Char → List Char
  | '\r' :: '\n' :: cs => '\n' :: plainBreaks cs
  | '\r' :: cs => '\n' :: plainBreaks cs
  | c :: cs => c :: plainBreaks cs
  | [] => []

/-- Reads a literal. -/
def ofText (cs : List Char) : Except Problem Value := do
  let cs := cs.dropWhile fun c => c == ' ' || c == '\t'
  let t ← readBy (cs.length + 1) .whole 1 (plainBreaks cs)
  if maxHeight < height t then throw .tooNested
  (ofTree t).mapError Problem.value

end Value

end LoadBinding.Literal
