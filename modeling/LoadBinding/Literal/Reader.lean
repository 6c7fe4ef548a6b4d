import LoadBinding.Literal.Grammar
import LoadBinding.Literal.Problem
import LoadBinding.Number.Numeral
import LoadBinding.Text.LetterForm

/-!
# Reading an expression by the grammar

`find` fits a rule to the tokens of a text.  Every rule, every growing of a rule and every
repetition is a `Goal` that takes the reader one level deeper, and the levels are limited: this is
what makes `find` end.

A text is read once without looking for mistakes.  If it is no expression, it is read a second time,
now for its mistakes.  In either case a token is looked at only when the reader comes to it; when a
mistake is found, `settle` looks at the tokens that have not been reached, for what spoils the text
as a whole.
-/

namespace LoadBinding.Literal

/-- What the reader is to find at one place. -/
inductive Goal
  | rule (r : Rule)
  /-- The beginning of a growing rule. -/
  | seed (branches : List Branch)
  /-- The growth of a tree. -/
  | growth (branches : List Branch) (t : Tree)
  | many (p : Piece)
  | list (p : Piece) (separator : String)
  /-- What follows in a list behind its first member. -/
  | listTail (p : Piece) (separator : String)

/-- What a rule has found at a place, and the place behind it. -/
structure Finding where
  rule : Rule
  tree? : Option Tree
  next : Nat

/-- The state of the reader. -/
structure Reading where
  /-- The number of tokens that have been passed. -/
  position : Nat := 0
  /-- The number of tokens that have been looked at. -/
  reached : Nat := 0
  /-- Whether mistakes are looked for. -/
  isCritical : Bool := false
  /-- For every token, what has been found where it stands. -/
  findings : Array (List Finding)

/-- A step of the reader. -/
abbrev Step := EStateM Problem Reading

/-- What the reader works on: the tokens of a text, and a way to read strings. -/
structure Source where
  scan : Scan
  /-- Reads adjacent strings, each given by its text and its line, as one value. -/
  join : List (String × Nat) → Except Problem Kind

/-- The most levels that the reader goes into an expression. -/
def maxLevels : Nat := 6000

/-! ## Tokens -/

/-- The token at the place of the reader. -/
def peek (source : Source) : Step Token := do
  let s ← get
  match source.scan.tokens[s.position]? with
  | some token =>
    set { s with reached := max s.reached (s.position + 1) }
    return token
  | none => throw (.scan (source.scan.problem?.getD .endsEarly))

/-- Whether a token has the text of a keyword or of a punctuation mark. -/
def Token.isMarked (t : Token) (text : String) : Bool :=
  (t.kind == .word || t.kind == .mark) && t.text == text

/-- Whether a token is a name. -/
def Token.isName (t : Token) : Bool :=
  t.kind == .word && !keywordList.contains t.text

/-- The tree of a token that is a piece. -/
def Token.tree? (t : Token) : Piece → Except Problem (Option Tree)
  | .token text => .ok (if t.isMarked text then some (.several []) else none)
  | .name => .ok (if t.isName then some (.leaf (.name (Text.plainName t.text))) else none)
  | .softKeyword =>
    let isSoft := t.isName && softKeywordList.any fun word => word.startsWith t.text
    .ok (if isSoft then some (.several []) else none)
  | .number =>
    if t.kind == .number then
      match numberValue Number.maxDigits t.text.toList with
      | .ok v => .ok (some (.leaf (.number v)))
      | .error digits => .error (.mistake (.tooManyDigits Number.maxDigits digits))
    else .ok none
  | .string => .ok (if t.kind == .string then some (.leaf (.written t.text t.line)) else none)
  | .newline => .ok (if t.kind == .newline then some (.several []) else none)
  | .finish => .ok (if t.kind == .finish then some (.several []) else none)
  | .rule _ => .ok none

/-- Goes back to a place. -/
def goTo (position : Nat) : Step Unit :=
  modify fun s => { s with position }

/-- A step of which nothing remains when it finds nothing. -/
def orBack {α : Type} (step : Step (Option α)) : Step (Option α) := do
  let start := (← get).position
  match ← step with
  | some a => return some a
  | none =>
    goTo start
    return none

section

variable (source : Source) (call : Goal → Step (Option Tree))

/-! ## Pieces and items -/

/-- Finds a piece. -/
def findPiece (p : Piece) : Step (Option Tree) := do
  match p with
  | .rule r => call (.rule r)
  | p =>
    let token ← peek source
    match token.tree? p with
    | .error problem => throw problem
    | .ok none => return none
    | .ok (some t) =>
      modify fun s => { s with position := s.position + 1 }
      return some t

/-- Repeats a step as long as it finds something, at most `count` times. -/
def repeated (step : Step (Option Tree)) : (count : Nat) → List Tree → Step (List Tree)
  | 0, found => return found.reverse
  | count + 1, found => do
    match ← orBack step with
    | some t => repeated step count (t :: found)
    | none => return found.reverse

/-- More than the number of tokens that are left. -/
def tokensLeft : Step Nat :=
  return source.scan.tokens.size + 1 - (← get).position

/-- Finds the items of a branch behind those that gave `found`, the last one first.  Without success
the answer says whether the reader is committed to the branch. -/
def findItems : List Item → (isCommitted : Bool) → (found : List Tree) →
    Step (Except Bool (List Tree))
  | [], _, found => return .ok found.reverse
  | item :: items, isCommitted, found => do
    match item with
    | .commit => findItems items true found
    | .one p =>
      match ← findPiece source call p with
      | some t => findItems items isCommitted (if p.isSilent then found else t :: found)
      | none => return .error isCommitted
    | .optional p =>
      let t? ← orBack (findPiece source call p)
      findItems items isCommitted (if p.isSilent then found else t?.getD (.several []) :: found)
    | .many p =>
      match ← call (.many p) with
      | some t => findItems items isCommitted (.gather .several t.parts :: found)
      | none => return .error isCommitted
    | .oneOrMore p =>
      match ← call (.many p) with
      | some (.node _ []) | none => return .error isCommitted
      | some t => findItems items isCommitted (.gather .several t.parts :: found)
    | .list p separator =>
      match ← call (.list p separator) with
      | some t => findItems items isCommitted (.gather .several t.parts :: found)
      | none => return .error isCommitted
    | .ahead p =>
      let start := (← get).position
      let t? ← findPiece source call p
      goTo start
      if t?.isSome then findItems items isCommitted found else return .error isCommitted
    | .notAhead p =>
      let start := (← get).position
      let t? ← findPiece source call p
      goTo start
      if t?.isNone then findItems items isCommitted found else return .error isCommitted

/-- Carries out what has become of a branch. -/
def conclude : Outcome → Step (Option Tree)
  | .tree t => return some t
  | .refused => return none
  | .mistake m => throw (.mistake m)
  | .mistakeInBrackets m => do
    match source.scan.tokens[(← get).position - 1]? with
    | some token => if token.depth == 0 then return none else throw (.mistake m)
    | none => return none
  | .joined strings => do
    let texts := strings.flatMap Tree.members |>.filterMap fun t =>
      match t.kind with
      | .written text line => some (text, line)
      | _ => none
    match source.join texts with
    | .ok kind => return some (.leaf kind)
    | .error problem => throw problem

/-- Finds the first branch that fits behind what was found before. -/
def findBranch (before : List Tree) : List Branch → Step (Option Tree)
  | [] => return none
  | branch :: branches => do
    if branch.isMistake && !(← get).isCritical then findBranch before branches
    else
      let start := (← get).position
      match ← findItems source call branch.items false before with
      | .ok found => conclude source (branch.build found)
      | .error isCommitted =>
        goTo start
        if isCommitted then return none else findBranch before branches

/-- Lets a tree grow as long as one of the branches fits, at most `count` times. -/
def grow (branches : List Branch) : (count : Nat) → Tree → Step Tree
  | 0, t => return t
  | count + 1, t => do
    match ← orBack (call (.growth branches t)) with
    | some t => grow branches count t
    | none => return t

/-! ## Rules -/

/-- Finds a rule. -/
def findBody : Body → Step (Option Tree)
  | .choice branches => findBranch source call [] branches
  | .growing seeds suffixes => do
    match ← call (.seed seeds) with
    | some t => return some (← grow call suffixes (← tokensLeft source) t)
    | none => return none

/-- What a rule has found before at the place of the reader. -/
def findingAt? (r : Rule) : Step (Option Finding) := do
  let s ← get
  return (s.findings.getD s.position []).find? fun f => f.rule == r

/-- Remembers what a rule has found at a place. -/
def remember (r : Rule) (start : Nat) (tree? : Option Tree) : Step Unit :=
  modify fun s =>
    { s with findings := s.findings.modify start fun fs => ⟨r, tree?, s.position⟩ :: fs }

/-- Finds a rule, unless it has been looked for at the same place before. -/
def findRule (r : Rule) : Step (Option Tree) := do
  if isRemembered r then
    let _ ← peek source
    match ← findingAt? r with
    | some finding =>
      goTo finding.next
      return finding.tree?
    | none =>
      let start := (← get).position
      let t? ← orBack (findBody source call (body r))
      remember r start t?
      return t?
  else if isUncritical r then
    let isCritical := (← get).isCritical
    modify fun s => { s with isCritical := false }
    let t? ← findBody source call (body r)
    modify fun s => { s with isCritical }
    return t?
  else findBody source call (body r)

/-- One level of the reader. -/
def findGoal : Goal → Step (Option Tree)
  | .rule r => findRule source call r
  | .seed branches => findBranch source call [] branches
  | .growth branches t => findBranch source call [t] branches
  | .many p => do
    let found ← repeated (findPiece source call p) (← tokensLeft source) []
    return some (.several found)
  | .list p separator => do
    match ← findPiece source call p with
    | none => return none
    | some t =>
      match ← call (.listTail p separator) with
      | none => return none
      | some ts => return some (.several (t :: ts.parts))
  | .listTail p separator => do
    let member : Step (Option Tree) := do
      match ← findPiece source call (.token separator) with
      | none => return none
      | some _ => findPiece source call p
    return some (.several (← repeated member (← tokensLeft source) []))

end

/-- Finds a goal within a number of levels. -/
def find (source : Source) : (levels : Nat) → Goal → Step (Option Tree)
  | 0, _ => throw .tooDeep
  | levels + 1, goal => findGoal source (find source levels) goal

/-! ## Texts -/

/-- What is wrong with a text in which the reader, having looked at `reached` tokens, has found a
problem: something that spoils the tokens behind, or a bracket that was opened on an earlier line
and never closed, comes first. -/
def settle (scan : Scan) (reached : Nat) (problem : Problem) : Problem :=
  match scan.problem? with
  | none => problem
  | some rest =>
    if !rest.isDeferred then .scan rest
    else
      let line := (scan.tokens[reached - 1]?.map Token.line).getD 0
      match scan.unclosed? with
      | some b => if b.line < line then .scan (.neverClosed b.opening) else problem
      | none => problem

/-- As `settle`, for a problem that the reader has met before it had seen the end of the text.  A
problem of the tokens, or of the size of the expression, is left as it is. -/
def settleMet (scan : Scan) (reached : Nat) (problem : Problem) : Problem :=
  let isOver := scan.isEndSeen && reached == scan.tokens.size
  if isOver || !problem.isSyntax || scan.problem?.any (problem == .scan ·) then problem
  else settle scan reached problem

/-- The problem of a text for which no mistake has been recognized, by the last token that was
needed to see that it is no expression. -/
def generalMistake (last : Option Token) : Mistake :=
  match last.map Token.kind with
  | some .indent => .unexpectedIndent
  | some .dedent => .unexpectedDedent
  | _ => .invalidSyntax

/-- Reads the tokens of a text by a rule. -/
def readTokens (source : Source) (r : Rule) : Except Problem Tree :=
  let findings := Array.replicate source.scan.tokens.size []
  let run := find source maxLevels (.rule r)
  match run { findings } with
  | .ok (some t) _ => .ok t
  | .error problem s => .error (settleMet source.scan s.reached problem)
  | .ok none first =>
    match run { reached := first.reached, isCritical := true, findings } with
    | .error problem s => .error (settleMet source.scan s.reached problem)
    | .ok _ s =>
      match generalMistake source.scan.tokens[first.reached - 1]? with
      | .invalidSyntax => .error (settle source.scan s.reached (.mistake .invalidSyntax))
      | mistake => .error (.mistake mistake)

end LoadBinding.Literal
