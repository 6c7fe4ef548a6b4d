import LoadBinding.Literal.Rule

/-!
# The grammar of expressions

`body` gives every rule its branches.  Operators bind the tighter the later their rule is reached
from `expression`: a condition, `or`, `and`, `not`, comparisons, the six classes of
`OperatorClass`, signs, powers, calls.  The targets of loops have rules of their own, which take
only what can be assigned to.

A place is reached by many rules, so what has been found there is kept for the rules that are
*remembered* (`isRemembered`); without this the time would grow with every bracket by a factor.

There are no lists and no subscripts, because the texts that are read hold no square brackets.
-/

namespace LoadBinding.Literal

/-- The words that are no names. -/
def keywordList : List String :=
  ["False", "None", "True", "and", "as", "assert", "async", "await", "break", "class", "continue",
    "def", "del", "elif", "else", "except", "finally", "for", "from", "global", "if", "import",
    "in", "is", "lambda", "nonlocal", "not", "or", "pass", "raise", "return", "try", "while",
    "with", "yield"]

/-- The words that are keywords in other places only.  Names are taken for one of them from the
first letter on. -/
def softKeywordList : List String :=
  ["_", "case", "match"]

/-- The functions that have been commands, and used without parentheses. -/
def commandList : List String :=
  ["print", "exec"]

/-- The name of a command that an expression is. -/
def commandName? (t : Tree) : Option String :=
  match t.kind with
  | .name s => if commandList.contains s then some s else none
  | _ => none

/-- The tokens of a comparison. -/
def Comparator.tokens : Comparator → List String
  | equal => ["=="]
  | unequal => ["!="]
  | atMost => ["<="]
  | below => ["<"]
  | atLeast => [">="]
  | above => [">"]
  | notIn => ["not", "in"]
  | isIn => ["in"]
  | isNot => ["is", "not"]
  | same => ["is"]

/-- The comparisons, in the order in which they are tried. -/
def Comparator.all : List Comparator :=
  [equal, unequal, atMost, below, atLeast, above, notIn, isIn, isNot, same]

/-- The operators of a class. -/
def OperatorClass.operators : OperatorClass → List String
  | either => ["|"]
  | exactlyOne => ["^"]
  | both => ["&"]
  | shift => ["<<", ">>"]
  | sum => ["+", "-"]
  | product => ["*", "/", "//", "%", "@"]

/-- The operands of a class of operators. -/
def OperatorClass.operand : OperatorClass → Rule
  | either => .operation .exactlyOne
  | exactlyOne => .operation .both
  | both => .operation .shift
  | shift => .operation .sum
  | sum => .operation .product
  | product => .factor

/-- An operand of a comparison. -/
abbrev operand : Rule := .operation .either

/-- Whether an argument of a call is given by its name. -/
def isKeyword (t : Tree) : Bool :=
  match t.kind with
  | .keywordArgument | .keywordUnpacking => true
  | _ => false

/-- The mistake of arguments that stand behind other ones. -/
def lateArguments (ts : List Tree) : Outcome :=
  let before := (ts.headD (.several [])).members
  .mistake (.latePositional (before.any fun t => t.kind == .keywordUnpacking))

/-- The mistake of a generator behind some arguments, the last of which is its element; there is
none if that is the only argument. -/
def generatorBehind (ts : List Tree) : Outcome :=
  let arguments := (ts.headD (.several [])).members.filter fun t => !isKeyword t
  if arguments.length ≤ 1 then .refused else .mistake .bareGenerator

/-- The mistake of two expressions side by side. -/
def sideBySide (ts : List Tree) : Outcome :=
  if (commandName? (ts.headD (.several []))).isSome then .refused
  else .mistakeInBrackets .missingComma

/-- The mistake of a command without parentheses. -/
def commandWithout (ts : List Tree) : Outcome :=
  match commandName? (ts.headD (.several [])) with
  | some name => .mistake (.bareCommand name)
  | none => .refused

/-- The mistake of a loop whose target cannot be one. -/
def wrongLoop (ts : List Tree) : Outcome :=
  match (ts.headD (.several [])).badTarget? with
  | some kind => .mistake (.assigns kind)
  | none => .refused

open Branch Item Piece Rule

/-- The branches of a rule. -/
def body : Rule → Body
  | whole => .choice [pass [expressions, many newline, finish]]
  | embedded => .choice [pass [starExpressions]]
  -- expressions
  | expressions => .choice [
      form .tuple [expression, oneOrMore moreExpressions, optional ","],
      form .tuple [expression, ","],
      pass [expression]]
  | moreExpressions => .choice [pass [",", expression]]
  | expression => .choice [
      slip wrongExpression,
      slip wrongCommand,
      form .conditional [disjunction, "if", disjunction, "else", expression],
      pass [disjunction],
      pass [lambda]]
  | plainExpression => .choice [
      form .conditional [disjunction, "if", disjunction, "else", expression],
      pass [disjunction],
      pass [lambda]]
  | yieldExpression => .choice [
      form .yield ["yield", "from", expression],
      form .yield ["yield", optional starExpressions]]
  | starExpressions => .choice [
      form .tuple [starExpression, oneOrMore moreStarExpressions, optional ","],
      form .tuple [starExpression, ","],
      pass [starExpression]]
  | moreStarExpressions => .choice [pass [",", starExpression]]
  | starExpression => .choice [form .starred ["*", operand], pass [expression]]
  | starNamedExpressions => .choice [pass [list starNamedExpression ",", optional ","]]
  | starNamedExpression => .choice [form .starred ["*", operand], pass [namedExpression]]
  | assignment => .choice [form .named [name, ":=", commit, expression]]
  | namedExpression => .choice [
      pass [assignment],
      slip wrongNaming,
      pass [expression, notAhead ":="]]
  -- operators
  | disjunction => .choice [
      form .boolean [conjunction, oneOrMore orConjunction],
      pass [conjunction]]
  | orConjunction => .choice [pass ["or", conjunction]]
  | conjunction => .choice [
      form .boolean [inversion, oneOrMore andInversion],
      pass [inversion]]
  | andInversion => .choice [pass ["and", inversion]]
  | inversion => .choice [form (.unary "not") ["not", inversion], pass [comparison]]
  | comparison => .choice [
      form .comparison [operand, oneOrMore comparedPart],
      pass [operand]]
  | comparedPart => .choice (Comparator.all.map fun c => pass [comparedBy c])
  | comparedBy .unequal => .choice [form (.compared "!=") [unequalMark, operand]]
  | comparedBy c => .choice [
      form (.compared (" ".intercalate c.tokens))
        (c.tokens.map (fun text => one (token text)) ++ [one operand])]
  | unequalMark => .choice [side ["!="]]
  | operation c => .growing
      [pass [c.operand]]
      (c.operators.map fun op => form (.binary op) [op, c.operand])
  | factor => .choice [
      form (.unary "+") ["+", factor],
      form (.unary "-") ["-", factor],
      form (.unary "~") ["~", factor],
      pass [power]]
  | power => .choice [form (.binary "**") [awaited, "**", factor], pass [awaited]]
  | awaited => .choice [form .await ["await", primary], pass [primary]]
  | primary => .growing
      [pass [atom]]
      [form .member [".", name],
        form .call [generator],
        form .call ["(", optional arguments, ")"]]
  | atom => .choice [
      pass [name],
      form (.truth true) ["True"],
      form (.truth false) ["False"],
      form .nothing ["None"],
      pass [ahead string, strings],
      pass [number],
      pass [ahead "(", parenthesized],
      pass [ahead "\x7b", braced],
      form .ellipsis ["..."]]
  | strings => .choice [{ items := [oneOrMore string], build := fun ts => .joined ts }]
  -- brackets
  | parenthesized => .choice [pass [tuple], pass [group], pass [generator]]
  | braced => .choice [
      pass [dictDisplay],
      pass [setDisplay],
      pass [dictComprehension],
      pass [setComprehension]]
  | group => .choice [pass ["(", groupInside, ")"], slip wrongGroup]
  | groupInside => .choice [pass [yieldExpression], pass [namedExpression]]
  | tuple => .choice [form .tuple ["(", optional tupleInside, ")"]]
  | tupleInside => .choice [side [starNamedExpression, ",", optional starNamedExpressions]]
  | setDisplay => .choice [form .set ["\x7b", starNamedExpressions, "\x7d"]]
  | dictDisplay => .choice [
      form .dict ["\x7b", optional pairs, "\x7d"],
      pass ["\x7b", wrongPairs, "\x7d"]]
  | pairs => .choice [pass [list pairOrUnpacked ",", optional ","]]
  | pairOrUnpacked => .choice [form .unpacked ["**", operand], pass [pair]]
  | pair => .choice [form .pair [expression, ":", expression]]
  -- comprehensions
  | setComprehension => .choice [
      form .setComprehension ["\x7b", namedExpression, forClauses, "\x7d"],
      slip wrongComprehension]
  | dictComprehension => .choice [
      form .dictComprehension ["\x7b", pair, forClauses, "\x7d"],
      slip wrongDictComprehension]
  | generator => .choice [
      form .generator ["(", generatorElement, forClauses, ")"],
      slip wrongComprehension]
  | generatorElement => .choice [pass [assignment], pass [expression, notAhead ":="]]
  | forClauses => .choice [pass [oneOrMore forClause]]
  | forClause => .choice [
      side ["async", "for", targets, "in", commit, disjunction, many ifClause],
      side ["for", targets, "in", commit, disjunction, many ifClause],
      slip wrongTarget]
  | ifClause => .choice [pass ["if", disjunction]]
  -- calls
  | arguments => .choice [
      pass [argumentList, optional ",", ahead ")"],
      slip wrongArguments]
  | argumentList => .choice [
      side [list argument ",", optional moreKeywords],
      pass [keywords]]
  | argument => .choice [pass [starredArgument], pass [plainArgument, notAhead "="]]
  | plainArgument => .choice [pass [assignment], pass [expression, notAhead ":="]]
  | moreKeywords => .choice [pass [",", keywords]]
  | keywords => .choice [
      side [list keywordOrStarred ",", ",", list keywordOrUnpacked ","],
      side [list keywordOrStarred ","],
      side [list keywordOrUnpacked ","]]
  | keywordOrStarred => .choice [
      slip wrongKeyword,
      form .keywordArgument [name, "=", expression],
      pass [starredArgument]]
  | keywordOrUnpacked => .choice [
      slip wrongKeyword,
      form .keywordArgument [name, "=", expression],
      form .keywordUnpacking ["**", expression]]
  | starredArgument => .choice [form .starred ["*", expression], fault .bareStar ["*"]]
  -- targets of loops
  | targets => .choice [
      pass [target, notAhead ","],
      form .tuple [target, many moreTargets, optional ","]]
  | moreTargets => .choice [pass [",", target]]
  | tupleTargets => .choice [
      side [target, oneOrMore moreTargets, optional ","],
      side [target, ","]]
  | target => .choice [form .starred ["*", unstarredTarget], pass [memberTarget]]
  | unstarredTarget => .choice [pass [notAhead "*", target]]
  | memberTarget => .choice [
      form .member [targetPrimary, ".", name, notAhead primaryGoesOn],
      pass [targetAtom]]
  | targetAtom => .choice [
      pass [name],
      pass ["(", memberTarget, ")"],
      form .tuple ["(", optional tupleTargets, ")"]]
  | targetPrimary => .growing
      [pass [atom, ahead primaryGoesOn]]
      [form .member [".", name, ahead primaryGoesOn],
        form .call [generator, ahead primaryGoesOn],
        form .call ["(", optional arguments, ")", ahead primaryGoesOn]]
  | primaryGoesOn => .choice [side ["("], side ["["], side ["."]]
  -- lambdas
  | lambda => .choice [form .lambda ["lambda", optional lambdaParameters, ":", expression]]
  | lambdaParameters => .choice [slip wrongParameters, pass [parameters]]
  | parameters => .choice [
      side [plainBeforeSlash, many plainParameter, many defaultParameter, optional starParameters],
      side [defaultsBeforeSlash, many defaultParameter, optional starParameters],
      side [oneOrMore plainParameter, many defaultParameter, optional starParameters],
      side [oneOrMore defaultParameter, optional starParameters],
      side [starParameters]]
  | plainBeforeSlash => .choice [
      side [oneOrMore plainParameter, "/", ","],
      side [oneOrMore plainParameter, "/", ahead ":"]]
  | defaultsBeforeSlash => .choice [
      side [many plainParameter, oneOrMore defaultParameter, "/", ","],
      side [many plainParameter, oneOrMore defaultParameter, "/", ahead ":"]]
  | starParameters => .choice [
      slip wrongStarParameters,
      side ["*", plainParameter, many anyParameter, optional doubleStarParameter],
      side ["*", ",", oneOrMore anyParameter, optional doubleStarParameter],
      side [doubleStarParameter]]
  | doubleStarParameter => .choice [slip wrongDoubleStar, side ["**", plainParameter]]
  | plainParameter => .choice [side [parameter, ","], side [parameter, ahead ":"]]
  | defaultParameter => .choice [
      side [parameter, defaultValue, ","],
      side [parameter, defaultValue, ahead ":"]]
  | anyParameter => .choice [
      side [parameter, optional defaultValue, ","],
      side [parameter, optional defaultValue, ahead ":"]]
  | parameter => .choice [pass [name]]
  | defaultValue => .choice [pass ["=", expression], slip wrongDefault]
  -- mistakes in expressions
  | wrongExpression => .choice [
      { items := [notAhead twoNames, disjunction, plainExpression], build := sideBySide },
      fault .missingElse [disjunction, "if", disjunction, notAhead elseOrColon]]
  | twoNames => .choice [side [name, string], side [softKeyword]]
  | elseOrColon => .choice [side ["else"], side [":"]]
  | wrongCommand => .choice [
      { items := [name, notAhead "(", starExpressions], build := commandWithout }]
  | wrongNaming => .choice [
      faultOf .namesExpression [expression, ":=", expression],
      fault .singleEquals [name, "=", operand, notAhead equalsOrNaming],
      faultOf .assignsWithin
        [notAhead fixedValue, operand, "=", operand, notAhead equalsOrNaming]]
  | fixedValue => .choice [
      pass [tuple], pass [generator], side ["True"], side ["None"], side ["False"]]
  | equalsOrNaming => .choice [side ["="], side [":="]]
  -- mistakes in brackets
  | wrongGroup => .choice [
      fault .starredGroup ["(", starredArgument, ")"],
      fault .doubleStarredGroup ["(", "**", expression, ")"]]
  | wrongComprehension => .choice [
      fault .starredElement [anyOpening, starredArgument, forClauses],
      fault .bareElement
        [displayOpening, starNamedExpression, ",", starNamedExpressions, forClauses],
      fault .bareElement [displayOpening, starNamedExpression, ",", forClauses]]
  | anyOpening => .choice [side ["["], side ["("], side ["\x7b"]]
  | displayOpening => .choice [side ["["], side ["\x7b"]]
  | wrongDictComprehension => .choice [
      fault .unpackedElement ["\x7b", "**", operand, forClauses, "\x7d"]]
  | wrongPairs => .choice [
      side [list pairOrUnpacked ",", ",", wrongPair],
      fault .starredValue [expression, ":", "*", operand],
      fault .missingValue [expression, ":", ahead bracketOrComma]]
  | wrongPair => .choice [
      fault .missingColon [expression, notAhead ":"],
      fault .starredValue [expression, ":", "*", operand],
      fault .missingValue [expression, ":", ahead bracketOrComma]]
  | bracketOrComma => .choice [side ["\x7d"], side [","]]
  -- mistakes in calls
  | wrongArguments => .choice [
      fault .lateUnpacking [argumentsBefore, ",", list unassignedStarred ","],
      fault .bareGenerator [expression, forClauses, ",", optional argumentsOrGenerator],
      fault .singleEquals [name, "=", expression, forClauses],
      { items := [argumentList, forClauses], build := generatorBehind },
      fault .bareGenerator [argumentList, ",", expression, forClauses],
      { items := [argumentList, ",", argumentList], build := lateArguments }]
  | argumentsBefore => .choice [pass [keywordsBehind], pass [keywords]]
  | keywordsBehind => .choice [side [list argument ",", ",", keywords]]
  | unassignedStarred => .choice [pass [starredArgument, notAhead "="]]
  | argumentsOrGenerator => .choice [pass [argumentList], side [expression, forClauses]]
  | wrongKeyword => .choice [
      faultOf .assigns [constantWord, "="],
      fault .singleEquals [name, "=", expression, forClauses],
      fault .assignsArgument [notAhead nameEquals, expression, "="]]
  | constantWord => .choice [
      form (.truth true) ["True"], form (.truth false) ["False"], form .nothing ["None"]]
  | nameEquals => .choice [side [name, "="]]
  -- mistakes in loops and lambdas
  | wrongTarget => .choice [
      { items := [optional "async", "for", starExpressions], build := wrongLoop }]
  | wrongParameters => .choice [
      fault .lateParameter [many plainParameter, defaultsBefore, plainParameter],
      fault .parenthesizedParameters
        [many plainParameter, "(", list parameter ",", optional ",", ")"],
      fault .nothingBeforeSlash ["/", ","],
      fault .secondSlash [beforeSlash, many anyParameter, "/"],
      fault .slashBehindStar
        [optional beforeSlash, many anyParameter, "*", behindStar, many anyParameter, "/"],
      fault .starJoinsSlash [oneOrMore anyParameter, "/", "*"]]
  | defaultsBefore => .choice [pass [defaultsBeforeSlash], side [oneOrMore defaultParameter]]
  | beforeSlash => .choice [pass [plainBeforeSlash], pass [defaultsBeforeSlash]]
  | behindStar => .choice [side [","], pass [plainParameter]]
  | wrongStarParameters => .choice [
      fault .nothingBehindStar ["*", nothingBehindStar],
      fault .defaultOfStar ["*", parameter, "="],
      fault .secondStar ["*", behindStar, many anyParameter, "*", behindStar]]
  | nothingBehindStar => .choice [side [":"], side [",", colonOrDoubleStar]]
  | colonOrDoubleStar => .choice [side [":"], side ["**"]]
  | wrongDoubleStar => .choice [
      fault .defaultOfDoubleStar ["**", parameter, "="],
      fault .behindDoubleStar ["**", parameter, ",", parameter],
      fault .behindDoubleStar ["**", parameter, ",", starOrSlash]]
  | starOrSlash => .choice [side ["*"], side ["**"], side ["/"]]
  | wrongDefault => .choice [fault .missingDefault ["=", ahead parenthesisOrComma]]
  | parenthesisOrComma => .choice [side [")"], side [","]]

/-- Whether what a rule finds at a place is remembered. -/
def isRemembered : Rule → Bool
  | expression | starExpression | disjunction | conjunction | inversion | factor | awaited
  | strings | arguments | target | memberTarget | wrongNaming => true
  | operation _ | primary | targetPrimary => true
  | _ => false

/-- Whether no mistakes are looked for within a rule. -/
def isUncritical (r : Rule) : Bool :=
  r == plainExpression

end LoadBinding.Literal
