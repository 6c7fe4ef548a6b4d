import LoadBinding.Log.Markup

/-!
# Setting up logging

All components log under one family of names.  The logger at the head of the family has a level, a
list of handlers, and a switch that says whether records go on to the root logger; `Logger.setUp`
replaces its handlers by one of the kind asked for, and `Logger.emit` says where a record goes.

The members of the family inherit everything from its head.  A record passes if it reaches the level
of the head, or that of the root when the head has none, and then goes to every handler whose own
level it reaches.  A record that meets no handler at all is written plainly when it is a warning or
worse.  Level zero and below are never logged.

A name belongs to the family if the chain of its parents leads to the head (`isMember`).  A parent
is the longest beginning of a name that ends before a dot and has been logged under itself, but
behind one dot no second dot is considered.  So a name may change sides when one of its beginnings
is first logged under; its answers for the levels asked before are kept until the next set-up.

A coloured console reads records as markup, and a record that is none reaches nothing.
-/

namespace LoadBinding.Log

open LoadBinding.Text

/-- A level.  A truth value is shown as it is, and stands for one or zero. -/
inductive LevelValue
  | number (n : Int)
  | truth (b : Bool)
  deriving DecidableEq, Repr

/-- The number of a level. -/
def LevelValue.toInt : LevelValue → Int
  | number n => n
  | truth b => if b then 1 else 0

/-- A level as it is written. -/
def LevelValue.text : LevelValue → String
  | number n => toString n
  | truth b => if b then "True" else "False"

/-- A level as it is asked for: by name or as such, or by something else, of which only the text
matters. -/
inductive LevelName
  | name (s : String)
  | level (v : LevelValue)
  | other (literal : String)
  deriving DecidableEq, Repr

/-- The levels that have a name; a later name for the same number is an old one. -/
def namedLevels : List (String × Int) :=
  [("CRITICAL", 50), ("ERROR", 40), ("WARNING", 30), ("INFO", 20), ("DEBUG", 10), ("NOTSET", 0),
    ("FATAL", 50), ("WARN", 30)]

/-- The number of an information record. -/
def infoLevel : Int := 20

/-- The number of a warning, which is also the level of the root logger. -/
def warningLevel : Int := 30

/-- The level that is asked for, if it is known. -/
def LevelName.level? : LevelName → Option LevelValue
  | name s => (namedLevels.lookup s).map LevelValue.number
  | level v => some v
  | other _ => none

/-- A level as it was asked for. -/
def LevelName.text : LevelName → String
  | name s => s
  | level v => v.text
  | other literal => literal

/-- The name that a record shows for its level. -/
def levelText (v : LevelValue) : String :=
  match namedLevels.find? fun (_, number) => number == v.toInt with
  | some (name, _) => name
  | none => "Level " ++ v.text

/-- The kinds of handlers. -/
inductive HandlerKind
  /-- Drops what it is given. -/
  | null
  /-- Writes lines to the error stream. -/
  | stream
  /-- Writes to a console with colours. -/
  | console
  deriving DecidableEq, Repr

/-- A handler, and the least level that it accepts. -/
structure Handler where
  kind : HandlerKind
  level : LevelValue := .number 0
  deriving DecidableEq, Repr

/-- The logger at the head of the family. -/
structure Logger where
  /-- The least level that passes; zero for that of the root. -/
  level : LevelValue := .number 0
  /-- Whether records go on to the root logger. -/
  propagate : Bool := true
  handlers : List Handler := [{ kind := .null }]
  /-- The names that have been logged under. -/
  known : List String := []
  /-- Whether a level passes under a name, as answered since the last set-up. -/
  answered : List ((String × Int) × Bool) := []
  deriving DecidableEq, Repr

/-- A record as the root logger receives it. -/
structure RootRecord where
  level : String
  source : String
  text : String
  deriving DecidableEq, Repr

/-- Where records went: to the error stream, and to the root logger. -/
structure Emission where
  written : String := ""
  root : List RootRecord := []
  deriving DecidableEq, Repr

/-- Why a record or a set-up is refused. -/
inductive LoggingError
  /-- A level is not known. -/
  | unknownLevel (level : LevelName)
  /-- A record has a level that is no number. -/
  | noNumber
  /-- The record is no markup. -/
  | markup (e : MarkupError)
  deriving DecidableEq, Repr

/-- What a message says about a refusal. -/
def LoggingError.message : LoggingError → String
  | unknownLevel (.other literal) => "Level not an integer or a valid string: " ++ literal
  | unknownLevel level => "Unknown level: " ++ quote level.text
  | noNumber => "level must be an integer"
  | markup e => e.message

/-- The name of the head of the family. -/
def family : String := "mongobench"

/-- Whether the parents of a name, given from its last character to its first, lead to the head of
the family, when the names of `known` have been logged under. -/
def parentsLead (known : List String) : List Char → Bool
  | '.' :: c :: cs =>
    let beginning := String.ofList (c :: cs).reverse
    beginning == family ||
      if known.contains beginning then parentsLead known (c :: cs) else parentsLead known cs
  | _ :: cs => parentsLead known cs
  | [] => false

/-- Whether a name belongs to the family when the names of `known` have been logged under. -/
def isMember (known : List String) (source : String) : Bool :=
  source == family || parentsLead known source.toList.reverse

/-- The name of the root logger, which also bears the empty name. -/
def rootName : String := "root"

/-- A record as a line of the error stream. -/
def line (time : String) (level : LevelValue) (source text : String) : String :=
  s!"{time} [{levelText level}] MainThread {source}: {text}\n"

namespace Logger

/-- The least level that passes. -/
def threshold (l : Logger) : Int :=
  if l.level.toInt == 0 then warningLevel else l.level.toInt

/-- Whether records of a level pass under a name. -/
def passes (l : Logger) (source : String) (level : Int) : Bool :=
  if level ≤ 0 then false
  else if isMember l.known source then l.threshold ≤ level
  else warningLevel ≤ level

/-- The answer for a level under a name, which is kept. -/
def ask (l : Logger) (source : String) (level : Int) : Bool × Logger :=
  match l.answered.lookup (source, level) with
  | some answer => (answer, l)
  | none =>
    let answer := l.passes source level
    (answer, { l with answered := ((source, level), answer) :: l.answered })

/-- A record as markup. -/
def markupText (source text : String) : String :=
  "[dim white]" ++ source ++ "[/dim white]: " ++ text

/-- What a handler of the head writes of a record. -/
def handle (handler : Handler) (time : String) (level : LevelValue) (source text : String) :
    Except LoggingError String :=
  if level.toInt < handler.level.toInt then .ok ""
  else
    match handler.kind with
    | .null => .ok ""
    | .stream => .ok (line time level source text)
    | .console =>
      match Markup.leftOpen (markupText source text) with
      | .ok _ => .ok ""
      | .error e => .error (.markup e)

/-- Where a record that passes goes. -/
def deliver (l : Logger) (time : String) (level : LevelValue) (source text : String) :
    Except LoggingError Emission :=
  if isMember l.known source then
    if l.handlers.isEmpty && !l.propagate then
      .ok { written := if warningLevel ≤ level.toInt then text ++ "\n" else "" }
    else do
      let written ← l.handlers.mapM fun handler => handle handler time level source text
      return {
        written := String.join written
        root := if l.propagate then [⟨levelText level, source, text⟩] else [] }
  else
    .ok { root := [⟨levelText level, if source.isEmpty then rootName else source, text⟩] }

/-- Where a record goes. -/
def emit (l : Logger) (time : String) (level : LevelName) (source text : String) :
    Except LoggingError Emission × Logger :=
  let l := { l with known := source :: l.known }
  match level with
  | .level v =>
    let (isPassing, l) := l.ask source v.toInt
    (if isPassing then l.deliver time v source text else .ok {}, l)
  | _ => (.error .noNumber, l)

/-- Replaces the handlers by a coloured console or by lines on the error stream, sets the level and
the propagation, and announces the level.  When the level is unknown, the handlers that were there
are gone; of the new ones, only that of the error stream does not ask for the level first. -/
def setUp (l : Logger) (time : String) (level : LevelName) (pretty propagate : Bool) :
    Except LoggingError Emission × Logger :=
  match level.level? with
  | none =>
    let handlers : List Handler := if pretty then [] else [{ kind := .stream }]
    (.error (.unknownLevel level), { l with handlers := handlers })
  | some v =>
    let handler : Handler :=
      if pretty then { kind := .console, level := v } else { kind := .stream }
    let l : Logger := { level := v, propagate, handlers := [handler], known := l.known }
    let shown := if pretty then "[bold]" ++ level.text ++ "[/bold]" else level.text
    l.emit time (.level (.number infoLevel)) family
      ("Binding logging initialized at level: " ++ shown)

end Logger

end LoadBinding.Log
