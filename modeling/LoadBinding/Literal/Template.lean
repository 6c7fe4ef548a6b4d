import LoadBinding.Literal.Escape
import LoadBinding.Literal.Scan

/-!
# Texts with embedded expressions

A template is a text in which expressions stand in braces; a brace of the text itself is written
twice.  Behind an expression there may be an equals sign, a conversion behind `!`, and a
format behind `:`.  The format may hold expressions in turn, but those have formats without any.

An expression is found before it is read: `expressionEnd` looks for the character that ends it,
passing over brackets and strings.
-/

namespace LoadBinding.Literal

open LoadBinding.Text

/-- The part of a template that ends at the brace `c`: the text, what follows, and whether it is a
brace of the text itself, which does not end the text. -/
def atBrace (isFormat : Bool) (taken : List Char) (c : Char) (cs : List Char) :
    Except TemplateProblem (List Char × List Char × Bool) :=
  if isFormat then .ok (taken.reverse, c :: cs, false)
  else if cs.head? == some c then .ok ((c :: taken).reverse, cs.drop 1, true)
  else if c == '\x7d' then .error .singleBrace
  else .ok (taken.reverse, c :: cs, false)

/-- The text at the front of a template, up to the next brace.  `inName` says that a character's
name has begun, the braces of which do not count. -/
def textPart (isRaw isFormat : Bool) : (inName : Bool) → (taken : List Char) → List Char →
    Except TemplateProblem (List Char × List Char × Bool)
  | _, taken, [] => .ok (taken.reverse, [], false)
  | true, taken, c :: cs => textPart isRaw isFormat (c != '\x7d') (c :: taken) cs
  | false, taken, c :: cs =>
    if c == '\\' && !isRaw then
      match cs with
      | [] => .ok ((c :: taken).reverse, [], false)
      | 'N' :: '\x7b' :: more => textPart isRaw isFormat true ('\x7b' :: 'N' :: c :: taken) more
      | 'N' :: d :: more => textPart isRaw isFormat false (d :: 'N' :: c :: taken) more
      | d :: more =>
        if d == '\x7b' || d == '\x7d' then atBrace isFormat (c :: taken) d more
        else textPart isRaw isFormat false (d :: c :: taken) more
    else if c == '\x7b' || c == '\x7d' then atBrace isFormat taken c cs
    else textPart isRaw isFormat false (c :: taken) cs

/-- Separates an expression from the character that ends it.  `quote?` is the quote of the string
that has begun, and whether it is a triple one; `brackets` are those that are open. -/
def expressionEnd : (quote? : Option (Char × Bool)) → (brackets : List Char) →
    (taken : List Char) → List Char → Except TemplateProblem (List Char × List Char)
  | some _, _, _, [] => .error .unterminated
  | none, b :: _, _, [] => .error (.unmatched b)
  | none, [], _, [] => .error .missingBrace
  | _, _, _, '\\' :: _ => .error .backslash
  | some (quote, isTriple), brackets, taken, c :: cs =>
    if c == quote then
      match isTriple, cs with
      | true, d :: e :: more =>
        if d == quote && e == quote then
          expressionEnd none brackets (e :: d :: c :: taken) more
        else expressionEnd (some (quote, isTriple)) brackets (c :: taken) (d :: e :: more)
      | true, cs => expressionEnd (some (quote, isTriple)) brackets (c :: taken) cs
      | false, cs => expressionEnd none brackets (c :: taken) cs
    else expressionEnd (some (quote, isTriple)) brackets (c :: taken) cs
  | none, brackets, taken, c :: cs =>
    if c == '\'' || c == '"' then
      match cs with
      | d :: e :: more =>
        if d == c && e == c then
          expressionEnd (some (c, true)) brackets (e :: d :: c :: taken) more
        else expressionEnd (some (c, false)) brackets (c :: taken) (d :: e :: more)
      | cs => expressionEnd (some (c, false)) brackets (c :: taken) cs
    else if c == '(' || c == '[' || c == '\x7b' then
      if maxBrackets ≤ brackets.length then .error .tooManyBrackets
      else expressionEnd none (c :: brackets) (c :: taken) cs
    else if c == '#' then .error .comment
    else
      match brackets with
      | [] =>
        if c == '!' || c == '=' || c == '<' || c == '>' then
          match cs with
          | '=' :: more => expressionEnd none [] ('=' :: c :: taken) more
          | cs =>
            if c == '<' || c == '>' then expressionEnd none [] (c :: taken) cs
            else .ok (taken.reverse, c :: cs)
        else if c == ':' || c == '\x7d' then .ok (taken.reverse, c :: cs)
        else if c == ')' || c == ']' then .error (.unmatched c)
        else expressionEnd none [] (c :: taken) cs
      | b :: outer =>
        match partner? c with
        | some opening =>
          if b == opening then expressionEnd none outer (c :: taken) cs
          else .error (.mismatched c b)
        | none => expressionEnd none brackets (c :: taken) cs

/-- The characters that are passed over before and behind an expression. -/
def isTemplateGap (c : Char) : Bool :=
  isGap c || c == '\n'

/-- The number of line breaks in a text. -/
def lineBreaks (cs : List Char) : Nat :=
  cs.count '\n'

/-- What follows behind the equals sign that stands behind an expression, if there is one. -/
def behindEquals : List Char → Except TemplateProblem (List Char)
  | '=' :: cs =>
    match cs.dropWhile fun c => isTemplateGap c || c == '\x0b' with
    | [] => .error .missingBrace
    | rest => .ok rest
  | cs => .ok cs

/-- What follows behind the conversion that stands behind an expression, if there is one. -/
def behindConversion : List Char → Except TemplateProblem (List Char)
  | ['!'] => .error .missingBrace
  | '!' :: c :: cs =>
    if c == 's' || c == 'r' || c == 'a' then .ok cs else .error .unknownConversion
  | cs => .ok cs

section

/- Reads an expression that begins on a line, and checks the escapes of a text. -/
variable (readEmbedded : (line : Nat) → List Char → Except Problem Unit)
  (check : List Char → Except StringProblem Unit)

/-- Reads an expression, given without the character that ends it. -/
def readInside (line : Nat) (inside : List Char) (ending : List Char) : Except Problem Unit :=
  if inside.all isTemplateGap then
    match ending with
    | '\x7d' :: _ | [] => .error (.template .empty)
    | c :: _ => .error (.template (.missingExpression c))
  else readEmbedded line inside

/-- Reads the parts of a template from a line on, up to the end, or, of a format, up to the brace
behind it.  What is left is returned together with its line. -/
def readParts (isRaw : Bool) : (count depth line : Nat) → List Char →
    Except Problem (List Char × Nat)
  | 0, _, line, cs => .ok (cs, line)
  | count + 1, depth, line, cs => do
    let (text, rest, isDoubled) ←
      (textPart isRaw (depth != 0) false [] cs).mapError Problem.template
    if !isRaw then (check text).mapError Problem.string
    let line := line + lineBreaks text
    if isDoubled then readParts isRaw count depth line rest
    else
      match rest with
      | '\x7b' :: cs =>
        if 2 ≤ depth then throw (.template .nestedTooDeeply)
        let (inside, ending) ← (expressionEnd none [] [] cs).mapError Problem.template
        readInside readEmbedded line inside ending
        let behind ← (behindEquals ending).mapError Problem.template
        let behind ← (behindConversion behind).mapError Problem.template
        let used := cs.take (cs.length - behind.length)
        let line := line + lineBreaks used
        match behind with
        | [':'] => throw (.template .missingBrace)
        | ':' :: format =>
          let (rest, line) ← readParts isRaw count (depth + 1) line format
          match rest with
          | '\x7d' :: cs => readParts isRaw count depth line cs
          | _ => throw (.template .missingBrace)
        | '\x7d' :: cs => readParts isRaw count depth line cs
        | _ => throw (.template .missingBrace)
      | rest => return (rest, line)

/-- Reads a template whose text begins on a line. -/
def readTemplate (isRaw : Bool) (line : Nat) (cs : List Char) : Except Problem Unit := do
  let _ ← readParts readEmbedded check isRaw (cs.length + 1) 0 line cs

end

end LoadBinding.Literal
