import LoadBinding.Text.Printable

/-!
# Quoted literals

Error messages and stored values show a text between quotes, on one line and in printable
characters only.  The quote is `'`, unless the text holds a `'` and no `"`.  The quote, the
backslash and the three common line characters are escaped by a backslash and a letter; every other
character that is not printable is written by its code in two, four or eight hexadecimal digits,
the fewest that hold it.  Bytes are quoted by the same rule, with a leading `b`, and every byte
outside printable ASCII is written by its code.
-/

namespace LoadBinding.Text

/-- The lower-case hexadecimal digit of a number below sixteen. -/
def hexDigit (n : Nat) : Char :=
  if n < 10 then Char.ofNat (48 + n) else Char.ofNat (87 + n)

/-- The last `width` hexadecimal digits of a number. -/
def hex : (width : Nat) → Nat → List Char
  | 0, _ => []
  | width + 1, n => hex width (n / 16) ++ [hexDigit (n % 16)]

/-- The hexadecimal text of some bytes, two digits each. -/
def hexBytes (bytes : List UInt8) : List Char :=
  bytes.flatMap fun b => hex 2 b.toNat

/-- The quote that needs the fewest escapes, the single one when both do equally well. -/
def quoteFor (cs : List Char) : Char :=
  if cs.contains '\'' && !cs.contains '"' then '"' else '\''

/-- The escapes that a text and a byte string share: the quote, the backslash, and the letters for
line feed, carriage return and tab. -/
def letterEscape? (quote c : Char) : Option (List Char) :=
  if c == quote || c == '\\' then some ['\\', c]
  else if c == '\n' then some ['\\', 'n']
  else if c == '\r' then some ['\\', 'r']
  else if c == '\t' then some ['\\', 't']
  else none

/-- One character as it stands between the quotes of a text. -/
def quoteChar (quote c : Char) : List Char :=
  match letterEscape? quote c with
  | some escape => escape
  | none =>
    if isPrintable c then [c]
    else if c.toNat ≤ 0xFF then '\\' :: 'x' :: hex 2 c.toNat
    else if c.toNat ≤ 0xFFFF then '\\' :: 'u' :: hex 4 c.toNat
    else '\\' :: 'U' :: hex 8 c.toNat

/-- A text between quotes. -/
def quoteChars (cs : List Char) : List Char :=
  let quote := quoteFor cs
  quote :: cs.flatMap (quoteChar quote) ++ [quote]

/-- A text between quotes. -/
def quote (s : String) : String :=
  String.ofList (quoteChars s.toList)

/-- One byte as it stands between the quotes of a byte string. -/
def quoteByte (quote : Char) (b : UInt8) : List Char :=
  let c := Char.ofNat b.toNat
  match letterEscape? quote c with
  | some escape => escape
  | none => if 0x20 ≤ b && b < 0x7F then [c] else '\\' :: 'x' :: hex 2 b.toNat

/-- A byte string between quotes, marked by a `b`. -/
def quoteBytes (bytes : List UInt8) : String :=
  let quote := quoteFor (bytes.map fun b => Char.ofNat b.toNat)
  String.ofList ('b' :: quote :: bytes.flatMap (quoteByte quote) ++ [quote])

end LoadBinding.Text
