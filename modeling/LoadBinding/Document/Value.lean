import LoadBinding.Mapping
import LoadBinding.Number.Shortest
import LoadBinding.Text.Quoted
import LoadBinding.Text.Utf8

/-!
# Values and documents

A document is an ordered mapping from field names to values.  The same values describe the options
of a client, the schemas of an encrypted collection and the entries of a property bag.

`Value.same` decides when two values are equal as keys and conditions: numbers by their size,
whatever their kind, and other scalars only within their own kind; lists and documents are no keys.
`Value.plainText` is a value as a plain text and `Value.literal` as it stands inside a list or a
message; the two differ for texts and identifiers.
-/

namespace LoadBinding

open LoadBinding.Text LoadBinding.Number

/-- A value of a document. -/
inductive Value
  | null
  | bool (b : Bool)
  | int (n : Int)
  /-- An integer stored in 64 bits. -/
  | int64 (n : Int)
  | double (x : Float)
  | text (s : String)
  | bytes (b : Bytes)
  /-- Bytes marked with a subtype; subtype 4 is a universally unique identifier. -/
  | binary (subtype : Nat) (b : Bytes)
  /-- A universally unique identifier, sixteen bytes. -/
  | uuid (b : Bytes)
  | array (items : List Value)
  | document (fields : List (String × Value))
  deriving Inhabited

/-- A document: field names with their values, in order. -/
abbrev Document := Mapping Value

/-- The hyphenated text of an identifier: groups of 8, 4, 4, 4 and 12 hexadecimal digits. -/
def uuidText (b : Bytes) : String :=
  let digits := hexBytes b
  String.ofList <|
    digits.take 8 ++ '-' :: (digits.drop 8).take 4 ++ '-' :: (digits.drop 12).take 4 ++
      '-' :: (digits.drop 16).take 4 ++ '-' :: digits.drop 20

namespace Value

/-- The bytes of a value that is a byte string, with or without a subtype. -/
def asBytes? : Value → Option Bytes
  | .bytes b => some b
  | .binary _ b => some b
  | _ => none

/-- The integer that a truth value or an integer of either width counts as. -/
def asInt? : Value → Option Int
  | .bool b => some (if b then 1 else 0)
  | .int n => some n
  | .int64 n => some n
  | _ => none

/-- The subtype of bytes that must not be shown. -/
def sensitiveSubtype : Nat := 8

/-- Whether two values are equal as keys and conditions. -/
def same (a b : Value) : Bool :=
  match a, b with
  | .null, .null => true
  | .text s, .text t => s == t
  | .bytes s, .bytes t => s == t
  | .binary i s, .binary j t => i == j && s == t
  | .uuid s, .uuid t => s == t
  | .double x, .double y => x == y
  | .double x, b =>
    match b.asInt? with
    | some n => equalsInt x n
    | none => false
  | a, .double y =>
    match a.asInt? with
    | some n => equalsInt y n
    | none => false
  | a, b =>
    match a.asInt?, b.asInt? with
    | some m, some n => m == n
    | _, _ => false

/-- Whether a document may be stored under a value: lists and documents are no keys. -/
def isKey : Value → Bool
  | .array _ => false
  | .document _ => false
  | _ => true

/-- The name by which a message calls the kind of a value. -/
def kindName : Value → String
  | .null => "NoneType"
  | .bool _ => "bool"
  | .int _ => "int"
  | .int64 _ => "Int64"
  | .double _ => "float"
  | .text _ => "str"
  | .bytes _ => "bytes"
  | .binary _ _ => "Binary"
  | .uuid _ => "UUID"
  | .array _ => "list"
  | .document _ => "dict"

mutual

/-- A value as it stands inside a list or a message. -/
def literal : Value → String
  | .null => "None"
  | .bool b => if b then "True" else "False"
  | .int n => toString n
  | .int64 n => toString n
  | .double x => realText x
  | .text s => quote s
  | .bytes b => quoteBytes b
  | .binary subtype b =>
    if subtype == sensitiveSubtype then s!"<Binary(REDACTED, {subtype})>"
    else s!"Binary({quoteBytes b}, {subtype})"
  | .uuid b => s!"UUID({quote (uuidText b)})"
  | .array items => "[" ++ ", ".intercalate (literals items) ++ "]"
  | .document fields => "\x7b" ++ ", ".intercalate (entryLiterals fields) ++ "\x7d"

/-- The literals of the items of a list. -/
def literals : List Value → List String
  | [] => []
  | v :: vs => literal v :: literals vs

/-- The literals of the entries of a document. -/
def entryLiterals : List (String × Value) → List String
  | [] => []
  | (key, v) :: rest => (quote key ++ ": " ++ literal v) :: entryLiterals rest

end

/-- A value as a plain text. -/
def plainText : Value → String
  | .text s => s
  | .uuid b => uuidText b
  | v => v.literal

/-- A stored value as the bytes of a record: bytes are kept, everything else is the UTF-8 form of
its plain text. -/
def toBytes (v : Value) : Bytes :=
  match v.asBytes? with
  | some b => b
  | none => utf8 v.plainText

/-! ## Equality with texts and byte strings -/

@[simp] theorem same_text (v : Value) (s : String) : v.same (.text s) = true ↔ v = .text s := by
  cases v <;> simp [same, asInt?]

@[simp] theorem same_bytes (v : Value) (b : Bytes) : v.same (.bytes b) = true ↔ v = .bytes b := by
  cases v <;> simp [same, asInt?]

end Value

end LoadBinding
