/-!
# UTF-8

Texts are stored as their UTF-8 bytes, and payloads become texts by decoding.  Decoding never
fails: a malformed sequence shows as U+FFFD, once for each maximal part of it that could still have
been continued to a well-formed one.

A lead byte announces how many continuation bytes it needs and which values the first of them may
have; all later ones are `0x80` to `0xBF`.  The narrow first ranges after `0xE0`, `0xED`, `0xF0`
and `0xF4` are what excludes overlong forms, surrogates and code points above U+10FFFF, so the
decoder needs no check on the code point it has put together.
-/

namespace LoadBinding.Text

/-- The byte strings that make up payloads and stored values. -/
abbrev Bytes := List UInt8

/-- The UTF-8 bytes of a list of characters. -/
def utf8Encode (cs : List Char) : Bytes :=
  cs.flatMap String.utf8EncodeChar

/-- The UTF-8 bytes of a text. -/
def utf8 (s : String) : Bytes :=
  utf8Encode s.toList

/-- What a lead byte of a multi-byte sequence announces: the value bits it carries, the inclusive
range of the next byte, and how many bytes follow that one. -/
structure Lead where
  value : Nat
  first : UInt8
  last : UInt8
  more : Nat
  deriving DecidableEq, Repr

/-- The announcement of a lead byte, if it may lead a multi-byte sequence at all. -/
def lead? (b : UInt8) : Option Lead :=
  if 0xC2 ≤ b && b ≤ 0xDF then some ⟨b.toNat - 0xC0, 0x80, 0xBF, 0⟩
  else if b == 0xE0 then some ⟨0, 0xA0, 0xBF, 1⟩
  else if b == 0xED then some ⟨0xD, 0x80, 0x9F, 1⟩
  else if 0xE1 ≤ b && b ≤ 0xEF then some ⟨b.toNat - 0xE0, 0x80, 0xBF, 1⟩
  else if b == 0xF0 then some ⟨0, 0x90, 0xBF, 2⟩
  else if 0xF1 ≤ b && b ≤ 0xF3 then some ⟨b.toNat - 0xF0, 0x80, 0xBF, 2⟩
  else if b == 0xF4 then some ⟨4, 0x80, 0x8F, 2⟩
  else none

/-- The character that stands for a malformed part. -/
def replacement : Char := Char.ofNat 0xFFFD

/-- Where a decoder stands between two bytes: before a character, or inside a sequence. -/
inductive DecodeState
  /-- No byte of the next character has been read. -/
  | start
  /-- The bits read so far, the range of the next byte, and how many bytes follow that one. -/
  | inside (pending : Lead)
  deriving DecidableEq, Repr

/-- The reading of a byte with which a character begins: what it completes, and where it leads. -/
def decodeStart (b : UInt8) : List Char × DecodeState :=
  if b < 0x80 then ([Char.ofNat b.toNat], .start)
  else
    match lead? b with
    | some pending => ([], .inside pending)
    | none => ([replacement], .start)

/-- The reading of one byte.  A byte that cannot continue the pending sequence ends it as a
malformed part and is then read afresh. -/
def decodeByte : DecodeState → UInt8 → List Char × DecodeState
  | .start, b => decodeStart b
  | .inside pending, b =>
    if pending.first ≤ b && b ≤ pending.last then
      let value := pending.value * 64 + (b.toNat - 0x80)
      match pending.more with
      | 0 => ([Char.ofNat value], .start)
      | more + 1 => ([], .inside ⟨value, 0x80, 0xBF, more⟩)
    else
      let (cs, state) := decodeStart b
      (replacement :: cs, state)

/-- The characters of the bytes still to come; a sequence cut off by the end is malformed. -/
def decodeFrom : DecodeState → Bytes → List Char
  | .start, [] => []
  | .inside _, [] => [replacement]
  | state, b :: rest =>
    let (cs, next) := decodeByte state b
    cs ++ decodeFrom next rest

/-- The characters of some bytes, malformed parts replaced. -/
def utf8DecodeChars (bytes : Bytes) : List Char :=
  decodeFrom .start bytes

/-- The text of some bytes, malformed parts replaced. -/
def utf8Decode (bytes : Bytes) : String :=
  String.ofList (utf8DecodeChars bytes)

/-- The byte strings that are the UTF-8 form of some text. -/
def WellFormed (bytes : Bytes) : Prop :=
  ∃ cs : List Char, bytes = utf8Encode cs

end LoadBinding.Text
