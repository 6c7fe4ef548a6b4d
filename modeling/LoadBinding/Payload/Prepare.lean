import LoadBinding.Document.Value
import LoadBinding.Payload.Discrete
import LoadBinding.Settings.Choice

/-!
# Preparing payloads

The payload of a field goes through three steps before it is stored.

* `override` replaces the payload of a discrete field by a drawn value, padded with `x` to the
  length of the payload and never cut.
* `compress` turns a leading part of the payload into `a`s, so that the whole compresses by about a
  given ratio: of `L` bytes the last `⌊L / ratio + 1/2⌋` are kept.
* `encode` stores the bytes as they are or as the text that they decode to.

`prepare` is the three of them in this order.
-/

namespace LoadBinding

open LoadBinding.Number LoadBinding.Text

/-- Why a payload cannot be prepared. -/
inductive PayloadError
  /-- The ratio is zero. -/
  | zeroRatio
  /-- The number of bytes to keep is not a number. -/
  | keepNotANumber
  /-- The number of bytes to keep is infinite. -/
  | keepInfinite
  /-- The number of filling bytes is beyond all positions in a byte string. -/
  | fillerUncountable
  /-- There are more filling bytes than can be held. -/
  | fillerTooLong
  /-- No value could be drawn. -/
  | discrete (e : DiscreteError)

/-- What a message says about a payload that cannot be prepared. -/
def PayloadError.message : PayloadError → String
  | zeroRatio => "float division by zero"
  | keepNotANumber => "cannot convert float NaN to integer"
  | keepInfinite => "cannot convert float infinity to integer"
  | fillerUncountable => "cannot fit 'int' into an index-sized integer"
  | fillerTooLong => ""
  | discrete e => e.message

namespace Payload

/-- The byte that fills the compressible part. -/
def filler : UInt8 := 'a'.toUInt8

/-- The byte that pads a drawn value. -/
def padding : UInt8 := 'x'.toUInt8

/-- The number of bytes, out of `length`, that are kept as they are: the quotient by the ratio
rounded to the nearest integer, a half upwards. -/
def keepCount (length : Nat) (ratio : Float) : Except PayloadError Int :=
  if ratio == 0.0 then .error .zeroRatio
  else
    match decode (ofInt length / ratio + 0.5) with
    | .nan => .error .keepNotANumber
    | .infinite _ => .error .keepInfinite
    | .finite negative mantissa exponent => .ok (floorScaled negative mantissa exponent)

/-- The greatest position in a byte string. -/
def maxPosition : Int := Int.pow 2 63 - 1

/-- The most filling bytes that can be held, if the payload has fewer of its own. -/
def maxFiller : Int := Int.pow 2 32

/-- The payload of which all but the last `keep` bytes are filler.  A negative `keep` asks for more
filler than the payload has bytes, and only then may it be more than can be held. -/
def fill (data : Bytes) (keep : Int) : Except PayloadError Bytes :=
  let filled := (data.length : Int) - keep
  if keep < 0 ∧ maxPosition < filled then .error .fillerUncountable
  else if keep < 0 ∧ maxFiller < filled then .error .fillerTooLong
  else .ok (List.replicate filled.toNat filler ++ data.drop filled.toNat)

/-- Makes a payload compress by about the given ratio. -/
def compress (data : Bytes) (ratio : Float) : Except PayloadError Bytes := do
  fill data (← keepCount data.length ratio)

/-- A drawn value, padded to the length of the payload that it replaces. -/
def pad (value data : Bytes) : Bytes :=
  value ++ List.replicate (data.length - value.length) padding

/-- Replaces the payload of a discrete field by a drawn value. -/
def override (generators : Mapping Discrete) (field : String) (data : Bytes) (d : Draws) :
    Except PayloadError Bytes × Draws :=
  match generators.get? field with
  | none => (.ok data, d)
  | some g =>
    match g.draw d with
    | (.ok value, d) => (.ok (pad (utf8 value) data), d)
    | (.error e, d) => (.error (.discrete e), d)

/-- The stored form of a payload. -/
def encode (data : Bytes) : Encoding → Value
  | .binary => .bytes data
  | .string => .text (utf8Decode data)

/-- What becomes of the payload of a field on its way into the store. -/
def prepare (generators : Mapping Discrete) (ratio : Float) (encoding : Encoding)
    (field : String) (data : Bytes) (d : Draws) : Except PayloadError Value × Draws :=
  match override generators field data d with
  | (.error e, d) => (.error e, d)
  | (.ok data, d) => ((compress data ratio).map (encode · encoding), d)

end Payload

end LoadBinding
