/-!
# Doubles as exact numbers

A finite double is an integer times a power of two.  `decode` reads both off the bits, so that
rounding down and comparing with integers are exact integer arithmetic and never depend on how a
floating-point operation rounds.
-/

namespace LoadBinding.Number

/-- What a double stands for. -/
inductive Decoded
  | nan
  | infinite (negative : Bool)
  /-- The number `± mantissa · 2 ^ exponent`. -/
  | finite (negative : Bool) (mantissa : Nat) (exponent : Int)
  deriving DecidableEq, Repr

/-- The number that a double stands for. -/
def decode (x : Float) : Decoded :=
  let bits : Nat := x.toBits.toNat
  let negative := bits / Nat.pow 2 63 == 1
  let biased : Nat := bits / Nat.pow 2 52 % Nat.pow 2 11
  let fraction : Nat := bits % Nat.pow 2 52
  if biased == 0x7FF then
    if fraction == 0 then .infinite negative else .nan
  else if biased == 0 then .finite negative fraction (-1074)
  else .finite negative (Nat.pow 2 52 + fraction) (biased - 1075)

/-- The greatest integer not above `± mantissa · 2 ^ exponent`. -/
def floorScaled (negative : Bool) (mantissa : Nat) (exponent : Int) : Int :=
  let signed : Int := if negative then -mantissa else mantissa
  if 0 ≤ exponent then signed * Nat.pow 2 exponent.toNat
  else signed.fdiv (Nat.pow 2 (-exponent).toNat)

/-- Whether `± mantissa · 2 ^ exponent` is an integer. -/
def isIntegral (mantissa : Nat) (exponent : Int) : Bool :=
  0 ≤ exponent || mantissa % Nat.pow 2 (-exponent).toNat == 0

/-- Whether a double is exactly the integer `n`. -/
def equalsInt (x : Float) (n : Int) : Bool :=
  match decode x with
  | .finite negative mantissa exponent =>
    isIntegral mantissa exponent && floorScaled negative mantissa exponent == n
  | _ => false

/-- The double with the given sign that is nearest to `mantissa · 10 ^ exponent`.  Exponents far
outside the range of doubles are settled by their size alone. -/
def ofDecimal (negative : Bool) (mantissa : Nat) (exponent : Int) : Float :=
  let digits : Int := (Nat.toDigits 10 mantissa).length
  let magnitude : Float :=
    if mantissa == 0 || digits + exponent < -330 then 0.0
    else if 310 < digits + exponent then 1.0 / 0.0
    else Float.ofScientific mantissa (exponent < 0) exponent.natAbs
  if negative then -magnitude else magnitude

/-- The double nearest to an integer. -/
def ofInt (n : Int) : Float :=
  ofDecimal (n < 0) n.natAbs 0

end LoadBinding.Number
