import LoadBinding.Number.Double

/-!
# The shortest decimal of a double

A double is written with the fewest digits that read back as the same double, and among those with
the digits nearest to it.  All of it is exact integer arithmetic: the double, and the two bounds of
the reals that round to it, are fractions with one denominator, and for one digit, two digits and
so on the two neighbours of the double on that decimal grid are compared with the bounds.  Seventeen
digits always suffice.

The notation is positional from `0.0001` up to sixteen digits before the point, and otherwise has an
exponent of at least two digits; a whole number in positional notation ends in `.0`.
-/

namespace LoadBinding.Number

/-- The reals that round to a double `value / scale`, between `low / scale` and `high / scale`. -/
structure Interval where
  low : Nat
  value : Nat
  high : Nat
  scale : Nat
  /-- Whether the bounds themselves round to the double. -/
  closed : Bool

/-- The interval of the double `mantissa · 2 ^ exponent`.  Below a power of two the doubles lie
twice as close, so the lower bound is half as far away. -/
def Interval.of (mantissa : Nat) (exponent : Int) : Interval :=
  let up := Nat.pow 2 (exponent - 2).toNat
  let below := if mantissa == Nat.pow 2 52 && exponent != -1074 then 1 else 2
  { low := (4 * mantissa - below) * up
    value := 4 * mantissa * up
    high := (4 * mantissa + 2) * up
    scale := Nat.pow 2 (2 - exponent).toNat
    closed := mantissa % 2 == 0 }

/-- Whether `n · 10 ^ unit` lies in the interval. -/
def Interval.contains (i : Interval) (n : Nat) (unit : Int) : Bool :=
  let x := n * Nat.pow 10 unit.toNat * i.scale
  let grid := Nat.pow 10 (-unit).toNat
  if i.closed then i.low * grid ≤ x && x ≤ i.high * grid
  else i.low * grid < x && x < i.high * grid

/-- The number of decimal digits before the point of a positive fraction; not positive when the
fraction is below one tenth. -/
def magnitude (numerator denominator : Nat) : Int :=
  if denominator ≤ numerator then (Nat.toDigits 10 (numerator / denominator)).length
  else
    let tens := (Nat.toDigits 10 (denominator / numerator)).length
    if denominator ≤ numerator * Nat.pow 10 (tens - 1) then 2 - tens else 1 - tens

/-- The shortest decimal of the interval on the grids from `count` digits on, as an integer and the
exponent of its unit. -/
def shortestFrom (i : Interval) (point : Int) : (fuel count : Nat) → Nat × Int
  | 0, count =>
    let unit := point - count
    (i.value * Nat.pow 10 (-unit).toNat / (i.scale * Nat.pow 10 unit.toNat), unit)
  | fuel + 1, count =>
    let unit := point - count
    let numerator := i.value * Nat.pow 10 (-unit).toNat
    let denominator := i.scale * Nat.pow 10 unit.toNat
    let down := numerator / denominator
    let remainder := numerator % denominator
    let downFits := i.contains down unit
    let upFits := i.contains (down + 1) unit
    let nearerUp :=
      denominator < 2 * remainder || (denominator == 2 * remainder && down % 2 == 1)
    if downFits && (!upFits || !nearerUp) then (down, unit)
    else if upFits then (down + 1, unit)
    else shortestFrom i point fuel (count + 1)

/-- The digits of the shortest decimal of `mantissa · 2 ^ exponent`, without zeros at the end, and
the place of the point: the number is `0.d₁d₂… · 10 ^ point`. -/
def shortestDigits (mantissa : Nat) (exponent : Int) : List Char × Int :=
  let i := Interval.of mantissa exponent
  let (n, unit) := shortestFrom i (magnitude i.value i.scale) 17 1
  let digits := Nat.toDigits 10 n
  ((digits.reverse.dropWhile (· == '0')).reverse, unit + digits.length)

/-- The digits with the point at its place, or with an exponent when that is far away. -/
def layOut (digits : List Char) (point : Int) : List Char :=
  if -4 < point && point ≤ 16 then
    if point ≤ 0 then '0' :: '.' :: List.replicate (-point).toNat '0' ++ digits
    else
      let places := point.toNat
      if digits.length ≤ places then
        digits ++ List.replicate (places - digits.length) '0' ++ ['.', '0']
      else digits.take places ++ '.' :: digits.drop places
  else
    let exponent := point - 1
    let figures := Nat.toDigits 10 exponent.natAbs
    let padded := if figures.length < 2 then '0' :: figures else figures
    let leading := digits.take 1
    let rest := digits.drop 1
    leading ++ (if rest.isEmpty then [] else '.' :: rest) ++
      'e' :: (if exponent < 0 then '-' else '+') :: padded

/-- The text of a double. -/
def realText (x : Float) : String :=
  match decode x with
  | .nan => "nan"
  | .infinite negative => if negative then "-inf" else "inf"
  | .finite negative mantissa exponent =>
    let body :=
      if mantissa == 0 then ['0', '.', '0']
      else
        let (digits, point) := shortestDigits mantissa exponent
        layOut digits point
    String.ofList (if negative then '-' :: body else body)

end LoadBinding.Number
