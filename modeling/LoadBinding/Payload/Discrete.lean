import LoadBinding.Mapping
import LoadBinding.Number.Double
import LoadBinding.Number.Shortest

/-!
# Discrete generators

A field with few values draws each of them from a fixed list of weighted texts.  A generator keeps
for every value the total weight up to and including it; a draw in the unit interval is scaled by
the total weight, and the first value whose total lies above the scaled draw is taken.  The draws
come from a `Draws` script, which stands for the source of randomness: every draw from a generator
with values takes one number of the script, which repeats from the start when it is used up.

A value whose weight is too large for a double stays in the list, but has no total.  The totals then
belong to the values by position alone, and a draw that lies below none of them selects the first
value without a total.
-/

namespace LoadBinding

open LoadBinding.Number

/-- The numbers that a source of randomness will give, repeated for ever, and how many of them have
been taken.  An empty script gives zeros. -/
structure Draws where
  script : List Float := []
  taken : Nat := 0

/-- The next number of a script. -/
def Draws.next (d : Draws) : Float × Draws :=
  (d.script.getD (d.taken % d.script.length) 0.0, { d with taken := d.taken + 1 })

/-- The weight of a value, kept as it was given. -/
inductive Weight
  | int (n : Int)
  | real (x : Float)

namespace Weight

/-- The weight as a double, if it does not lie beyond all of them. -/
def toFloat? : Weight → Option Float
  | int n =>
    match decode (ofInt n) with
    | .infinite _ => none
    | _ => some (ofInt n)
  | real x => some x

/-- Whether a weight is zero or less; what is not a number is neither. -/
def isNotPositive : Weight → Bool
  | int n => n ≤ 0
  | real x => x ≤ 0.0

/-- The text of a weight as it was given. -/
def text : Weight → String
  | int n => toString n
  | real x => realText x

end Weight

/-- Why a generator refuses to do something. -/
inductive DiscreteError
  /-- A value may not be added with this weight. -/
  | weightNotPositive (w : Weight)
  /-- A weight lies beyond all doubles. -/
  | weightTooLarge
  /-- There is no value to draw. -/
  | noValues
  /-- There is no total weight, or the scaled draw does not lie below it. -/
  | drawOutOfRange

/-- What a message says about a refusal. -/
def DiscreteError.message : DiscreteError → String
  | weightNotPositive w => "Weight must be positive. Got " ++ w.text
  | weightTooLarge => "int too large to convert to float"
  | noValues => "DiscreteGenerator has no values"
  | drawOutOfRange => "list index out of range"

/-- A weighted choice over finitely many texts. -/
structure Discrete where
  /-- The values in the order in which they were added. -/
  values : Array String := #[]
  /-- The total weight up to and including each value. -/
  totals : Array Float := #[]

namespace Discrete

/-- The total weight of all values. -/
def total (g : Discrete) : Float :=
  g.totals.back?.getD 0.0

/-- Adds a value with a positive weight. -/
def add (g : Discrete) (w : Weight) (value : String) : Except DiscreteError Unit × Discrete :=
  if w.isNotPositive then (.error (.weightNotPositive w), g)
  else
    let total := g.total
    let g := { g with values := g.values.push value }
    match w.toFloat? with
    | none => (.error .weightTooLarge, g)
    | some x => (.ok (), { g with totals := g.totals.push (total + x) })

/-- The value that a draw selects: the one at the position of the first total above the scaled draw,
or behind all totals when there is none. -/
def select? (g : Discrete) (draw : Float) : Option String :=
  let point := draw * g.total
  g.values[(g.totals.findIdx? fun upTo => point < upTo).getD g.totals.size]?

/-- Draws a value.  A generator without values takes no number of the script. -/
def draw (g : Discrete) (d : Draws) : Except DiscreteError String × Draws :=
  if g.values.isEmpty then (.error .noValues, d)
  else
    let (x, d) := d.next
    if g.totals.isEmpty then (.error .drawOutOfRange, d)
    else
      match g.select? x with
      | some value => (.ok value, d)
      | none => (.error .drawOutOfRange, d)

/-- The name of the field with an index. -/
def fieldName (index : Nat) : String := s!"field{index}"

/-- The text of the value with an index. -/
def valueName (index : Nat) : String := s!"value{index}"

/-- The generator of `count` values of equal weight. -/
def uniform (count : Nat) : Discrete :=
  (List.range count).foldl (fun g j => (g.add (.int 1) (valueName j)).2) {}

/-- The generators of the fields from the index `start` on; a cardinality that is not positive
leaves its field without one. -/
def forFieldsFrom (start : Nat) : List Int → Mapping Discrete
  | [] => []
  | count :: rest =>
    if count ≤ 0 then forFieldsFrom (start + 1) rest
    else (fieldName start, uniform count.toNat) :: forFieldsFrom (start + 1) rest

/-- The generators of the fields whose cardinality is positive. -/
def forFields (cardinalities : List Int) : Mapping Discrete :=
  forFieldsFrom 0 cardinalities

end Discrete

end LoadBinding
