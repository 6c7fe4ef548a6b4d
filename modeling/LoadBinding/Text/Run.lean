/-!
# Runs of code points

A property of characters is given by the runs of code points that have it: pairs of the first and
the last member, in ascending order.
-/

namespace LoadBinding.Text

/-- Whether a character lies in one of some runs of code points. -/
def inRuns (runs : List (Nat × Nat)) (c : Char) : Bool :=
  runs.any fun (first, last) => first ≤ c.toNat && c.toNat ≤ last

end LoadBinding.Text
