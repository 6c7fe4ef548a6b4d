import LoadBinding.Text.Blank
import LoadBinding.Text.Lower

/-!
# Keywords

Flags and named options are recognised whatever their case and the blanks around them.
-/

namespace LoadBinding.Text

/-- A text as it is compared with keywords: stripped of blanks, its letters lower-case. -/
def keyword (s : String) : String :=
  lower (strip s)

end LoadBinding.Text
