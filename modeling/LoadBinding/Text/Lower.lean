import LoadBinding.Text.CaseTable
import LoadBinding.Text.Run

/-!
# Lower case

Almost every letter has a lower-case form that does not depend on its neighbours.  The exception is
U+03A3 GREEK CAPITAL LETTER SIGMA, which has a form of its own at the end of a word: after a letter
with a case, and not before one.  U+0130 LATIN CAPITAL LETTER I WITH DOT ABOVE becomes two
characters.
-/

namespace LoadBinding.Text

/-- The lower-case form of a character on its own. -/
def lowerChar (c : Char) : List Char :=
  let n := c.toNat
  if n < 0x80 then [c.toLower]
  else if n == 0x130 then ['i', Char.ofNat 0x307]
  else
    let run? := lowerRuns.find? fun (first, last, step, _) =>
      first ≤ n && n ≤ last && (n - first) % step == 0
    match run? with
    | some (_, _, _, shift) => [Char.ofNat (n + shift).toNat]
    | none => [c]

/-- Whether a text begins with a letter that has a case, behind characters that are passed over. -/
def beginsCased (cs : List Char) : Bool :=
  (cs.dropWhile (inRuns ignorableRuns)).head?.any (inRuns casedRuns)

/-- The lower-case form of the rest of a text, of which `before` has been read, the last character
first. -/
def lowerFrom : (before : List Char) → List Char → List Char
  | _, [] => []
  | before, c :: cs =>
    let lowered :=
      if c.toNat == 0x3A3 && beginsCased before && !beginsCased cs then [Char.ofNat 0x3C2]
      else lowerChar c
    lowered ++ lowerFrom (c :: before) cs

/-- The lower-case form of a text. -/
def lower (s : String) : String :=
  String.ofList (lowerFrom [] s.toList)

end LoadBinding.Text
