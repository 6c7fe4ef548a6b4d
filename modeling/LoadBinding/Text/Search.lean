import LoadBinding.Text.Blank

/-!
# Searching in a text

Splitting at a separator or at blanks, cutting at the first occurrence of a pattern and replacing
every occurrence, on lists of characters.
-/

namespace LoadBinding.Text

/-- The parts of a text between the occurrences of a separator; one more than there are. -/
def splitOn (separator : Char) : List Char → List (List Char)
  | [] => [[]]
  | c :: cs =>
    if c == separator then [] :: splitOn separator cs
    else
      match splitOn separator cs with
      | [] => [[c]]
      | part :: parts => (c :: part) :: parts

/-- The words of a text: its longest parts without blanks. -/
def words (cs : List Char) : List (List Char) :=
  (splitOn ' ' (cs.map fun c => if isBlank c then ' ' else c)).filter fun word => !word.isEmpty

/-- What stands before and after the first occurrence of a pattern. -/
def cut? (pattern : List Char) : List Char → Option (List Char × List Char)
  | [] => if pattern.isEmpty then some ([], []) else none
  | c :: cs =>
    if pattern.isPrefixOf (c :: cs) then some ([], (c :: cs).drop pattern.length)
    else (cut? pattern cs).map fun (before, after) => (c :: before, after)

/-- The replacement of a non-empty pattern, after `skip` more characters of the occurrence just
replaced have been passed over. -/
def replaceFrom (pattern replacement : List Char) : (skip : Nat) → List Char → List Char
  | _, [] => []
  | skip + 1, _ :: cs => replaceFrom pattern replacement skip cs
  | 0, c :: cs =>
    if pattern.isPrefixOf (c :: cs) then
      replacement ++ replaceFrom pattern replacement (pattern.length - 1) cs
    else c :: replaceFrom pattern replacement 0 cs

/-- Replaces the occurrences of a non-empty pattern, found from the left and not overlapping. -/
def replaceAll (pattern replacement cs : List Char) : List Char :=
  replaceFrom pattern replacement 0 cs

end LoadBinding.Text
