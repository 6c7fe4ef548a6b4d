import LoadBinding.Text.Digit
import LoadBinding.Text.NameList.AToC
import LoadBinding.Text.NameList.DToL
import LoadBinding.Text.NameList.MToZ

/-!
# Names of characters

The Unicode standard gives most characters a name.  Two large series of names follow a rule: an
ideograph is named by its code (`isIdeographName`), and a Hangul syllable by the romanized sounds of
which it consists (`isSyllableName`).  All other names are listed, in alphabetical order: a
lower-case letter or a sign says how many characters a name shares with the name before it, and the
rest of the name follows.  Listed names may be given in any case.
-/

namespace LoadBinding.Text

/-! ## Listed names -/

/-- The signs that stand for shares from twenty-six on. -/
def shareSigns : List Char :=
  "!#$%&*+,.:;<=>?@^_|~()".toList

/-- The number of characters that a name shares with the one before it, given by its mark. -/
def share? (c : Char) : Option Nat :=
  if 'a' ≤ c && c ≤ 'z' then some (c.toNat - 97)
  else (shareSigns.findIdx? (· == c)).map (· + 26)

/-- Whether a name is listed.  Names are given from the last character to the first, and `current`
is the beginning of the name that is being spelled. -/
def isListedBehind (name : List Char) : (current : List Char) → List Char → Bool
  | current, [] => current == name
  | current, c :: cs =>
    match share? c with
    | some share =>
      current == name || isListedBehind name (current.drop (current.length - share)) cs
    | none => isListedBehind name (c :: current) cs

/-- Whether a name in capital letters is listed. -/
def isListedName (name : List Char) : Bool :=
  match name.head? with
  | none => false
  | some c =>
    let names := if c ≤ 'C' then namesAToC else if c ≤ 'L' then namesDToL else namesMToZ
    isListedBehind name.reverse [] (names.flatMap String.toList)

/-! ## Ideographs -/

/-- The ranges of ideographs that are named by their code. -/
def ideographRuns : List (Nat × Nat) :=
  [(0x3400, 0x4DBF), (0x4E00, 0x9FFF), (0x20000, 0x2A6DF), (0x2A700, 0x2B738), (0x2B740, 0x2B81D),
   (0x2B820, 0x2CEA1), (0x2CEB0, 0x2EBE0), (0x30000, 0x3134A)]

/-- What the name of an ideograph begins with. -/
def ideographFront : List Char :=
  "CJK UNIFIED IDEOGRAPH-".toList

/-- The value of a hexadecimal digit in capital letters. -/
def capitalHex? (c : Char) : Option Nat :=
  match asciiDigit? c with
  | some d => some d
  | none => if 'A' ≤ c && c ≤ 'F' then some (c.toNat - 55) else none

/-- Whether a text behind the front of a name is the code of an ideograph. -/
def isIdeographName (code : List Char) : Bool :=
  let n := (code.filterMap capitalHex?).foldl (fun n d => n * 16 + d) 0
  (code.length == 4 || code.length == 5) && (code.all fun c => (capitalHex? c).isSome) &&
    ideographRuns.any fun (first, last) => first ≤ n && n ≤ last

/-! ## Syllables -/

/-- What the name of a syllable begins with. -/
def syllableFront : List Char :=
  "HANGUL SYLLABLE ".toList

/-- The sounds at the beginning of a syllable. -/
def leadingSounds : List String :=
  ["G", "GG", "N", "D", "DD", "R", "M", "B", "BB", "S", "SS", "", "J", "JJ", "C", "K", "T", "P",
    "H"]

/-- The sounds in the middle of a syllable. -/
def vowelSounds : List String :=
  ["A", "AE", "YA", "YAE", "EO", "E", "YEO", "YE", "O", "WA", "WAE", "OE", "YO", "U", "WEO", "WE",
    "WI", "YU", "EU", "YI", "I"]

/-- The sounds at the end of a syllable. -/
def trailingSounds : List String :=
  ["", "G", "GG", "GS", "N", "NJ", "NH", "D", "L", "LG", "LM", "LB", "LS", "LT", "LP", "LH", "M",
    "B", "BS", "S", "SS", "NG", "J", "C", "K", "T", "P", "H"]

/-- What follows in a text behind the longest of some sounds with which it begins. -/
def behindSound? (sounds : List String) (cs : List Char) : Option (List Char) :=
  let fitting := (sounds.map String.toList).filter fun sound => sound.isPrefixOf cs
  (fitting.map List.length).max?.map fun length => cs.drop length

/-- Whether a text behind the front of a name is a syllable. -/
def isSyllableName (cs : List Char) : Bool :=
  let rest? := do
    let cs ← behindSound? leadingSounds cs
    let cs ← behindSound? vowelSounds cs
    behindSound? trailingSounds cs
  rest? == some []

/-- Whether a character has the name `cs`. -/
def isCharacterName (cs : List Char) : Bool :=
  if syllableFront.isPrefixOf cs then isSyllableName (cs.drop syllableFront.length)
  else if ideographFront.isPrefixOf cs then isIdeographName (cs.drop ideographFront.length)
  else isListedName (cs.map Char.toUpper)

end LoadBinding.Text
