/-!
# Blank characters

Two notions of "blank" meet in the settings of a run, and they differ at the edges.

* `isSpace` is the Unicode property `White_Space`; numbers may be surrounded by it.
* `isBlank` also takes the four information separators U+001C to U+001F; endpoint lists, flags and
  keywords are trimmed by it, and an entry of a list counts as missing when it is all blank.

A text that is trimmed by `trim p` keeps everything between its first and its last character outside
`p`, so neither end of the result satisfies `p`.
-/

namespace LoadBinding.Text

/-- The characters with the Unicode property `White_Space`. -/
def isSpace (c : Char) : Bool :=
  let n := c.toNat
  (9 ≤ n && n ≤ 13) || n == 0x20 || n == 0x85 || n == 0xA0 || n == 0x1680 ||
    (0x2000 ≤ n && n ≤ 0x200A) || n == 0x2028 || n == 0x2029 || n == 0x202F || n == 0x205F ||
    n == 0x3000

/-- White space together with the information separators U+001C to U+001F. -/
def isBlank (c : Char) : Bool :=
  isSpace c || (0x1C ≤ c.toNat && c.toNat ≤ 0x1F)

/-- Removes the characters satisfying `p` from both ends. -/
def trim (p : Char → Bool) (cs : List Char) : List Char :=
  ((cs.dropWhile p).reverse.dropWhile p).reverse

/-- Removes the blank characters from both ends of a text. -/
def strip (s : String) : String :=
  String.ofList (trim isBlank s.toList)

/-- Whether a text has no character that is not blank. -/
def isAllBlank (s : String) : Bool :=
  s.toList.all isBlank

theorem isBlank_of_isSpace {c : Char} (h : isSpace c = true) : isBlank c = true := by
  simp [isBlank, h]

/-! ## What trimming leaves -/

theorem dropWhile_eq_nil {p : Char → Bool} {cs : List Char} :
    cs.dropWhile p = [] ↔ ∀ c ∈ cs, p c = true := by
  induction cs with
  | nil => simp
  | cons c cs ih => by_cases h : p c = true <;> simp [h, ih]

/-- Nothing is left exactly when there is nothing to keep. -/
theorem trim_eq_nil_iff {p : Char → Bool} {cs : List Char} :
    trim p cs = [] ↔ ∀ c ∈ cs, p c = true := by
  simp only [trim, List.reverse_eq_nil_iff, dropWhile_eq_nil, List.mem_reverse]
  constructor
  · intro h
    cases hc : cs.dropWhile p with
    | nil => exact dropWhile_eq_nil.1 hc
    | cons c rest =>
      have hfirst := List.head?_dropWhile_not p cs
      rw [hc] at hfirst h
      have hmem := h c (by simp)
      simp_all
  · intro h c hc
    exact h c ((List.dropWhile_sublist p).subset hc)

theorem getLast?_trim {p : Char → Bool} {cs : List Char} {c : Char}
    (h : (trim p cs).getLast? = some c) : p c = false := by
  have hfirst := List.head?_dropWhile_not p (cs.dropWhile p).reverse
  rw [trim, List.getLast?_reverse] at h
  rw [h] at hfirst
  simpa using hfirst

theorem head?_trim {p : Char → Bool} {cs : List Char} {c : Char}
    (h : (trim p cs).head? = some c) : p c = false := by
  rw [trim, List.head?_reverse] at h
  obtain ⟨front, hfront⟩ := List.dropWhile_suffix (l := (cs.dropWhile p).reverse) p
  have hlast : (cs.dropWhile p).reverse.getLast? = some c := by
    rw [← hfront, List.getLast?_append, h]
    rfl
  rw [List.getLast?_reverse] at hlast
  have hfirst := List.head?_dropWhile_not p cs
  rw [hlast] at hfirst
  simpa using hfirst

end LoadBinding.Text
