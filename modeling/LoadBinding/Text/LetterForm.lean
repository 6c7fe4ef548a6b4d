/-!
# Forms of letters

A small Latin letter has forms of other widths, positions and fonts, which are characters of their
own.  Names that differ only in them are the same name, so a name is compared by its `plainName`.
-/

namespace LoadBinding.Text

/-- The raised, lowered and other single forms of the small letters. -/
def letterForms : List (Nat × Char) :=
  [(170, 'a'), (186, 'o'), (383, 's'), (688, 'h'), (690, 'j'), (691, 'r'), (695, 'w'), (696, 'y'),
   (737, 'l'), (738, 's'), (739, 'x'), (7491, 'a'), (7495, 'b'), (7496, 'd'), (7497, 'e'),
   (7501, 'g'), (7503, 'k'), (7504, 'm'), (7506, 'o'), (7510, 'p'), (7511, 't'), (7512, 'u'),
   (7515, 'v'), (7522, 'i'), (7523, 'r'), (7524, 'u'), (7525, 'v'), (7580, 'c'), (7584, 'f'),
   (7611, 'z'), (8305, 'i'), (8319, 'n'), (8336, 'a'), (8337, 'e'), (8338, 'o'), (8339, 'x'),
   (8341, 'h'), (8342, 'k'), (8343, 'l'), (8344, 'm'), (8345, 'n'), (8346, 'p'), (8347, 's'),
   (8348, 't'), (8458, 'g'), (8462, 'h'), (8467, 'l'), (8495, 'e'), (8500, 'o'), (8505, 'i'),
   (8518, 'd'), (8519, 'e'), (8520, 'i'), (8521, 'j'), (8560, 'i'), (8564, 'v'), (8569, 'x'),
   (8572, 'l'), (8573, 'c'), (8574, 'd'), (8575, 'm'), (11388, 'j'), (67493, 'q')]

/-- The small letter `n` places behind `a`. -/
def letterAt (n : Nat) : Char :=
  Char.ofNat (97 + n)

/-- The small letter of which a character is a form; other characters are left as they are.  The
letters of the wide form are consecutive, and so are those of each mathematical font, between the
capital letters of one and the next. -/
def plainLetter (c : Char) : Char :=
  let n := c.toNat
  if n < 0x80 then c
  else if 0xFF41 ≤ n && n ≤ 0xFF5A then letterAt (n - 0xFF41)
  else if 0x1D41A ≤ n && n ≤ 0x1D6A3 && (n - 0x1D41A) % 52 < 26 then letterAt ((n - 0x1D41A) % 52)
  else (letterForms.lookup n).getD c

/-- A name in plain letters. -/
def plainName (s : String) : String :=
  s.map plainLetter

end LoadBinding.Text
