import Mathlib
import LoadBinding.Text.Utf8

/-!
# Decoding what was encoded

Decoding the UTF-8 bytes of a text gives the text again (`utf8Decode_utf8`).  A character is encoded
as a lead byte and up to three continuation bytes (`Encodes`); the lead byte announces as many, and
the narrow ranges that it may announce for the first of them leave out only sequences that no
character has.
-/

namespace LoadBinding.Text

/-! ## Continuation bytes -/

/-- The continuation byte with some bits. -/
def continuation (bits : ℕ) : UInt8 :=
  UInt8.ofNat (bits + 0x80)

lemma toNat_continuation {bits : ℕ} (h : bits < 64) : (continuation bits).toNat = bits + 0x80 := by
  unfold continuation
  rw [UInt8.toNat_ofNat']
  omega

/-- Whether a continuation byte is in some range shows in its bits. -/
lemma continuation_mem {bits : ℕ} {first last : UInt8} (h : bits < 64)
    (hfirst : first.toNat ≤ bits + 0x80) (hlast : bits + 0x80 ≤ last.toNat) :
    (decide (first ≤ continuation bits) && decide (continuation bits ≤ last)) = true := by
  rw [Bool.and_eq_true, decide_eq_true_iff, decide_eq_true_iff, UInt8.le_iff_toNat_le,
    UInt8.le_iff_toNat_le, toNat_continuation h]
  exact ⟨hfirst, hlast⟩

/-- A byte before the last of a sequence adds its bits. -/
lemma decodeFrom_more {value bits more : ℕ} {first last : UInt8} (h : bits < 64)
    (hfirst : first.toNat ≤ bits + 0x80) (hlast : bits + 0x80 ≤ last.toNat) (rest : Bytes) :
    decodeFrom (.inside ⟨value, first, last, more + 1⟩) (continuation bits :: rest) =
      decodeFrom (.inside ⟨value * 64 + bits, 0x80, 0xBF, more⟩) rest := by
  rw [decodeFrom, decodeByte, continuation_mem h hfirst hlast, toNat_continuation h,
    Nat.add_sub_cancel]
  rfl

section Tail

variable {value bits : ℕ} (h : bits < 64) (rest : Bytes)

include h

/-- Any continuation byte may be the last of a sequence, and completes its character. -/
lemma decodeFrom_last : decodeFrom (.inside ⟨value, 0x80, 0xBF, 0⟩) (continuation bits :: rest) =
    Char.ofNat (value * 64 + bits) :: decodeFrom .start rest := by
  have hrange : (decide (0x80 ≤ continuation bits) && decide (continuation bits ≤ 0xBF)) = true :=
    continuation_mem h (Nat.le_add_left _ _) (Nat.lt_succ_iff.mp (Nat.add_lt_add_right h _))
  rw [decodeFrom, decodeByte, hrange, toNat_continuation h, Nat.add_sub_cancel]
  rfl

/-- Any continuation byte may be the last but one. -/
lemma decodeFrom_lastButOne :
    decodeFrom (.inside ⟨value, 0x80, 0xBF, 1⟩) (continuation bits :: rest) =
      decodeFrom (.inside ⟨value * 64 + bits, 0x80, 0xBF, 0⟩) rest :=
  decodeFrom_more h (Nat.le_add_left _ _) (Nat.lt_succ_iff.mp (Nat.add_lt_add_right h _)) rest

end Tail

/-! ## First bytes -/

lemma ofNat_lt_iff {n : ℕ} (hmax : n < 256) : UInt8.ofNat n < 0x80 ↔ n < 0x80 := by
  rw [UInt8.lt_iff_toNat_lt, UInt8.toNat_ofNat']
  change n % 2 ^ 8 < 128 ↔ _
  omega

/-- A small byte is a character by itself. -/
lemma decodeFrom_small {n : ℕ} (h : n < 0x80) (rest : Bytes) :
    decodeFrom .start (UInt8.ofNat n :: rest) = Char.ofNat n :: decodeFrom .start rest := by
  have hnat : (UInt8.ofNat n).toNat = n := by
    rw [UInt8.toNat_ofNat']
    omega
  rw [decodeFrom, decodeByte, decodeStart, if_pos ((ofNat_lt_iff (by omega)).mpr h), hnat]
  rfl

/-- A lead byte begins a sequence. -/
lemma decodeFrom_lead {n : ℕ} {p : Lead} (hmin : 0x80 ≤ n) (hmax : n < 256)
    (hp : lead? (UInt8.ofNat n) = some p) (rest : Bytes) :
    decodeFrom .start (UInt8.ofNat n :: rest) = decodeFrom (.inside p) rest := by
  have hlarge : ¬ UInt8.ofNat n < 0x80 := by
    rw [ofNat_lt_iff hmax]
    omega
  rw [decodeFrom, decodeByte, decodeStart, if_neg hlarge, hp]
  rfl

lemma lead?_two {bits : ℕ} (hmin : 2 ≤ bits) (hmax : bits < 32) :
    lead? (UInt8.ofNat (bits + 0xC0)) = some ⟨bits, 0x80, 0xBF, 0⟩ := by
  have hall : ∀ n : Fin 30, lead? (UInt8.ofNat (n + 2 + 0xC0)) = some ⟨n + 2, 0x80, 0xBF, 0⟩ := by
    decide
  have hbits := hall ⟨bits - 2, by omega⟩
  rwa [show bits - 2 + 2 = bits by omega] at hbits

lemma lead?_three {bits : ℕ} (hmax : bits < 16) :
    lead? (UInt8.ofNat (bits + 0xE0)) =
      some ⟨bits, if bits = 0 then 0xA0 else 0x80, if bits = 13 then 0x9F else 0xBF, 1⟩ := by
  have hall : ∀ n : Fin 16, lead? (UInt8.ofNat (n + 0xE0)) =
      some ⟨n, if n.val = 0 then 0xA0 else 0x80, if n.val = 13 then 0x9F else 0xBF, 1⟩ := by
    decide
  exact hall ⟨bits, hmax⟩

lemma lead?_four {bits : ℕ} (hmax : bits < 5) :
    lead? (UInt8.ofNat (bits + 0xF0)) =
      some ⟨bits, if bits = 0 then 0x90 else 0x80, if bits = 4 then 0x8F else 0xBF, 2⟩ := by
  have hall : ∀ n : Fin 5, lead? (UInt8.ofNat (n + 0xF0)) =
      some ⟨n, if n.val = 0 then 0x90 else 0x80, if n.val = 4 then 0x8F else 0xBF, 2⟩ := by
    decide
  exact hall ⟨bits, hmax⟩

/-! ## Sequences -/

section Sequences

variable {a b c d : ℕ} (rest : Bytes)

/-- A sequence of two bytes, not for a character that fits into one. -/
lemma decodeFrom_two (ha : 2 ≤ a) (ha' : a < 32) (hb : b < 64) :
    decodeFrom .start (UInt8.ofNat (a + 0xC0) :: continuation b :: rest) =
      Char.ofNat (a * 64 + b) :: decodeFrom .start rest := by
  rw [decodeFrom_lead (by omega) (by omega) (lead?_two ha ha'), decodeFrom_last hb]

/-- A sequence of three bytes, neither for a character that fits into two nor for a surrogate. -/
lemma decodeFrom_three (ha : a < 16) (hb : b < 64) (hc : c < 64) (hlong : a = 0 → 32 ≤ b)
    (hsurrogate : a = 13 → b < 32) :
    decodeFrom .start (UInt8.ofNat (a + 0xE0) :: continuation b :: continuation c :: rest) =
      Char.ofNat ((a * 64 + b) * 64 + c) :: decodeFrom .start rest := by
  have hfirst : (if a = 0 then 0xA0 else 0x80 : UInt8).toNat ≤ b + 0x80 := by
    split
    · change 160 ≤ _
      omega
    · exact Nat.le_add_left _ _
  have hlast : b + 0x80 ≤ (if a = 13 then 0x9F else 0xBF : UInt8).toNat := by
    split
    · change _ ≤ 159
      omega
    · change _ ≤ 191
      omega
  rw [decodeFrom_lead (by omega) (by omega) (lead?_three ha), decodeFrom_more hb hfirst hlast,
    decodeFrom_last hc]

/-- A sequence of four bytes, neither for a character that fits into three nor for a number that is
too large for a character. -/
lemma decodeFrom_four (ha : a < 5) (hb : b < 64) (hc : c < 64) (hd : d < 64)
    (hlong : a = 0 → 16 ≤ b) (hlarge : a = 4 → b < 16) :
    decodeFrom .start
        (UInt8.ofNat (a + 0xF0) :: continuation b :: continuation c :: continuation d :: rest) =
      Char.ofNat (((a * 64 + b) * 64 + c) * 64 + d) :: decodeFrom .start rest := by
  have hfirst : (if a = 0 then 0x90 else 0x80 : UInt8).toNat ≤ b + 0x80 := by
    split
    · change 144 ≤ _
      omega
    · exact Nat.le_add_left _ _
  have hlast : b + 0x80 ≤ (if a = 4 then 0x8F else 0xBF : UInt8).toNat := by
    split
    · change _ ≤ 143
      omega
    · change _ ≤ 191
      omega
  rw [decodeFrom_lead (by omega) (by omega) (lead?_four ha), decodeFrom_more hb hfirst hlast,
    decodeFrom_lastButOne hc, decodeFrom_last hd]

end Sequences

/-! ## Characters -/

/-- Bytes encode a character: a lead byte says how many there are, and all behind it carry six bits
each.  The conditions on the bits leave only one encoding for a character, and rule out numbers that
no character has. -/
inductive Encodes : Bytes → Char → Prop
  | one {a : ℕ} (ha : a < 0x80) : Encodes [UInt8.ofNat a] (Char.ofNat a)
  | two {a b : ℕ} (ha : 2 ≤ a) (ha' : a < 32) (hb : b < 64) :
      Encodes [UInt8.ofNat (a + 0xC0), continuation b] (Char.ofNat (a * 64 + b))
  | three {a b c : ℕ} (ha : a < 16) (hb : b < 64) (hc : c < 64) (hlong : a = 0 → 32 ≤ b)
      (hsurrogate : a = 13 → b < 32) :
      Encodes [UInt8.ofNat (a + 0xE0), continuation b, continuation c]
        (Char.ofNat ((a * 64 + b) * 64 + c))
  | four {a b c d : ℕ} (ha : a < 5) (hb : b < 64) (hc : c < 64) (hd : d < 64)
      (hlong : a = 0 → 16 ≤ b) (hlarge : a = 4 → b < 16) :
      Encodes [UInt8.ofNat (a + 0xF0), continuation b, continuation c, continuation d]
        (Char.ofNat (((a * 64 + b) * 64 + c) * 64 + d))

lemma encodes_encodeChar (c : Char) : Encodes (String.utf8EncodeChar c) c := by
  have hc : Char.ofNat c.val.toNat = c := Char.ofNat_toNat c
  have hvalid : c.val.toNat < 0xD800 ∨ 0xDFFF < c.val.toNat ∧ c.val.toNat < 0x110000 := c.valid
  unfold String.utf8EncodeChar
  generalize c.val.toNat = v at hc hvalid ⊢
  have hbits (n : ℕ) : n % 64 < 64 := Nat.mod_lt _ (by decide)
  subst hc
  dsimp only
  split
  · exact .one (by omega)
  · split
    · have h := Encodes.two (a := v / 64 % 32) (by omega) (by omega) (hbits v)
      rwa [show v / 64 % 32 * 64 + v % 64 = v by omega] at h
    · split
      · have h := Encodes.three (a := v / 4096 % 16) (b := v / 64 % 64) (by omega) (hbits _)
          (hbits v) (by omega) (by omega)
        rwa [show (v / 4096 % 16 * 64 + v / 64 % 64) * 64 + v % 64 = v by omega] at h
      · have h := Encodes.four (a := v / 262144 % 8) (b := v / 4096 % 64) (c := v / 64 % 64)
          (by omega) (hbits _) (hbits _) (hbits v) (by omega) (by omega)
        rwa [show ((v / 262144 % 8 * 64 + v / 4096 % 64) * 64 + v / 64 % 64) * 64 + v % 64 = v by
          omega] at h

/-- The bytes of a character are decoded to it, and then what follows them. -/
lemma Encodes.decodeFrom_append {seq : Bytes} {c : Char} (h : Encodes seq c) (rest : Bytes) :
    decodeFrom .start (seq ++ rest) = c :: decodeFrom .start rest := by
  cases h with
  | one ha => exact decodeFrom_small ha rest
  | two ha ha' hb => exact decodeFrom_two rest ha ha' hb
  | three ha hb hc hlong hsurrogate => exact decodeFrom_three rest ha hb hc hlong hsurrogate
  | four ha hb hc hd hlong hlarge => exact decodeFrom_four rest ha hb hc hd hlong hlarge

/-! ## Texts -/

lemma utf8DecodeChars_utf8Encode (cs : List Char) : utf8DecodeChars (utf8Encode cs) = cs := by
  induction cs with
  | nil => rfl
  | cons c rest ih =>
    refine ((encodes_encodeChar c).decodeFrom_append (utf8Encode rest)).trans ?_
    exact congrArg (c :: ·) ih

/-- Decoding the bytes of a text gives the text. -/
theorem utf8Decode_utf8 (s : String) : utf8Decode (utf8 s) = s := by
  unfold utf8Decode utf8
  rw [utf8DecodeChars_utf8Encode, String.ofList_toList]

end LoadBinding.Text
