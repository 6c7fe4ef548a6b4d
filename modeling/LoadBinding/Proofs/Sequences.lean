import LoadBinding.Payload.Prepare
import LoadBinding.Proofs.Decoding

/-!
# Well-formed byte strings

`Sequence` lists the byte strings of single characters by the ranges of their bytes, and
`Sequences` their concatenations.  These are the bytes of the texts (`wellFormed_iff`), and what the
decoder does to all others shows: where no sequence begins, it writes U+FFFD (`decodeFrom_cases`),
so bytes that decode without one are the bytes of what they decode to (`eq_utf8_of_decode`).

A payload that is stored as text comes back as its own bytes if and only if it is well-formed, and
what comes back is not changed by storing it again (`Payload.toBytes_encode_string`).
-/

namespace LoadBinding.Text

/-! ## Sequences -/

/-- A byte that may continue a sequence. -/
def IsContinuation (b : UInt8) : Prop :=
  0x80 ≤ b ∧ b ≤ 0xBF

/-- The bytes of one character.  The conditions on the first continuation byte rule out overlong
forms, surrogates and numbers that are too large for a character. -/
inductive Sequence : Bytes → Prop
  | one {a : UInt8} (ha : a < 0x80) : Sequence [a]
  | two {a b : UInt8} (ha : 0xC2 ≤ a ∧ a ≤ 0xDF) (hb : IsContinuation b) : Sequence [a, b]
  | three {a b c : UInt8} (ha : 0xE0 ≤ a ∧ a ≤ 0xEF) (hb : IsContinuation b)
      (hc : IsContinuation c) (hlong : a = 0xE0 → 0xA0 ≤ b) (hsurrogate : a = 0xED → b ≤ 0x9F) :
      Sequence [a, b, c]
  | four {a b c d : UInt8} (ha : 0xF0 ≤ a ∧ a ≤ 0xF4) (hb : IsContinuation b)
      (hc : IsContinuation c) (hd : IsContinuation d) (hlong : a = 0xF0 → 0x90 ≤ b)
      (hlarge : a = 0xF4 → b ≤ 0x8F) : Sequence [a, b, c, d]

/-- The bytes of some characters, one after the other. -/
inductive Sequences : Bytes → Prop
  | nil : Sequences []
  | cons {seq rest : Bytes} (hseq : Sequence seq) (hrest : Sequences rest) :
      Sequences (seq ++ rest)

/-! ## Bits -/

/-- Where a byte lies shows in its number. -/
lemma ofNat_mem_iff {n : ℕ} {first last : UInt8} (h : n < 256) :
    first ≤ UInt8.ofNat n ∧ UInt8.ofNat n ≤ last ↔ first.toNat ≤ n ∧ n ≤ last.toNat := by
  rw [UInt8.le_iff_toNat_le, UInt8.le_iff_toNat_le, UInt8.toNat_ofNat', Nat.mod_eq_of_lt h]

lemma ofNat_eq_iff {n : ℕ} {b : UInt8} (h : n < 256) : UInt8.ofNat n = b ↔ n = b.toNat := by
  rw [← UInt8.toNat_inj, UInt8.toNat_ofNat', Nat.mod_eq_of_lt h]

/-- The bits that a byte carries above the least byte of its kind. -/
lemma exists_bits {b first last : UInt8} (base : ℕ) (h : first ≤ b ∧ b ≤ last)
    (hbase : base ≤ first.toNat) :
    ∃ bits, first.toNat ≤ bits + base ∧ bits + base ≤ last.toNat ∧
      b = UInt8.ofNat (bits + base) := by
  rw [UInt8.le_iff_toNat_le, UInt8.le_iff_toNat_le] at h
  refine ⟨b.toNat - base, by omega, by omega, ?_⟩
  rw [Nat.sub_add_cancel (by omega), UInt8.ofNat_toNat]

lemma IsContinuation.exists_bits {b : UInt8} (h : IsContinuation b) :
    ∃ bits < 64, b = continuation bits := by
  obtain ⟨bits, -, hmax, rfl⟩ := Text.exists_bits 0x80 h le_rfl
  change _ ≤ 191 at hmax
  exact ⟨bits, by omega, rfl⟩

lemma isContinuation_continuation {bits : ℕ} (h : bits < 64) :
    IsContinuation (continuation bits) := by
  refine (ofNat_mem_iff (by omega)).mpr ?_
  change 128 ≤ _ ∧ _ ≤ 191
  omega

section Leads

variable {n bits : ℕ} {lead first last : UInt8} (hn : n < 256) (hbits : bits < 64)

include hn hbits

/-- A lower bound of the continuation byte behind one lead byte. -/
lemma lead_imp_le_iff : (UInt8.ofNat n = lead → first ≤ continuation bits) ↔
    (n = lead.toNat → first.toNat ≤ bits + 0x80) := by
  rw [ofNat_eq_iff hn, UInt8.le_iff_toNat_le, toNat_continuation hbits]

/-- An upper bound of the continuation byte behind one lead byte. -/
lemma lead_imp_ge_iff : (UInt8.ofNat n = lead → continuation bits ≤ last) ↔
    (n = lead.toNat → bits + 0x80 ≤ last.toNat) := by
  rw [ofNat_eq_iff hn, UInt8.le_iff_toNat_le, toNat_continuation hbits]

end Leads

/-! ## Characters -/

/-- The number of a character that is made of a number. -/
lemma toNat_val_ofNat {v : ℕ} (h : v < 0xD800 ∨ 0xDFFF < v ∧ v < 0x110000) :
    (Char.ofNat v).val.toNat = v :=
  (Char.toNat_ofNat v).trans (if_pos h)

namespace Encodes

variable {seq : Bytes} {c : Char}

/-- The bytes that encode a character are a sequence. -/
lemma sequence (h : Encodes seq c) : Sequence seq := by
  cases h with
  | one ha => exact .one ((ofNat_lt_iff (by omega)).mpr ha)
  | two ha ha' hb =>
    refine .two ((ofNat_mem_iff (by omega)).mpr ?_) (isContinuation_continuation hb)
    change 194 ≤ _ ∧ _ ≤ 223
    omega
  | three ha hb hc hlong hsurrogate =>
    refine .three ((ofNat_mem_iff (by omega)).mpr ?_) (isContinuation_continuation hb)
      (isContinuation_continuation hc) ((lead_imp_le_iff (by omega) hb).mpr ?_)
      ((lead_imp_ge_iff (by omega) hb).mpr ?_)
    · change 224 ≤ _ ∧ _ ≤ 239
      omega
    · change _ = 224 → 160 ≤ _
      omega
    · change _ = 237 → _ ≤ 159
      omega
  | four ha hb hc hd hlong hlarge =>
    refine .four ((ofNat_mem_iff (by omega)).mpr ?_) (isContinuation_continuation hb)
      (isContinuation_continuation hc) (isContinuation_continuation hd)
      ((lead_imp_le_iff (by omega) hb).mpr ?_) ((lead_imp_ge_iff (by omega) hb).mpr ?_)
    · change 240 ≤ _ ∧ _ ≤ 244
      omega
    · change _ = 240 → 144 ≤ _
      omega
    · change _ = 244 → _ ≤ 143
      omega

/-- A character has no other encoding than its own. -/
lemma eq_encodeChar (h : Encodes seq c) : seq = String.utf8EncodeChar c := by
  unfold String.utf8EncodeChar
  cases h with
  | one ha =>
    rw [toNat_val_ofNat (by omega)]
    dsimp only
    rw [if_pos (by omega)]
  | @two a b ha ha' hb =>
    rw [toNat_val_ofNat (by omega)]
    dsimp only
    rw [if_neg (by omega), if_pos (by omega), show (a * 64 + b) / 64 % 32 = a by omega,
      show (a * 64 + b) % 64 = b by omega]
    rfl
  | @three a b c ha hb hc hlong hsurrogate =>
    rw [toNat_val_ofNat (by omega)]
    generalize hv : (a * 64 + b) * 64 + c = v
    dsimp only
    rw [if_neg (by omega), if_neg (by omega), if_pos (by omega), show v / 4096 % 16 = a by omega,
      show v / 64 % 64 = b by omega, show v % 64 = c by omega]
    rfl
  | @four a b c d ha hb hc hd hlong hlarge =>
    rw [toNat_val_ofNat (by omega)]
    generalize hv : ((a * 64 + b) * 64 + c) * 64 + d = v
    dsimp only
    rw [if_neg (by omega), if_neg (by omega), if_neg (by omega), show v / 262144 % 8 = a by omega,
      show v / 4096 % 64 = b by omega, show v / 64 % 64 = c by omega, show v % 64 = d by omega]
    rfl

end Encodes

/-- Every sequence encodes a character. -/
lemma Sequence.exists_char {seq : Bytes} (h : Sequence seq) : ∃ c, Encodes seq c := by
  cases h with
  | @one a ha =>
    rw [UInt8.lt_iff_toNat_lt] at ha
    rw [← UInt8.ofNat_toNat (x := a)]
    exact ⟨_, .one ha⟩
  | two ha hb =>
    obtain ⟨b, hb', rfl⟩ := hb.exists_bits
    obtain ⟨a, hmin, hmax, rfl⟩ := exists_bits 0xC0 ha (by decide)
    change 194 ≤ _ at hmin
    change _ ≤ 223 at hmax
    exact ⟨_, .two (by omega) (by omega) hb'⟩
  | three ha hb hc hlong hsurrogate =>
    obtain ⟨b, hb', rfl⟩ := hb.exists_bits
    obtain ⟨c, hc', rfl⟩ := hc.exists_bits
    obtain ⟨a, hmin, hmax, rfl⟩ := exists_bits 0xE0 ha (by decide)
    change _ ≤ 239 at hmax
    rw [lead_imp_le_iff (by omega) hb'] at hlong
    rw [lead_imp_ge_iff (by omega) hb'] at hsurrogate
    change _ = 224 → 160 ≤ _ at hlong
    change _ = 237 → _ ≤ 159 at hsurrogate
    exact ⟨_, .three (by omega) hb' hc' (by omega) (by omega)⟩
  | four ha hb hc hd hlong hlarge =>
    obtain ⟨b, hb', rfl⟩ := hb.exists_bits
    obtain ⟨c, hc', rfl⟩ := hc.exists_bits
    obtain ⟨d, hd', rfl⟩ := hd.exists_bits
    obtain ⟨a, hmin, hmax, rfl⟩ := exists_bits 0xF0 ha (by decide)
    change _ ≤ 244 at hmax
    rw [lead_imp_le_iff (by omega) hb'] at hlong
    rw [lead_imp_ge_iff (by omega) hb'] at hlarge
    change _ = 240 → 144 ≤ _ at hlong
    change _ = 244 → _ ≤ 143 at hlarge
    exact ⟨_, .four (by omega) hb' hc' hd' (by omega) (by omega)⟩

/-- The concatenations of sequences are the bytes of the texts. -/
theorem wellFormed_iff (bytes : Bytes) : WellFormed bytes ↔ Sequences bytes := by
  constructor
  · rintro ⟨cs, rfl⟩
    induction cs with
    | nil => exact .nil
    | cons c cs ih => exact .cons (encodes_encodeChar c).sequence ih
  · intro h
    induction h with
    | nil => exact ⟨[], rfl⟩
    | cons hseq hrest ih =>
      obtain ⟨c, hc⟩ := hseq.exists_char
      obtain ⟨cs, rfl⟩ := ih
      obtain rfl := hc.eq_encodeChar
      exact ⟨c :: cs, rfl⟩

lemma sequences_utf8 (s : String) : Sequences (utf8 s) :=
  (wellFormed_iff _).mp ⟨s.toList, rfl⟩

/-- Bytes come back from decoding and encoding if and only if they are those of a text. -/
lemma utf8_utf8Decode_eq_iff (bytes : Bytes) :
    utf8 (utf8Decode bytes) = bytes ↔ Sequences bytes := by
  constructor
  · intro h
    rw [← h]
    exact sequences_utf8 _
  · intro h
    obtain ⟨cs, rfl⟩ := (wellFormed_iff bytes).mpr h
    have hdecode := utf8Decode_utf8 (String.ofList cs)
    rw [utf8, String.toList_ofList] at hdecode
    rw [hdecode, utf8, String.toList_ofList]

/-! ## Malformed parts -/

/-- What follows a lead byte either completes its sequence, or decodes into U+FFFD. -/
lemma decodeFrom_inside (rest : Bytes) (p : Lead) :
    (∃ b cs tail, rest = b :: cs ++ tail ∧ p.first ≤ b ∧ b ≤ p.last ∧ cs.length = p.more ∧
        ∀ c ∈ cs, IsContinuation c) ∨
      ∃ shown, decodeFrom (.inside p) rest = replacement :: shown := by
  -- A byte that fits leaves an announcement of its own behind, so the induction is for all of them.
  induction rest generalizing p with
  | nil => exact .inr ⟨[], rfl⟩
  | cons b rest ih =>
    rw [decodeFrom, decodeByte]
    by_cases hb : (decide (p.first ≤ b) && decide (b ≤ p.last)) = true
    · rw [if_pos hb]
      rw [Bool.and_eq_true, decide_eq_true_iff, decide_eq_true_iff] at hb
      cases hmore : p.more with
      | zero => exact .inl ⟨b, [], rest, rfl, hb.1, hb.2, rfl, by simp⟩
      | succ more =>
        dsimp only
        rcases ih ⟨p.value * 64 + (b.toNat - 0x80), 0x80, 0xBF, more⟩ with
          ⟨c, cs, tail, rfl, hmin, hmax, hlength, hall⟩ | ⟨shown, hshown⟩
        · refine .inl ⟨b, c :: cs, tail, rfl, hb.1, hb.2, congrArg (· + 1) hlength, ?_⟩
          intro x hx
          rcases List.mem_cons.mp hx with rfl | hx
          · exact ⟨hmin, hmax⟩
          · exact hall x hx
        · exact .inr ⟨shown, hshown⟩
    · rw [if_neg hb]
      exact .inr ⟨_, rfl⟩

/-- What completes a lead byte makes a sequence of it. -/
lemma sequence_of_lead {b c : UInt8} {cs : Bytes} {p : Lead} (hp : lead? b = some p)
    (hmin : p.first ≤ c) (hmax : c ≤ p.last) (hlength : cs.length = p.more)
    (hall : ∀ x ∈ cs, IsContinuation x) : Sequence (b :: c :: cs) := by
  have hc {first last : UInt8} (hfirst : first ≤ c) (hlast : c ≤ last)
      (hrange : 0x80 ≤ first ∧ last ≤ 0xBF) : IsContinuation c :=
    ⟨UInt8.le_trans hrange.1 hfirst, UInt8.le_trans hlast hrange.2⟩
  -- The kinds of lead bytes in the order in which `lead?` knows them: one of two bytes, three of
  -- three and three of four.
  unfold lead? at hp
  split_ifs at hp with h₁ h₂ h₃ h₄ h₅ h₆ h₇ <;> obtain rfl := Option.some.inj hp
  · obtain rfl := List.length_eq_zero_iff.mp hlength
    rw [Bool.and_eq_true, decide_eq_true_iff, decide_eq_true_iff] at h₁
    exact .two h₁ ⟨hmin, hmax⟩
  · obtain ⟨d, rfl⟩ := List.length_eq_one_iff.mp hlength
    obtain rfl := beq_iff_eq.mp h₂
    exact .three (by decide) (hc hmin hmax (by decide)) (hall d (by simp)) (fun _ => hmin) (by simp)
  · obtain ⟨d, rfl⟩ := List.length_eq_one_iff.mp hlength
    obtain rfl := beq_iff_eq.mp h₃
    exact .three (by decide) (hc hmin hmax (by decide)) (hall d (by simp)) (by simp) (fun _ => hmax)
  · obtain ⟨d, rfl⟩ := List.length_eq_one_iff.mp hlength
    rw [beq_iff_eq] at h₂ h₃
    rw [Bool.and_eq_true, decide_eq_true_iff, decide_eq_true_iff] at h₄
    exact .three ⟨UInt8.le_trans (by decide) h₄.1, h₄.2⟩ ⟨hmin, hmax⟩ (hall d (by simp))
      (fun h => absurd h h₂) (fun h => absurd h h₃)
  · obtain ⟨d, e, rfl⟩ := List.length_eq_two.mp hlength
    obtain rfl := beq_iff_eq.mp h₅
    exact .four (by decide) (hc hmin hmax (by decide)) (hall d (by simp)) (hall e (by simp))
      (fun _ => hmin) (by simp)
  · obtain ⟨d, e, rfl⟩ := List.length_eq_two.mp hlength
    rw [beq_iff_eq] at h₅
    rw [Bool.and_eq_true, decide_eq_true_iff, decide_eq_true_iff] at h₆
    refine .four ⟨UInt8.le_trans (by decide) h₆.1, UInt8.le_trans h₆.2 (by decide)⟩ ⟨hmin, hmax⟩
      (hall d (by simp)) (hall e (by simp)) (fun h => absurd h h₅) (fun h => ?_)
    rw [h] at h₆
    exact absurd h₆.2 (by decide)
  · obtain ⟨d, e, rfl⟩ := List.length_eq_two.mp hlength
    obtain rfl := beq_iff_eq.mp h₇
    exact .four (by decide) (hc hmin hmax (by decide)) (hall d (by simp)) (hall e (by simp))
      (by simp) (fun _ => hmax)

/-- Where no sequence begins, the decoder writes U+FFFD. -/
lemma decodeFrom_cases (b : UInt8) (rest : Bytes) :
    (∃ seq tail, Sequence seq ∧ b :: rest = seq ++ tail) ∨
      ∃ shown, decodeFrom .start (b :: rest) = replacement :: shown := by
  rw [decodeFrom, decodeByte, decodeStart]
  by_cases hb : b < 0x80
  · exact .inl ⟨[b], rest, .one hb, rfl⟩
  · rw [if_neg hb]
    cases hlead : lead? b with
    | none => exact .inr ⟨_, rfl⟩
    | some p =>
      refine (decodeFrom_inside rest p).imp_left ?_
      rintro ⟨c, cs, tail, rfl, hmin, hmax, hlength, hall⟩
      exact ⟨b :: c :: cs, tail, sequence_of_lead hlead hmin hmax hlength hall, rfl⟩

/-- Bytes that decode without U+FFFD are those of a text. -/
lemma sequences_of_decode {bytes : Bytes} (h : replacement ∉ utf8DecodeChars bytes) :
    Sequences bytes := by
  -- A sequence has no fixed number of bytes, so the induction is on how many there are.
  induction hlength : bytes.length using Nat.strong_induction_on generalizing bytes with
  | _ length ih =>
    cases bytes with
    | nil => exact .nil
    | cons b rest =>
      rcases decodeFrom_cases b rest with ⟨seq, tail, hseq, hsplit⟩ | ⟨shown, hshown⟩
      · rw [hsplit] at h hlength ⊢
        obtain ⟨c, hc⟩ := hseq.exists_char
        rw [utf8DecodeChars, hc.decodeFrom_append] at h
        have hpos : 0 < seq.length := by
          rw [hc.eq_encodeChar]
          exact List.length_pos_of_ne_nil String.utf8EncodeChar_ne_nil
        rw [List.length_append] at hlength
        exact .cons hseq
          (ih tail.length (by omega) (fun hmem => h (List.mem_cons_of_mem _ hmem)) rfl)
      · rw [utf8DecodeChars, hshown] at h
        exact absurd List.mem_cons_self h

/-- Only the bytes of a text without U+FFFD decode to it. -/
lemma eq_utf8_of_decode {bytes : Bytes} {s : String} (h : utf8Decode bytes = s)
    (hs : replacement ∉ s.toList) : bytes = utf8 s := by
  subst h
  rw [utf8Decode, String.toList_ofList] at hs
  exact ((utf8_utf8Decode_eq_iff bytes).mpr (sequences_of_decode hs)).symm

end LoadBinding.Text

namespace LoadBinding.Payload

open LoadBinding.Text

/-! ## Payloads stored as text -/

/-- A payload that is stored as text comes back as it was if and only if it is well-formed, and what
comes back is not changed by storing it again. -/
theorem toBytes_encode_string (data : Bytes) :
    ((encode data .string).toBytes = data ↔ Sequences data) ∧
      (encode (encode data .string).toBytes .string).toBytes = (encode data .string).toBytes := by
  have hbytes (payload : Bytes) : (encode payload .string).toBytes = utf8 (utf8Decode payload) :=
    rfl
  constructor
  · rw [hbytes]
    exact utf8_utf8Decode_eq_iff data
  · rw [hbytes, hbytes, utf8Decode_utf8]

/-- The bytes of a surrogate are three malformed parts, the first of them only its lead byte. -/
example : (encode [0xED, 0xA0, 0x80] .string).toBytes =
    [0xEF, 0xBF, 0xBD, 0xEF, 0xBF, 0xBD, 0xEF, 0xBF, 0xBD] := by
  decide +kernel

end LoadBinding.Payload
