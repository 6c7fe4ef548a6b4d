import LoadBinding.Number.Double
import LoadBinding.Proofs.RoundBits

/-!
# The numbers that doubles stand for

`value?` is the number that a double stands for.  Float operations work on an unpacked form of their
operands and pack the result.  Decoding a double reads that form off it (`decode_eq`), packing loses
nothing of a canonical one that is not beyond all doubles (`unpack_pack_finite`), and the order of
the doubles that are not negative is the order of their numbers (`compare_of_holds`).

So the result of an operation is known as soon as its unpacked form is: `RoundsTo x q` says that `x`
stands for the representable number nearest to `q`, or is infinite if that one is beyond all
doubles.
-/

namespace LoadBinding.Number

open Float.Model Float.Model.UnpackedFloat

/-- How a double decodes, read off its unpacked form. -/
def Decoded.ofUnpacked : UnpackedFloat → Decoded
  | .notANumber => .nan
  | .infinity s => .infinite (s == .negative)
  | .zero s => .finite (s == .negative) 0 (-1074)
  | .finite s m e _ => .finite (s == .negative) m e

section Fields

variable (b : BitVec Format.binary64.numBits)

/-- The lowest 52 bits are the mantissa. -/
lemma toNat_unpackMantissa : (unpackMantissa b).toNat = b.toNat % 2 ^ 52 := by
  simp [unpackMantissa]

/-- The next 11 bits are the exponent. -/
lemma toNat_unpackExponent : (unpackExponent b).toNat = b.toNat / 2 ^ 52 % 2 ^ 11 := by
  simp [unpackExponent, Nat.shiftRight_eq_div_pow]

/-- The highest bit is the sign. -/
lemma toNat_unpackSign : (unpackSign b).toNat = b.toNat / 2 ^ 63 := by
  have hlt : b.toNat < 2 ^ 64 := b.isLt
  simp [unpackSign, Nat.shiftRight_eq_div_pow]
  omega

lemma unpackMantissa_eq_zero_iff : unpackMantissa b = 0#_ ↔ b.toNat % 2 ^ 52 = 0 := by
  rw [← BitVec.toNat_inj, toNat_unpackMantissa]
  simp

lemma unpackExponent_eq_zero_iff : unpackExponent b = 0#_ ↔ b.toNat / 2 ^ 52 % 2 ^ 11 = 0 := by
  rw [← BitVec.toNat_inj, toNat_unpackExponent]
  simp

lemma unpackExponent_eq_ones_iff : unpackExponent b = -1#_ ↔ b.toNat / 2 ^ 52 % 2 ^ 11 = 0x7FF := by
  rw [← BitVec.toNat_inj, toNat_unpackExponent]
  rfl

/-- The sign is negative just when the highest bit is set. -/
lemma ofBitVec_unpackSign_beq :
    (Sign.ofBitVec (unpackSign b) == .negative) = (b.toNat / 2 ^ 63 == 1) := by
  have hlt : b.toNat < 2 ^ 64 := b.isLt
  have hsign := toNat_unpackSign b
  unfold Sign.ofBitVec
  split_ifs with hzero
  · have : b.toNat / 2 ^ 63 = 0 := by rw [← hsign, hzero]; rfl
    rw [this]
    rfl
  · have : b.toNat / 2 ^ 63 ≠ 0 := by
      rw [← hsign]
      intro h
      exact hzero (BitVec.eq_of_toNat_eq h)
    have : b.toNat / 2 ^ 63 = 1 := by omega
    rw [this]
    rfl

/-- The leading bit of a full mantissa, which is not stored, is put in front of the stored ones. -/
lemma toNat_implicit_append (m : BitVec 52) : (1#1 ++ m).toNat = 2 ^ 52 + m.toNat := by
  rw [BitVec.toNat_append, ← Nat.shiftLeft_add_eq_or_of_lt m.isLt]
  rfl

end Fields

/-- Decoding a double reads its unpacked form off the bits. -/
theorem decode_eq (x : Float) : decode x = .ofUnpacked x.toModel.unpack := by
  change decode x = .ofUnpacked (UnpackedFloat.unpack Format.binary64 x.toModel.toBits.toBitVec)
  have hbits : x.toBits.toNat = x.toModel.toBits.toBitVec.toNat := rfl
  unfold decode
  rw [hbits]
  generalize x.toModel.toBits.toBitVec = b
  have hsign := ofBitVec_unpackSign_beq b
  have hones := unpackExponent_eq_ones_iff b
  have hzero := unpackExponent_eq_zero_iff b
  have hmantissa := unpackMantissa_eq_zero_iff b
  unfold UnpackedFloat.unpack
  dsimp only [Nat.pow_eq]
  by_cases h₁ : b.toNat / 2 ^ 52 % 2 ^ 11 = 0x7FF
  · rw [if_pos (hones.mpr h₁), if_pos (beq_iff_eq.mpr h₁)]
    by_cases h₂ : b.toNat % 2 ^ 52 = 0
    · rw [if_pos (hmantissa.mpr h₂), if_pos (beq_iff_eq.mpr h₂), Decoded.ofUnpacked, hsign]
    · rw [if_neg (h₂ ∘ hmantissa.mp), if_neg (h₂ ∘ beq_iff_eq.mp), Decoded.ofUnpacked]
  rw [if_neg (h₁ ∘ hones.mp), if_neg (h₁ ∘ beq_iff_eq.mp)]
  by_cases h₂ : b.toNat / 2 ^ 52 % 2 ^ 11 = 0
  · rw [if_pos (hzero.mpr h₂), if_pos (beq_iff_eq.mpr h₂)]
    by_cases h₃ : b.toNat % 2 ^ 52 = 0
    · rw [dif_pos (hmantissa.mpr h₃), Decoded.ofUnpacked, hsign, h₃]
    · rw [dif_neg (h₃ ∘ hmantissa.mp), Decoded.ofUnpacked, hsign, toNat_unpackMantissa,
        toNat_unpackExponent, h₂]
      rfl
  · rw [if_neg (h₂ ∘ hzero.mp), if_neg (h₂ ∘ beq_iff_eq.mp), Decoded.ofUnpacked, hsign,
      toNat_implicit_append, toNat_unpackMantissa, toNat_unpackExponent]
    rfl

section Packing

variable {s : Sign} {m : ℕ} {e : ℤ}

lemma unpackSign_packComponents (spec : Format) (s : Sign) (exponent : BitVec spec.exponentBits)
    (fraction : BitVec spec.mantissaBitsWithoutImplicit) :
    unpackSign (packComponents spec s exponent fraction) = s.toBitVec := by
  ext i hi
  obtain rfl : i = 0 := by omega
  simp [unpackSign, packComponents, BitVec.getLsbD_append, BitVec.getElem_append]

lemma ofBitVec_toBitVec (s : Sign) : Sign.ofBitVec s.toBitVec = s := by
  cases s <;> rfl

lemma unpack_pack_zero (s : Sign) :
    UnpackedFloat.unpack Format.binary64 (UnpackedFloat.pack Format.binary64 (.zero s)) =
      .zero s := by
  cases s <;> rfl

/-- What is packed in place of a canonical form depends on whether its exponent is too large for a
double, and on whether its mantissa is full. -/
lemma pack_finite (hm : 0 < m) (hc : Canonical m e) :
    UnpackedFloat.pack Format.binary64 (.finite s m e hm) =
      if 971 < e then packedInfinity Format.binary64 s
      else if 2 ^ 52 ≤ m then
        packComponents Format.binary64 s (BitVec.ofNat 11 (e + 1075).toNat) (BitVec.ofNat 52 m)
      else packComponents Format.binary64 s 0#11 (BitVec.ofNat 52 m) := by
  have hbias : e + Format.binary64.exponentBias + (52 : ℕ) = e + 1075 := by
    have : Format.binary64.exponentBias = 1023 := rfl
    omega
  have hinfinite : 2 ^ 11 ≤ (e + 1075).toNat + 1 ↔ 971 < e := by omega
  have hfull : m.log2 + 1 = Format.binary64.mantissaBits ↔ 2 ^ 52 ≤ m := by
    have hlow := Nat.le_log2 hm.ne' (k := 52)
    have hhigh := (Nat.log2_lt hm.ne').mpr hc.bits
    have : Format.binary64.mantissaBits = 53 := rfl
    omega
  unfold UnpackedFloat.pack
  simp only [hbias, hinfinite, hfull]

/-- The leading bit of a full mantissa is not stored: an exponent that is not zero stands for it. -/
lemma unpack_packComponents_full (hm : 0 < m) (hc : Canonical m e) (he : e ≤ 971)
    (hfull : 2 ^ 52 ≤ m) :
    UnpackedFloat.unpack Format.binary64
        (packComponents Format.binary64 s (BitVec.ofNat 11 (e + 1075).toNat) (BitVec.ofNat 52 m)) =
      .finite s m e hm := by
  have hbits := hc.bits
  have hleast := hc.least
  have hexponent : (BitVec.ofNat 11 (e + 1075).toNat).toNat = (e + 1075).toNat := by
    rw [BitVec.toNat_ofNat]
    omega
  have hones : BitVec.ofNat 11 (e + 1075).toNat ≠ -1#11 := by
    rw [Ne, ← BitVec.toNat_inj, hexponent]
    simp
    omega
  have hzero : BitVec.ofNat 11 (e + 1075).toNat ≠ 0#11 := by
    rw [Ne, ← BitVec.toNat_inj, hexponent]
    simp
    omega
  have hmantissa : (1#1 ++ BitVec.ofNat 52 m).toNat = m := by
    rw [toNat_implicit_append, BitVec.toNat_ofNat]
    omega
  have hvalue : ((BitVec.ofNat 11 (e + 1075).toNat).toNat : ℤ) -
      (Format.binary64.exponentBias + (52 : ℕ)) = e := by
    have : Format.binary64.exponentBias = 1023 := rfl
    omega
  unfold UnpackedFloat.unpack
  simp only [unpackMantissa_packComponents, unpackExponent_packComponents,
    unpackSign_packComponents, ofBitVec_toBitVec]
  rw [if_neg hones, if_neg hzero]
  simp only [hmantissa, hvalue]

/-- A mantissa that is not full is stored with the exponent zero. -/
lemma unpack_packComponents_partial (hm : 0 < m) (hpartial : m < 2 ^ 52) :
    UnpackedFloat.unpack Format.binary64
        (packComponents Format.binary64 s 0#11 (BitVec.ofNat 52 m)) =
      .finite s m (-1074) hm := by
  have hfraction : (BitVec.ofNat 52 m).toNat = m := by
    rw [BitVec.toNat_ofNat]
    omega
  have hzero : BitVec.ofNat 52 m ≠ 0#52 := by
    rw [Ne, ← BitVec.toNat_inj, hfraction]
    simp
    omega
  unfold UnpackedFloat.unpack
  simp only [unpackMantissa_packComponents, unpackExponent_packComponents,
    unpackSign_packComponents, ofBitVec_toBitVec]
  rw [if_neg (by decide), if_pos trivial, dif_neg hzero]
  simp only [hfraction]
  rfl

/-- Packing loses nothing of a canonical form that is not beyond all doubles. -/
theorem unpack_pack_finite (hm : 0 < m) (hc : Canonical m e) (he : e ≤ 971) :
    UnpackedFloat.unpack Format.binary64 (UnpackedFloat.pack Format.binary64 (.finite s m e hm)) =
      .finite s m e hm := by
  rw [pack_finite hm hc, if_neg he.not_gt]
  split_ifs with hfull
  · exact unpack_packComponents_full hm hc he hfull
  · obtain rfl : e = -1074 := hc.full.resolve_left hfull
    exact unpack_packComponents_partial hm (not_le.mp hfull)

/-- A canonical form beyond all doubles is packed as infinite. -/
lemma unpack_pack_beyond (hm : 0 < m) (hc : Canonical m e) (he : 971 < e) :
    UnpackedFloat.unpack Format.binary64 (UnpackedFloat.pack Format.binary64 (.finite s m e hm)) =
      .infinity s := by
  rw [pack_finite hm hc, if_pos he]
  cases s <;> rfl

end Packing

section Values

/-- The number that is decoded, if it is one. -/
def Decoded.value? : Decoded → Option ℚ
  | .finite negative m e => some (if negative then -(m * 2 ^ e) else m * 2 ^ e)
  | _ => none

/-- The number that a double stands for, if it stands for one. -/
def value? (x : Float) : Option ℚ :=
  (decode x).value?

variable {x y : Float} {v w : ℚ} {u : UnpackedFloat}

lemma value?_one : value? 1.0 = some 1 := by
  have hdecode : decode 1.0 = .finite false (2 ^ 52) (-52) := by decide +kernel
  rw [value?, hdecode, Decoded.value?]
  norm_num

lemma value?_zero : value? 0.0 = some 0 := by
  have hdecode : decode 0.0 = .finite false 0 (-1074) := by decide +kernel
  rw [value?, hdecode, Decoded.value?]
  norm_num

/-- What a double decodes to is in canonical form, with an exponent that doubles have. -/
lemma canonical_of_decode {negative : Bool} {m : ℕ} {e : ℤ} (h : decode x = .finite negative m e) :
    Canonical m e ∧ e ≤ 971 := by
  unfold decode at h
  dsimp only [Nat.pow_eq] at h
  split_ifs at h with hones _ hzero
  · obtain ⟨-, rfl, rfl⟩ := Decoded.finite.inj h
    exact ⟨⟨by omega, le_rfl, .inr rfl⟩, by norm_num⟩
  · obtain ⟨-, rfl, rfl⟩ := Decoded.finite.inj h
    rw [beq_iff_eq] at hones hzero
    refine ⟨⟨by omega, by omega, .inl (by omega)⟩, by omega⟩

/-- The unpacked form of a double that is not negative holds its number. -/
lemma holds_unpack (h : value? x = some v) (hv : 0 ≤ v) : Holds x.toModel.unpack v := by
  have hcanonical : ∀ {negative m e}, decode x = .finite negative m e → _ := canonical_of_decode
  unfold value? at h
  rw [decode_eq] at h hcanonical
  cases hu : x.toModel.unpack with
  | infinity s => simp [hu, Decoded.ofUnpacked, Decoded.value?] at h
  | notANumber => simp [hu, Decoded.ofUnpacked, Decoded.value?] at h
  | zero s =>
    obtain rfl : v = 0 := by simpa [hu, Decoded.ofUnpacked, Decoded.value?] using h.symm
    exact .zero s
  | finite s m e hm =>
    rw [hu] at h hcanonical
    obtain ⟨hc, -⟩ := hcanonical rfl
    cases s with
    | positive =>
      obtain rfl : (m * 2 ^ e : ℚ) = v := Option.some.inj h
      exact .finite hm hc
    | negative =>
      obtain rfl : (-(m * 2 ^ e) : ℚ) = v := Option.some.inj h
      have hpos : (0 : ℚ) < m * 2 ^ e := mul_pos (by exact_mod_cast hm) (two_zpow_pos e)
      linarith

/-- What a double stands for is representable. -/
lemma representable_of_value (h : value? x = some v) (hv : 0 ≤ v) : Representable v :=
  (holds_unpack h hv).representable

/-- A number that is not negative lies beyond all doubles from the exponent 972 on. -/
lemma Canonical.lt_iff {m : ℕ} {e : ℤ} (hc : Canonical m e) :
    (m * 2 ^ e : ℚ) < 2 ^ (1024 : ℤ) ↔ e ≤ 971 := by
  have hunit := two_zpow_pos e
  rw [two_zpow_1024]
  rcases le_or_gt e 971 with hle | hgt
  · have hm : (m : ℚ) < 2 ^ 53 := by exact_mod_cast hc.bits
    refine iff_of_true ?_ hle
    exact mul_lt_mul hm (zpow_le_zpow_right₀ one_le_two hle) hunit (by norm_num)
  · have hm : (2 ^ 52 : ℚ) ≤ m := by exact_mod_cast hc.full.resolve_right (by omega)
    refine iff_of_false (not_lt.mpr ?_) hgt.not_ge
    calc (2 ^ 53 : ℚ) * 2 ^ (971 : ℤ) = 2 ^ 52 * 2 ^ ((971 : ℤ) + 1) := by
          rw [zpow_add_one₀ two_ne_zero]
          ring
      _ ≤ 2 ^ 52 * 2 ^ e :=
        mul_le_mul_of_nonneg_left (zpow_le_zpow_right₀ one_le_two hgt) (by norm_num)
      _ ≤ m * 2 ^ e := mul_le_mul_of_nonneg_right hm hunit.le

/-- The numbers that doubles stand for lie below `2 ^ 1024`. -/
lemma value_lt (h : value? x = some v) : v < 2 ^ (1024 : ℤ) := by
  unfold value? at h
  cases hd : decode x with
  | nan => simp [hd, Decoded.value?] at h
  | infinite => simp [hd, Decoded.value?] at h
  | finite negative m e =>
    obtain ⟨hc, he⟩ := canonical_of_decode hd
    have hlt := hc.lt_iff.mpr he
    rw [hd, Decoded.value?, Option.some_inj] at h
    cases negative with
    | false => rwa [← h]
    | true =>
      have hnonneg : (0 : ℚ) ≤ m * 2 ^ e := mul_nonneg m.cast_nonneg (two_zpow_pos e).le
      rw [if_pos rfl] at h
      exact (by linarith : v ≤ 0).trans_lt (two_zpow_pos 1024)

/-- Below `2 ^ 1024` a packed form stands for the number that the form holds. -/
lemma value?_pack_of_lt (h : Holds u v) (hlt : v < 2 ^ (1024 : ℤ)) :
    value? (.ofModel (.pack u)) = some v := by
  rw [value?, decode_eq]
  change (Decoded.ofUnpacked
    (UnpackedFloat.unpack _ (UnpackedFloat.pack Format.binary64 u))).value? = _
  cases h with
  | zero s =>
    cases s <;> simp [unpack_pack_zero, Decoded.ofUnpacked, Decoded.value?]
  | finite hm hc =>
    rw [unpack_pack_finite hm hc (hc.lt_iff.mp hlt)]
    rfl

/-- From `2 ^ 1024` on a packed form is infinite. -/
lemma decode_pack_of_ge (h : Holds u v) (hge : 2 ^ (1024 : ℤ) ≤ v) :
    decode (.ofModel (.pack u)) = .infinite false := by
  rw [decode_eq]
  change Decoded.ofUnpacked (UnpackedFloat.unpack _ (UnpackedFloat.pack Format.binary64 u)) = _
  cases h with
  | zero s => exact absurd hge (two_zpow_pos 1024).not_ge
  | finite hm hc =>
    rw [unpack_pack_beyond hm hc (lt_of_not_ge (hge.not_gt ∘ hc.lt_iff.mpr))]
    rfl

/-- A double stands for the representable number nearest to `q`, or is infinite if that one lies
beyond all doubles. -/
structure RoundsTo (x : Float) (q : ℚ) : Prop where
  value? : q < overflow → value? x = some (nearest q)
  infinite : overflow ≤ q → decode x = .infinite false

/-- The result of an operation rounds to the exact one if its unpacked form holds the nearest
representable number. -/
lemma roundsTo_pack {q : ℚ} (hq : 0 ≤ q) (h : Holds u (nearest q)) :
    RoundsTo (.ofModel (.pack u)) q where
  value? hlt := value?_pack_of_lt h ((nearest_lt_iff hq).mpr hlt)
  infinite hge := decode_pack_of_ge h (not_lt.mp (hge.not_gt ∘ (nearest_lt_iff hq).mp))

end Values

section Order

variable {x y : Float} {v w : ℚ}

/-- Of two canonical forms the one with the larger exponent is the larger number, since its mantissa
is full. -/
lemma Canonical.lt_of_exponent_lt {m₁ m₂ : ℕ} {e₁ e₂ : ℤ} (hc₁ : Canonical m₁ e₁)
    (hc₂ : Canonical m₂ e₂) (h : e₁ < e₂) : (m₁ * 2 ^ e₁ : ℚ) < m₂ * 2 ^ e₂ := by
  have hleast := hc₁.least
  have hm₁ : (m₁ : ℚ) < 2 ^ 53 := by exact_mod_cast hc₁.bits
  have hm₂ : (2 ^ 52 : ℚ) ≤ m₂ := by exact_mod_cast hc₂.full.resolve_right (by omega)
  calc (m₁ * 2 ^ e₁ : ℚ) < 2 ^ 53 * 2 ^ e₁ := mul_lt_mul_of_pos_right hm₁ (two_zpow_pos _)
    _ = 2 ^ 52 * 2 ^ (e₁ + 1) := by
        rw [zpow_add_one₀ two_ne_zero]
        ring
    _ ≤ 2 ^ 52 * 2 ^ e₂ :=
        mul_le_mul_of_nonneg_left (zpow_le_zpow_right₀ one_le_two h) (by norm_num)
    _ ≤ m₂ * 2 ^ e₂ := mul_le_mul_of_nonneg_right hm₂ (two_zpow_pos _).le

/-- Canonical forms compare as their numbers do. -/
theorem compare_of_holds {u₁ u₂ : UnpackedFloat} (h₁ : Holds u₁ v) (h₂ : Holds u₂ w) :
    u₁.compare u₂ = some (compare v w) := by
  cases h₁ with
  | zero s₁ =>
    cases h₂ with
    | zero s₂ => simp [UnpackedFloat.compare]
    | @finite m e hm hc =>
      have hpos : (0 : ℚ) < m * 2 ^ e := mul_pos (by exact_mod_cast hm) (two_zpow_pos e)
      rw [compare_lt_iff_lt.mpr hpos]
      rfl
  | @finite m₁ e₁ hm₁ hc₁ =>
    cases h₂ with
    | zero s₂ =>
      have hpos : (0 : ℚ) < m₁ * 2 ^ e₁ := mul_pos (by exact_mod_cast hm₁) (two_zpow_pos e₁)
      rw [compare_gt_iff_gt.mpr hpos]
      rfl
    | @finite m₂ e₂ hm₂ hc₂ =>
      simp only [UnpackedFloat.compare]
      rcases lt_trichotomy e₁ e₂ with hlt | rfl | hgt
      · rw [compare_lt_iff_lt.mpr hlt, compare_lt_iff_lt.mpr (hc₁.lt_of_exponent_lt hc₂ hlt)]
        rfl
      · have hunit := two_zpow_pos e₁
        rw [compare_eq_iff_eq.mpr rfl, Ordering.eq_then]
        congr 1
        rcases lt_trichotomy m₁ m₂ with hlt | rfl | hgt
        · have hlt' : (m₁ * 2 ^ e₁ : ℚ) < m₂ * 2 ^ e₁ :=
            mul_lt_mul_of_pos_right (by exact_mod_cast hlt) hunit
          rw [compare_lt_iff_lt.mpr hlt, compare_lt_iff_lt.mpr hlt']
        · rw [compare_eq_iff_eq.mpr rfl, compare_eq_iff_eq.mpr rfl]
        · have hgt' : (m₂ * 2 ^ e₁ : ℚ) < m₁ * 2 ^ e₁ :=
            mul_lt_mul_of_pos_right (by exact_mod_cast hgt) hunit
          rw [compare_gt_iff_gt.mpr hgt, compare_gt_iff_gt.mpr hgt']
      · rw [compare_gt_iff_gt.mpr hgt, compare_gt_iff_gt.mpr (hc₂.lt_of_exponent_lt hc₁ hgt)]
        rfl

/-- Doubles are compared by their unpacked forms. -/
lemma lt_iff_compare : x < y ↔ x.toModel.unpack.compare y.toModel.unpack = some .lt := by
  change decide (x.toModel < y.toModel) = true ↔ _
  rw [decide_eq_true_iff]
  change (x.toModel.unpack.compare y.toModel.unpack == some .lt) = true ↔ _
  rw [beq_iff_eq]

lemma le_iff_compare : x ≤ y ↔ (x.toModel.unpack.compare y.toModel.unpack).any (·.isLE) = true := by
  change decide (x.toModel ≤ y.toModel) = true ↔ _
  rw [decide_eq_true_iff]
  exact Iff.rfl

lemma beq_iff_compare : (x == y) = true ↔ x.toModel.unpack.compare y.toModel.unpack = some .eq := by
  change (x.toModel.unpack.compare y.toModel.unpack == some .eq) = true ↔ _
  rw [beq_iff_eq]

lemma unpack_zero : (0.0 : Float).toModel.unpack = .zero .positive := by
  rfl

/-- Doubles that are not negative are in the order of their numbers. -/
theorem lt_iff_value_lt (hx : value? x = some v) (hv : 0 ≤ v) (hy : value? y = some w)
    (hw : 0 ≤ w) : x < y ↔ v < w := by
  rw [lt_iff_compare, compare_of_holds (holds_unpack hx hv) (holds_unpack hy hw), Option.some_inj,
    compare_lt_iff_lt]

/-- What is at least zero is infinite or stands for a number that is not negative. -/
lemma nonneg_cases (h : 0.0 ≤ x) :
    decode x = .infinite false ∨ ∃ v, value? x = some v ∧ 0 ≤ v := by
  rw [le_iff_compare, unpack_zero] at h
  rw [value?, decode_eq]
  cases hu : x.toModel.unpack with
  | infinity s =>
    rw [hu] at h
    cases s with
    | positive => exact .inl rfl
    | negative => simp [UnpackedFloat.compare] at h
  | notANumber =>
    rw [hu] at h
    simp [UnpackedFloat.compare] at h
  | zero s => exact .inr ⟨0, by simp [Decoded.ofUnpacked, Decoded.value?], le_rfl⟩
  | finite s m e hm =>
    rw [hu] at h
    cases s with
    | positive => exact .inr ⟨m * 2 ^ e, rfl, by positivity⟩
    | negative => simp [UnpackedFloat.compare] at h

/-- Only one unpacked form decodes as infinite and positive. -/
lemma unpack_of_infinite (h : decode x = .infinite false) :
    x.toModel.unpack = .infinity .positive := by
  rw [decode_eq] at h
  cases hu : x.toModel.unpack with
  | infinity s =>
    cases s with
    | positive => rfl
    | negative => simp [hu, Decoded.ofUnpacked] at h
  | notANumber => simp [hu, Decoded.ofUnpacked] at h
  | zero s => simp [hu, Decoded.ofUnpacked] at h
  | finite s m e hm => simp [hu, Decoded.ofUnpacked] at h

/-- No double is above an infinite one. -/
lemma not_lt_of_infinite (h : decode x = .infinite false) (y : Float) : ¬ x < y := by
  rw [lt_iff_compare, unpack_of_infinite h]
  cases y.toModel.unpack with
  | infinity s => cases s <;> decide
  | notANumber => simp [UnpackedFloat.compare]
  | zero s => simp [UnpackedFloat.compare]
  | finite s m e hm => simp [UnpackedFloat.compare]

/-- A double in the unit interval stands for a number in it. -/
lemma exists_value_of_unit (h₀ : 0.0 ≤ x) (h₁ : x < 1.0) :
    ∃ v, value? x = some v ∧ 0 ≤ v ∧ v < 1 := by
  rcases nonneg_cases h₀ with hinfinite | ⟨v, hv, hnonneg⟩
  · exact absurd h₁ (not_lt_of_infinite hinfinite _)
  · exact ⟨v, hv, hnonneg, (lt_iff_value_lt hv hnonneg value?_one zero_le_one).mp h₁⟩

/-- What is above zero is infinite or stands for a number that is positive. -/
lemma pos_cases (h : 0.0 < x) :
    decode x = .infinite false ∨ ∃ v, value? x = some v ∧ 0 < v := by
  have hle : 0.0 ≤ x := by
    rw [lt_iff_compare] at h
    rw [le_iff_compare, h]
    rfl
  rcases nonneg_cases hle with hinfinite | ⟨v, hv, hnonneg⟩
  · exact .inl hinfinite
  · exact .inr ⟨v, hv, (lt_iff_value_lt value?_zero le_rfl hv hnonneg).mp h⟩

end Order

end LoadBinding.Number
