import LoadBinding.Proofs.Doubles

/-!
# Float arithmetic on numbers that are not negative

Each operation computes the exact result far enough to round it once: a product and a sum exactly, a
quotient down to the place that its rounding needs, with what is left over.  So its result is the
representable number nearest to the exact one.  This is shown on unpacked floats (`holds_mul`,
`holds_add`, `holds_div`) and carried over to doubles (`roundsTo_mul`, `roundsTo_add`,
`roundsTo_div`, `roundsTo_ofInt`).
-/

namespace LoadBinding.Number

open Float.Model Float.Model.UnpackedFloat

section Unpacked

variable {u₁ u₂ : UnpackedFloat} {v w : ℚ}

/-- A product is computed exactly, and rounded once. -/
theorem holds_mul (h₁ : Holds u₁ v) (h₂ : Holds u₂ w) :
    Holds (UnpackedFloat.mul Format.binary64 u₁ u₂) (nearest (v * w)) := by
  cases h₁ with
  | zero s₁ =>
    rw [zero_mul, nearest_zero]
    cases h₂ with
    | zero s₂ => exact .zero _
    | finite => exact .zero _
  | @finite m₁ e₁ hm₁ hc₁ =>
    cases h₂ with
    | zero s₂ =>
      rw [mul_zero, nearest_zero]
      exact .zero _
    | @finite m₂ e₂ hm₂ hc₂ =>
      have hexact : (m₁ * 2 ^ e₁ * (m₂ * 2 ^ e₂) : ℚ) = (m₁ * m₂ : ℕ) * 2 ^ (e₁ + e₂) := by
        rw [two_zpow_add]
        push_cast
        ring
      have hpos : (0 : ℚ) < (m₁ * m₂ : ℕ) * 2 ^ (e₁ + e₂) :=
        mul_pos (by exact_mod_cast Nat.mul_pos hm₁ hm₂) (two_zpow_pos _)
      rw [hexact]
      refine holds_roundWithAccuracy hpos ?_ (.inl (Nat.mul_pos hm₁ hm₂).ne') (le_lastPlace hpos ?_)
      · rw [mul_div_cancel_right₀ _ (two_zpow_pos _).ne']
        exact .exact _
      · -- One mantissa of 53 bits is enough for the product to have as many.
        by_cases hsmall : e₁ = -1074 ∧ e₂ = -1074
        · exact .inr (by omega)
        · have hfull : 2 ^ 52 ≤ m₁ * m₂ := by
            rcases not_and_or.mp hsmall with h | h
            · exact (hc₁.full.resolve_right h).trans (Nat.le_mul_of_pos_right m₁ hm₂)
            · exact (hc₂.full.resolve_right h).trans (Nat.le_mul_of_pos_left m₂ hm₁)
          exact .inl (mul_le_mul_of_nonneg_right (by exact_mod_cast hfull) (two_zpow_pos _).le)

/-- A mantissa that is shifted to a lower exponent stands for the same number. -/
lemma shiftLeft_mul_two_zpow (m : ℕ) {e ℓ : ℤ} (h : ℓ ≤ e) :
    ((m <<< (e - ℓ).toNat : ℕ) : ℚ) * 2 ^ ℓ = m * 2 ^ e := by
  rw [Nat.shiftLeft_eq, Nat.cast_mul, mul_assoc, ← two_zpow_eq_mul h]

/-- A sum is exact once both mantissas are shifted to the lower exponent, and is rounded then. -/
theorem holds_add (h₁ : Holds u₁ v) (h₂ : Holds u₂ w) :
    Holds (UnpackedFloat.add Format.binary64 u₁ u₂) (nearest (v + w)) := by
  cases h₁ with
  | zero s₁ =>
    rw [zero_add, nearest_eq_self h₂.nonneg h₂.representable]
    cases h₂ with
    | zero s₂ => cases s₁ <;> cases s₂ <;> exact .zero _
    | finite hm hc => exact .finite hm hc
  | @finite m₁ e₁ hm₁ hc₁ =>
    cases h₂ with
    | zero s₂ =>
      have hholds := Holds.finite hm₁ hc₁
      rw [add_zero, nearest_eq_self hholds.nonneg hholds.representable]
      exact hholds
    | @finite m₂ e₂ hm₂ hc₂ =>
      have hexact : (m₁ * 2 ^ e₁ + m₂ * 2 ^ e₂ : ℚ) =
          (m₁ <<< (e₁ - min e₁ e₂).toNat + m₂ <<< (e₂ - min e₁ e₂).toNat : ℕ) * 2 ^ min e₁ e₂ := by
        rw [Nat.cast_add, add_mul, shiftLeft_mul_two_zpow m₁ (min_le_left e₁ e₂),
          shiftLeft_mul_two_zpow m₂ (min_le_right e₁ e₂)]
      rw [hexact]
      refine holds_normalize ?_ _
      rw [Nat.shiftLeft_eq]
      positivity

/-- A quotient is at least the power of two that is the difference of the lengths, less one. -/
lemma two_zpow_totalExponent_le_div {m₁ m₂ : ℕ} (hm₁ : 0 < m₁) (hm₂ : 0 < m₂) (e₁ e₂ : ℤ) :
    (2 : ℚ) ^ (totalExponent m₁ e₁ - totalExponent m₂ e₂ - 1) ≤ m₁ * 2 ^ e₁ / (m₂ * 2 ^ e₂) := by
  have hself : (2 : ℚ) ^ m₁.log2 ≤ m₁ := by exact_mod_cast Nat.log2_self_le hm₁.ne'
  have hsucc : (m₂ : ℚ) ≤ 2 ^ (m₂.log2 + 1) := by exact_mod_cast (Nat.lt_log2_self (n := m₂)).le
  have hpos : (0 : ℚ) < m₂ * 2 ^ e₂ := mul_pos (by exact_mod_cast hm₂) (two_zpow_pos e₂)
  rw [le_div_iff₀ hpos]
  calc (2 : ℚ) ^ (totalExponent m₁ e₁ - totalExponent m₂ e₂ - 1) * (m₂ * 2 ^ e₂)
      ≤ 2 ^ (totalExponent m₁ e₁ - totalExponent m₂ e₂ - 1) * (2 ^ (m₂.log2 + 1) * 2 ^ e₂) :=
        mul_le_mul_of_nonneg_left (mul_le_mul_of_nonneg_right hsucc (two_zpow_pos _).le)
          (two_zpow_pos _).le
    _ = 2 ^ m₁.log2 * 2 ^ e₁ := by
        simp only [← zpow_natCast, ← two_zpow_add, totalExponent]
        congr 1
        push_cast
        ring
    _ ≤ m₁ * 2 ^ e₁ := mul_le_mul_of_nonneg_right hself (two_zpow_pos _).le

/-- A quotient as division finds it: a whole number of units, with what is left over. -/
lemma div_two_zpow_eq (m₁ : ℕ) {m₂ : ℕ} (hm₂ : 0 < m₂) {e₁ e₂ ℓ : ℤ} (h : ℓ ≤ e₁ - e₂) :
    (m₁ * 2 ^ e₁ / (m₂ * 2 ^ e₂) : ℚ) / 2 ^ ℓ =
      (m₁ <<< (e₁ - e₂ - ℓ).toNat / m₂ : ℕ) + (m₁ <<< (e₁ - e₂ - ℓ).toNat % m₂ : ℕ) / m₂ := by
  have hshift := shiftLeft_mul_two_zpow m₁ h
  generalize m₁ <<< (e₁ - e₂ - ℓ).toNat = n at *
  have hdivmod : (n : ℚ) = m₂ * (n / m₂ : ℕ) + (n % m₂ : ℕ) := by
    exact_mod_cast (Nat.div_add_mod n m₂).symm
  have hm₂' : (m₂ : ℚ) ≠ 0 := by exact_mod_cast hm₂.ne'
  calc (m₁ * 2 ^ e₁ / (m₂ * 2 ^ e₂) : ℚ) / 2 ^ ℓ = n / m₂ := by
        rw [mul_div_mul_comm, ← zpow_sub₀ two_ne_zero, div_mul_eq_mul_div, ← hshift,
          div_right_comm, mul_div_cancel_right₀ _ (two_zpow_pos ℓ).ne']
    _ = (n / m₂ : ℕ) + (n % m₂ : ℕ) / m₂ := by
        conv_lhs => rw [hdivmod]
        rw [add_div, mul_div_cancel_left₀ _ hm₂']

/-- A quotient is computed down to the place that its rounding needs, with what is left over. -/
theorem holds_div (h₁ : Holds u₁ v) (h₂ : Holds u₂ w) (hw : 0 < w) :
    Holds (UnpackedFloat.div Format.binary64 u₁ u₂) (nearest (v / w)) := by
  cases h₂ with
  | zero => exact absurd hw (lt_irrefl 0)
  | @finite m₂ e₂ hm₂ hc₂ =>
    cases h₁ with
    | zero s₁ =>
      rw [zero_div, nearest_zero]
      exact .zero _
    | @finite m₁ e₁ hm₁ hc₁ =>
      simp only [UnpackedFloat.div, divCore]
      have hlow := two_zpow_totalExponent_le_div hm₁ hm₂ e₁ e₂
      have hpos : (0 : ℚ) < m₁ * 2 ^ e₁ / (m₂ * 2 ^ e₂) := (two_zpow_pos _).trans_le hlow
      rw [targetExponent_eq]
      generalize totalExponent m₁ e₁ - totalExponent m₂ e₂ = total at *
      obtain ⟨ℓ, hℓ⟩ : ∃ ℓ, ℓ = min (e₁ - e₂) (max (total - 53) (-1074)) := ⟨_, rfl⟩
      rw [← hℓ]
      have hquot := div_two_zpow_eq m₁ hm₂ (by omega : ℓ ≤ e₁ - e₂)
      generalize m₁ <<< (e₁ - e₂ - ℓ).toNat = n at *
      -- Either the quotient has its 53 bits, or its last place is the least there is.
      have hbits : 2 ^ 52 * 2 ^ ℓ ≤ (m₁ * 2 ^ e₁ / (m₂ * 2 ^ e₂) : ℚ) ∨ ℓ ≤ -1074 := by
        rcases (by omega : ℓ ≤ total - 53 ∨ ℓ ≤ -1074) with h | h
        · refine .inl (le_trans ?_ hlow)
          rw [← zpow_natCast, ← two_zpow_add]
          exact zpow_le_zpow_right₀ one_le_two (by push_cast; omega)
        · exact .inr h
      refine holds_roundWithAccuracy hpos ?_ ?_ (le_lastPlace hpos hbits)
      · rw [hquot]
        exact .ofFraction _ (Nat.mod_lt n hm₂)
      · refine hbits.imp_left fun hfull hzero => ?_
        have hlt : ((n % m₂ : ℕ) / m₂ : ℚ) < 1 := by
          rw [div_lt_one (by exact_mod_cast hm₂)]
          exact_mod_cast Nat.mod_lt n hm₂
        rw [← le_div_iff₀ (two_zpow_pos ℓ), hquot, hzero] at hfull
        norm_num at hfull
        linarith

/-- What is added to an infinite float is lost. -/
lemma infinity_add (h : Holds u₁ v) :
    UnpackedFloat.add Format.binary64 (.infinity .positive) u₁ = .infinity .positive := by
  cases h <;> rfl

/-- An infinite float stays infinite, whatever positive number divides it. -/
lemma infinity_div (h : Holds u₁ v) (hv : 0 < v) :
    UnpackedFloat.div Format.binary64 (.infinity .positive) u₁ = .infinity .positive := by
  cases h with
  | zero => exact absurd hv (lt_irrefl 0)
  | finite => rfl

/-- A number divided by an infinite float is zero. -/
lemma holds_div_infinity (h : Holds u₁ v) :
    Holds (UnpackedFloat.div Format.binary64 u₁ (.infinity .positive)) 0 := by
  cases h <;> exact .zero _

end Unpacked

section Doubles

variable {x y : Float} {v w : ℚ}

/-- The product of two doubles rounds to the product of their numbers. -/
theorem roundsTo_mul (hx : value? x = some v) (hv : 0 ≤ v) (hy : value? y = some w) (hw : 0 ≤ w) :
    RoundsTo (x * y) (v * w) :=
  roundsTo_pack (mul_nonneg hv hw) (holds_mul (holds_unpack hx hv) (holds_unpack hy hw))

/-- The sum of two doubles rounds to the sum of their numbers. -/
theorem roundsTo_add (hx : value? x = some v) (hv : 0 ≤ v) (hy : value? y = some w) (hw : 0 ≤ w) :
    RoundsTo (x + y) (v + w) :=
  roundsTo_pack (add_nonneg hv hw) (holds_add (holds_unpack hx hv) (holds_unpack hy hw))

/-- The quotient of two doubles rounds to that of their numbers, if the divisor is positive. -/
theorem roundsTo_div (hx : value? x = some v) (hv : 0 ≤ v) (hy : value? y = some w) (hw : 0 < w) :
    RoundsTo (x / y) (v / w) :=
  roundsTo_pack (div_nonneg hv hw.le) (holds_div (holds_unpack hx hv) (holds_unpack hy hw.le) hw)

/-- A natural number of at most 53 bits is a double as it is. -/
lemma value?_toFloat {n : ℕ} (hn : 0 < n) (hsmall : n < 2 ^ 53) :
    value? n.toUInt64.toFloat = some (n : ℚ) := by
  have htoNat : n.toUInt64.toNat = n := by
    rw [Nat.toUInt64_eq, UInt64.toNat_ofNat']
    omega
  have hrep : Representable n := representable_natCast hsmall.le
  have hholds := holds_normalize hn 0
  rw [zpow_zero, mul_one, nearest_eq_self n.cast_nonneg hrep] at hholds
  have hlt : (n : ℚ) < 2 ^ (1024 : ℤ) := by
    calc (n : ℚ) < 2 ^ 53 := by exact_mod_cast hsmall
      _ ≤ 2 ^ (1024 : ℤ) := by
        rw [← zpow_natCast]
        exact zpow_le_zpow_right₀ one_le_two (by norm_num)
  have hpacked := value?_pack_of_lt hholds hlt
  have htoFloat : n.toUInt64.toFloat =
      .ofModel (.pack (UnpackedFloat.normalize Format.binary64 n.toUInt64.toNat 0 .positive)) := rfl
  rw [htoFloat, htoNat]
  exact hpacked

/-- A conversion is exact up to 53 bits; beyond them the number is scaled and rounded. -/
lemma roundsTo_ofScientific {n : ℕ} (hn : 0 < n) : RoundsTo (Float.ofScientific n false 0) n := by
  have hpos : (0 : ℚ) < n := by exact_mod_cast hn
  unfold Float.ofScientific
  by_cases hsmall : n < 2 ^ 53 ∧ 0 ≤ 22
  · rw [dif_pos hsmall]
    have hone : value? Float.exactlyRepresentablePowersOfTen[0] = some 1 := value?_one
    have hmul := roundsTo_mul (value?_toFloat hn hsmall.1) hpos.le hone zero_le_one
    rw [mul_one] at hmul
    exact hmul
  · rw [dif_neg hsmall]
    refine roundsTo_pack hpos.le ?_
    have hexact : UnpackedFloat.ofScientific Format.binary64 n 0 =
        roundWithAccuracy Format.binary64 .positive (n <<< 53 * 10 ^ 0) (-53 + 0) .exact := by
      unfold UnpackedFloat.ofScientific
      rw [dif_neg hn.ne', if_neg (by decide), if_neg (by simp), if_pos le_rfl]
      rfl
    have hscaled : (n : ℚ) / (2 : ℚ) ^ (-53 + 0 : ℤ) = (n <<< 53 * 10 ^ 0 : ℕ) := by
      rw [Nat.shiftLeft_eq, div_eq_mul_inv, ← zpow_neg]
      push_cast
      norm_num
    have hone : (1 : ℚ) ≤ n := by exact_mod_cast hn
    change Holds (UnpackedFloat.ofScientific Format.binary64 n 0) (nearest n)
    rw [hexact]
    refine holds_roundWithAccuracy hpos ?_ (.inl ?_) (le_lastPlace hpos (.inl ?_))
    · rw [hscaled]
      exact .exact _
    · rw [Nat.shiftLeft_eq]
      positivity
    · norm_num
      linarith

/-- What has more than 310 digits lies beyond all doubles. -/
lemma overflow_le_of_digits {n : ℕ} (h : 310 < (Nat.toDigits 10 n).length) : overflow ≤ n := by
  have hlarge : 10 ^ 310 ≤ n := by
    by_contra hlt
    have := (Nat.length_toDigits_le_iff (by norm_num) (by norm_num)).mpr (not_le.mp hlt)
    omega
  have hpow : 2 ^ 1024 ≤ 10 ^ 310 := by decide +kernel
  calc overflow ≤ 2 ^ (1024 : ℤ) := overflow_lt.le
    _ = (2 ^ 1024 : ℕ) := by rw [Nat.cast_pow, Nat.cast_ofNat, zpow_ofNat]
    _ ≤ n := by exact_mod_cast hpow.trans hlarge

/-- A natural number of any size is converted to the nearest double. -/
theorem roundsTo_ofInt (n : ℕ) : RoundsTo (ofInt n) n := by
  have hsign : decide ((n : ℤ) < 0) = false := decide_eq_false (by omega)
  unfold ofInt ofDecimal
  rw [hsign, Int.natAbs_natCast]
  dsimp only
  rcases Nat.eq_zero_or_pos n with rfl | hpos
  · refine ⟨fun _ => ?_, fun h => absurd h overflow_pos.not_ge⟩
    rw [Nat.cast_zero, nearest_zero]
    exact value?_zero
  · have hzero : ¬ (n == 0 || decide (((Nat.toDigits 10 n).length : ℤ) + 0 < -330)) = true := by
      simp
      omega
    rw [if_neg hzero, if_neg Bool.false_ne_true]
    split_ifs with hdigits
    · have hbeyond : overflow ≤ n := overflow_le_of_digits (by omega)
      refine ⟨fun h => absurd hbeyond h.not_ge, fun _ => ?_⟩
      decide +kernel
    · exact roundsTo_ofScientific hpos

/-- A part of a double does not lie beyond all doubles. -/
lemma part_lt_overflow (hv : v < 1) (hy : value? y = some w) (hw : 0 ≤ w) : v * w < overflow :=
  calc v * w ≤ w + 0 := by
        rw [add_zero]
        exact mul_le_of_le_one_left hw hv.le
    _ < overflow := (representable_of_value hy hw).add_lt_overflow (value_lt hy) zero_le_one

/-! ### Infinite operands -/

lemma decode_pack_infinity : decode (.ofModel (.pack (.infinity .positive))) = .infinite false := by
  rfl

lemma infinite_add (hx : decode x = .infinite false) (hy : value? y = some w) (hw : 0 ≤ w) :
    decode (x + y) = .infinite false := by
  change decode (.ofModel (.pack
    (UnpackedFloat.add Format.binary64 x.toModel.unpack y.toModel.unpack))) = _
  rw [unpack_of_infinite hx, infinity_add (holds_unpack hy hw)]
  exact decode_pack_infinity

lemma infinite_div (hx : decode x = .infinite false) (hy : value? y = some w) (hw : 0 < w) :
    decode (x / y) = .infinite false := by
  change decode (.ofModel (.pack
    (UnpackedFloat.div Format.binary64 x.toModel.unpack y.toModel.unpack))) = _
  rw [unpack_of_infinite hx, infinity_div (holds_unpack hy hw.le) hw]
  exact decode_pack_infinity

/-- A double divided by an infinite one is zero. -/
lemma value?_div_infinite (hx : value? x = some v) (hv : 0 ≤ v) (hy : decode y = .infinite false) :
    value? (x / y) = some 0 := by
  have hquotient := holds_div_infinity (holds_unpack hx hv)
  rw [← unpack_of_infinite hy] at hquotient
  exact value?_pack_of_lt hquotient (two_zpow_pos 1024)

end Doubles

end LoadBinding.Number
