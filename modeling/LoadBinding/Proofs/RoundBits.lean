import LoadBinding.Proofs.Rounding

/-!
# Rounding with two residual bits

Float operations compute an exact result as far as a mantissa, the bit behind it and whether any
bit behind that one is set.  `Represents` says which numbers such an extended mantissa stands for.
This survives every shift to the right (`Represents.shiftRight`), and it is all that is needed to
select the nearest integer (`Represents.roundedMantissa_eq`).

It follows that rounding a positive number brings the representable number nearest to it, in the
form that packing expects (`holds_roundWithAccuracy`, `holds_round`).
-/

namespace LoadBinding.Number

open Float.Model Float.Model.UnpackedFloat

/-- The extended mantissas of a number: its bits as far as the first one behind the point, and
whether more than that one is set behind it. -/
structure Represents (em : ExtendedMantissa) (x : ℚ) : Prop where
  bits : ⌊2 * x⌋ = 2 * em.mantissa + em.roundBit.toNat
  sticky : em.stickyBit = true ↔ Int.fract (2 * x) ≠ 0

namespace Represents

variable {em : ExtendedMantissa} {x : ℚ}

lemma floor_eq (h : Represents em x) : ⌊x⌋ = em.mantissa := by
  have hhalf : ⌊2 * x / (2 : ℕ)⌋ = ⌊2 * x⌋ / (2 : ℕ) := Int.floor_div_natCast _ 2
  have hbit := em.roundBit.toNat_le
  rw [h.bits, Nat.cast_ofNat, mul_div_cancel_left₀ x two_ne_zero] at hhalf
  omega

lemma shiftRightOne (h : Represents em x) : Represents em.shiftRightOne (x / 2) := by
  have hdouble : 2 * (x / 2) = x := mul_div_cancel₀ x two_ne_zero
  constructor
  · rw [hdouble, h.floor_eq]
    rcases Nat.mod_two_eq_zero_or_one em.mantissa with hmod | hmod <;>
      simp [ExtendedMantissa.shiftRightOne, hmod] <;> omega
  · rw [hdouble]
    -- Something is left behind the point of `x` if a bit is set there or further on.
    have htwice := Int.floor_add_fract (2 * x)
    have hfract : Int.fract x = (em.roundBit.toNat + Int.fract (2 * x)) / 2 := by
      have hx := Int.floor_add_fract x
      rw [h.floor_eq] at hx
      rw [h.bits] at htwice
      push_cast at hx htwice
      linarith
    have hnonneg := Int.fract_nonneg (2 * x)
    rw [hfract]
    cases hround : em.roundBit
    · simp [ExtendedMantissa.shiftRightOne, hround, h.sticky]
    · simp only [ExtendedMantissa.shiftRightOne, hround, Bool.true_or, Bool.toNat_true,
        Nat.cast_one, true_iff]
      positivity

theorem shiftRight (h : Represents em x) (k : ℕ) : Represents (em >>> k) (x / 2 ^ k) := by
  change Represents (k.repeat ExtendedMantissa.shiftRightOne em) _
  induction k with
  | zero => simpa [Nat.repeat] using h
  | succ k ih =>
    rw [pow_succ, ← div_div]
    exact ih.shiftRightOne

theorem roundedMantissa_eq (h : Represents em x) : (em.roundedMantissa : ℤ) = nearestEven x := by
  have htwice := Int.floor_add_fract (2 * x)
  have hx := Int.floor_add_fract x
  have hlt := Int.fract_lt_one (2 * x)
  have hnonneg := Int.fract_nonneg (2 * x)
  have hsticky := h.sticky
  rw [h.bits] at htwice
  rw [h.floor_eq] at hx
  obtain ⟨m, roundBit, stickyBit⟩ := em
  unfold nearestEven
  rw [h.floor_eq]
  cases roundBit <;> push_cast at hx htwice
  · have hdown : Int.fract x < 1 / 2 := by simp at htwice; linarith
    rw [if_pos hdown]
    cases stickyBit <;> rfl
  · have hup : 1 / 2 ≤ Int.fract x := by simp at htwice; linarith
    rw [if_neg hup.not_gt]
    cases stickyBit
    · have htie : Int.fract x = 1 / 2 := by simp at htwice hsticky; linarith
      rw [if_pos htie]
      rfl
    · have habove : Int.fract x ≠ 1 / 2 := by
        simp at htwice hsticky
        intro htie
        apply hsticky
        linarith
      rw [if_neg habove]
      rfl

/-- An extended mantissa from what lies behind its last bit, in units of that bit. -/
lemma of_rest {m : ℕ} {roundBit stickyBit : Bool} (rest : ℚ)
    (heq : 2 * x = 2 * m + roundBit.toNat + rest) (hnonneg : 0 ≤ rest) (hlt : rest < 1)
    (hsticky : stickyBit = true ↔ rest ≠ 0) : Represents ⟨m, roundBit, stickyBit⟩ x := by
  have hfloor : ⌊2 * x⌋ = 2 * m + roundBit.toNat := by
    rw [Int.floor_eq_iff]
    push_cast
    constructor <;> linarith
  refine ⟨hfloor, ?_⟩
  have hfract : Int.fract (2 * x) = rest := by
    rw [Int.fract, hfloor]
    push_cast
    linarith
  rw [hsticky, hfract]

lemma exact (m : ℕ) : Represents (.ofMantissaAndAccuracy m .exact) m :=
  of_rest 0 (by simp) le_rfl one_pos (by simp)

/-- The mantissa of a quotient, with what is left over as a fraction of the divisor. -/
lemma ofFraction (m : ℕ) {num den : ℕ} (h : num < den) :
    Represents (.ofMantissaAndAccuracy m (accuracyOfFraction num den)) (m + num / den) := by
  have hden : (0 : ℚ) < den := by exact_mod_cast (by omega : 0 < den)
  have hlt : (num / den : ℚ) < 1 := by
    rw [div_lt_one hden]
    exact_mod_cast h
  unfold accuracyOfFraction
  split_ifs with hzero
  · subst hzero
    simpa using exact m
  · have hpos : (0 : ℚ) < num / den := div_pos (by exact_mod_cast Nat.pos_of_ne_zero hzero) hden
    rcases lt_trichotomy (2 * num) den with hbelow | htie | habove
    · rw [Nat.compare_eq_lt.mpr hbelow]
      have hbelow' : 2 * (num / den : ℚ) < 1 := by
        rw [mul_div_assoc', div_lt_one hden]
        exact_mod_cast hbelow
      exact of_rest (2 * (num / den)) (by simp; ring) (by positivity) hbelow' (by simp [hpos.ne'])
    · rw [Nat.compare_eq_eq.mpr htie]
      have htie' : 2 * (num / den : ℚ) = 1 := by
        rw [mul_div_assoc', div_eq_one_iff_eq hden.ne']
        exact_mod_cast htie
      exact of_rest 0 (by simp; linarith) le_rfl one_pos (by simp)
    · rw [Nat.compare_eq_gt.mpr habove]
      have habove' : 1 < 2 * (num / den : ℚ) := by
        rw [mul_div_assoc', one_lt_div hden]
        exact_mod_cast habove
      exact of_rest (2 * (num / den) - 1) (by simp; ring) (by linarith) (by linarith)
        (by simp; linarith)

end Represents

/-- A mantissa and an exponent as a double has them: a mantissa of 53 bits, or of fewer at the least
exponent. -/
structure Canonical (m : ℕ) (e : ℤ) : Prop where
  bits : m < 2 ^ 53
  least : -1074 ≤ e
  full : 2 ^ 52 ≤ m ∨ e = -1074

/-- An unpacked float holds a number that is not negative, in canonical form. -/
inductive Holds : UnpackedFloat → ℚ → Prop
  | zero (s : Sign) : Holds (.zero s) 0
  | finite {m : ℕ} {e : ℤ} (hm : 0 < m) (hc : Canonical m e) :
    Holds (.finite .positive m e hm) (m * 2 ^ e)

lemma Holds.nonneg {u : UnpackedFloat} {v : ℚ} (h : Holds u v) : 0 ≤ v := by
  cases h with
  | zero => exact le_rfl
  | finite => positivity

lemma Holds.representable {u : UnpackedFloat} {v : ℚ} (h : Holds u v) : Representable v := by
  cases h with
  | zero => exact representable_zero
  | @finite m e _ hc => exact ⟨m, e, hc.bits.le, hc.least, rfl⟩

section Target

variable {q : ℚ} {m : ℕ} {e : ℤ}

lemma targetExponent_eq (total : ℤ) :
    Format.binary64.targetExponent total = max (total - 53) (-1074) :=
  rfl

/-- The exponent that is aimed at is the last place of the number, if the mantissa is all of the
number but a fraction. -/
lemma targetExponent_eq_lastPlace (hq : 0 < q) (hfloor : ⌊q / 2 ^ e⌋ = m) (hm : m ≠ 0 ∨ e ≤ -1074) :
    Format.binary64.targetExponent (totalExponent m e) = lastPlace q := by
  have hunit := two_zpow_pos e
  have hlow : m * 2 ^ e ≤ q := by
    have := Int.floor_le (q / 2 ^ e)
    rwa [hfloor, Int.cast_natCast, le_div_iff₀ hunit] at this
  have hhigh : q < (m + 1) * 2 ^ e := by
    have := Int.lt_floor_add_one (q / 2 ^ e)
    rwa [hfloor, Int.cast_natCast, div_lt_iff₀ hunit] at this
  rw [targetExponent_eq, totalExponent, eq_comm]
  by_cases hzero : m = 0
  · subst hzero
    have he : e ≤ -1074 := by simpa using hm
    have hlt : q < 2 ^ 53 * 2 ^ (-1074 : ℤ) :=
      calc q < 2 ^ e := by simpa using hhigh
        _ ≤ 2 ^ (-1074 : ℤ) := zpow_le_zpow_right₀ one_le_two he
        _ ≤ 2 ^ 53 * 2 ^ (-1074 : ℤ) := le_mul_of_one_le_left (two_zpow_pos _).le (by norm_num)
    have hplace : lastPlace q = -1074 :=
      le_antisymm (lastPlace_le hq le_rfl hlt) (neg_1074_le_lastPlace q)
    rw [hplace, Nat.log2_zero]
    omega
  · have hlog : Int.log 2 q = m.log2 + e := by
      have hself : (2 : ℚ) ^ m.log2 ≤ m := by exact_mod_cast Nat.log2_self_le hzero
      have hsucc : (m + 1 : ℚ) ≤ 2 ^ (m.log2 + 1) := by exact_mod_cast Nat.lt_log2_self (n := m)
      have hlower : m.log2 + e ≤ Int.log 2 q := by
        rw [← two_zpow_le_iff hq, two_zpow_add, zpow_natCast]
        exact (mul_le_mul_of_nonneg_right hself hunit.le).trans hlow
      have hupper : Int.log 2 q < (m.log2 + 1 : ℕ) + e := by
        rw [← lt_two_zpow_iff hq, two_zpow_add, zpow_natCast]
        exact hhigh.trans_le (mul_le_mul_of_nonneg_right hsucc hunit.le)
      omega
    unfold lastPlace
    omega

/-- A mantissa that rounding has filled is moved by one place, every other one stays. -/
lemma shiftToTargetExponent_of_le (hm : m ≤ 2 ^ 53) (he : -1074 ≤ e) :
    shiftToTargetExponent Format.binary64 m e .exact =
      if m < 2 ^ 53 then (⟨m, false, false⟩, e) else (⟨2 ^ 52, false, false⟩, e + 1) := by
  unfold shiftToTargetExponent
  rw [targetExponent_eq, totalExponent]
  split_ifs with hlt
  · have hlog : m.log2 ≤ 52 := by
      by_cases hzero : m = 0
      · simp [hzero]
      · have := (Nat.log2_lt hzero).mpr hlt
        omega
    have hstay : (max (m.log2 + 1 + e - 53) (-1074) - e).toNat = 0 := by omega
    simp [shiftToExponent, hstay, HShiftRight.hShiftRight, Nat.repeat,
      ExtendedMantissa.ofMantissaAndAccuracy]
  · obtain rfl : m = 2 ^ 53 := by omega
    have hmove : (max ((2 ^ 53 : ℕ).log2 + 1 + e - 53) (-1074) - e).toNat = 1 := by
      rw [Nat.log2_two_pow]
      omega
    simp only [shiftToExponent, hmove]
    rfl

end Target

/-- What rounding selects on the grid is canonical, or it has filled the binade. -/
lemma holds_nearest {q : ℚ} {n : ℕ} (hq : 0 < q) (hn : (n : ℤ) = nearestEven (q / 2 ^ lastPlace q))
    (hpos : 0 < n) :
    if n < 2 ^ 53 then Holds (.finite .positive n (lastPlace q) hpos) (nearest q)
    else Holds (.finite .positive (2 ^ 52) (lastPlace q + 1) (by decide)) (nearest q) := by
  have hvalue : nearest q = n * 2 ^ lastPlace q := by
    rw [nearest, ← hn, Int.cast_natCast]
  have hleast := neg_1074_le_lastPlace q
  have hle := nearestEven_lastPlace_le q
  split_ifs with hlt
  · have hfull : 2 ^ 52 ≤ n ∨ lastPlace q = -1074 := by
      rcases hleast.lt_or_eq with hplace | hplace
      · have hscaled : 2 ^ 52 ≤ q / 2 ^ lastPlace q := by
          rw [le_div_iff₀ (two_zpow_pos _)]
          exact two_zpow_lastPlace_le hq hplace
        have : 2 ^ 52 ≤ nearestEven (q / 2 ^ lastPlace q) := le_nearestEven (by push_cast; linarith)
        exact .inl (by omega)
      · exact .inr hplace.symm
    rw [hvalue]
    exact .finite hpos ⟨hlt, hleast, hfull⟩
  · have hfilled : nearest q = (2 ^ 52 : ℕ) * 2 ^ (lastPlace q + 1) := by
      have : n = 2 ^ 53 := by omega
      rw [hvalue, this, zpow_add_one₀ two_ne_zero]
      push_cast
      ring
    rw [hfilled]
    exact .finite _ ⟨by norm_num, by omega, .inl le_rfl⟩

/-- Rounding an extended mantissa brings the representable number nearest to the number that it
stands for. -/
theorem holds_roundWithAccuracy {q : ℚ} {m : ℕ} {e : ℤ} {acc : Accuracy} (hq : 0 < q)
    (hrep : Represents (.ofMantissaAndAccuracy m acc) (q / 2 ^ e))
    (hm : m ≠ 0 ∨ e ≤ -1074) (he : e ≤ lastPlace q) :
    Holds (roundWithAccuracy Format.binary64 .positive m e acc) (nearest q) := by
  have hmantissa : (ExtendedMantissa.ofMantissaAndAccuracy m acc).mantissa = m := by
    rcases acc with _ | _ | _ | _ <;> rfl
  have htarget := targetExponent_eq_lastPlace hq (by rw [hrep.floor_eq, hmantissa]) hm
  have hplaces : e + (lastPlace q - e).toNat = lastPlace q := by omega
  have hscale : q / 2 ^ e / 2 ^ (lastPlace q - e).toNat = q / 2 ^ lastPlace q := by
    rw [div_div, ← zpow_natCast, ← two_zpow_add, hplaces]
  have hshifted := hrep.shiftRight (lastPlace q - e).toNat
  rw [hscale] at hshifted
  have hfirst : shiftToTargetExponent Format.binary64 m e acc =
      (ExtendedMantissa.ofMantissaAndAccuracy m acc >>> (lastPlace q - e).toNat, lastPlace q) := by
    rw [shiftToTargetExponent, htarget, shiftToExponent, hplaces]
  have hselected := hshifted.roundedMantissa_eq
  have hle := nearestEven_lastPlace_le q
  unfold roundWithAccuracy
  rw [hfirst]
  dsimp only
  generalize (ExtendedMantissa.ofMantissaAndAccuracy m acc >>>
    (lastPlace q - e).toNat).roundedMantissa = n at hselected ⊢
  rw [shiftToTargetExponent_of_le (by omega) (neg_1074_le_lastPlace q)]
  rcases Nat.eq_zero_or_pos n with rfl | hpos
  · have hzero : nearest q = 0 := by
      rw [nearest, ← hselected]
      simp
    rw [hzero]
    exact .zero .positive
  · have hholds := holds_nearest hq hselected hpos
    split_ifs at hholds ⊢ with hlt hzero hzero
    · exact absurd hzero hpos.ne'
    · exact hholds
    · exact absurd hzero (by decide)
    · exact hholds

/-- Rounding a mantissa and an exponent, whichever way it has to be shifted. -/
theorem holds_round {m : ℕ} (hm : 0 < m) (e : ℤ) :
    Holds (UnpackedFloat.round Format.binary64 .positive m e) (nearest (m * 2 ^ e)) := by
  have hpos : (0 : ℚ) < m * 2 ^ e := mul_pos (by exact_mod_cast hm) (two_zpow_pos e)
  have hplace := targetExponent_eq_lastPlace (m := m) (e := e) hpos
    (by rw [mul_div_cancel_right₀ _ (two_zpow_pos e).ne']; exact Int.floor_natCast m) (.inl hm.ne')
  unfold UnpackedFloat.round decreaseExponent
  rw [hplace]
  dsimp only
  set k := (e - lastPlace (m * 2 ^ e)).toNat with hk
  refine holds_roundWithAccuracy hpos ?_ (.inl ?_) (by omega)
  · have hvalue : (m * 2 ^ e : ℚ) / 2 ^ (e - k) = (m <<< k : ℕ) := by
      rw [Nat.shiftLeft_eq, mul_div_assoc, ← zpow_sub₀ two_ne_zero, sub_sub_cancel, zpow_natCast]
      push_cast
      ring
    rw [hvalue]
    exact .exact _
  · rw [Nat.shiftLeft_eq]
    positivity

lemma holds_normalize {m : ℕ} (hm : 0 < m) (e : ℤ) :
    Holds (UnpackedFloat.normalize Format.binary64 m e .positive) (nearest (m * 2 ^ e)) := by
  have hgt : compare (m : ℤ) 0 = .gt := compare_gt_iff_gt.mpr (by omega)
  rw [UnpackedFloat.normalize, hgt]
  exact holds_round hm e

end LoadBinding.Number
