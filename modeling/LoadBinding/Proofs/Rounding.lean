import Mathlib

/-!
# Rounding to the nearest double

Every double that is not negative is the product of an integer of at most 53 bits and a power of
two from `2 ^ -1074` on (`Representable`).  The result of an operation is the representable number
nearest to the exact one, of two equally near the one with the even integer: `nearest q` lays the
grid of the doubles in the binade of `q` over the number line and takes the integer multiple of its
width `2 ^ lastPlace q` that `nearestEven` selects.

Three facts about rounding are used elsewhere: it never crosses a representable number
(`le_nearest`, `nearest_le`), it moves a number by at most half the width of the grid
(`abs_nearest_sub_le`), and the numbers that it takes beyond all doubles are those from `overflow`
on (`nearest_lt_iff`).  Two inequalities between roundings follow: a part of a number stays below
the number (`nearest_mul_lt`), unless that is so small that it has lost bits
(`nearest_greatest_part`), and a quotient by less than one reaches the whole number that is divided
(`natCast_le_nearest_div`).
-/

namespace LoadBinding.Number

/-- The integer nearest to a number, of two equally near the even one. -/
def nearestEven (x : ℚ) : ℤ :=
  if Int.fract x < 1 / 2 then ⌊x⌋
  else if Int.fract x = 1 / 2 then ⌊x⌋ + ⌊x⌋ % 2
  else ⌊x⌋ + 1

section NearestEven

variable {x : ℚ} {n : ℤ}

lemma floor_le_nearestEven (x : ℚ) : ⌊x⌋ ≤ nearestEven x := by
  unfold nearestEven
  split_ifs <;> omega

lemma nearestEven_le_floor_add_one (x : ℚ) : nearestEven x ≤ ⌊x⌋ + 1 := by
  unfold nearestEven
  split_ifs <;> omega

/-- Less than half a unit above a whole number, nothing is rounded beyond it. -/
lemma nearestEven_le (h : x < n + 1 / 2) : nearestEven x ≤ n := by
  have hfloor : ⌊x⌋ < n + 1 := Int.floor_lt.mpr (by push_cast; linarith)
  rcases (by omega : ⌊x⌋ < n ∨ ⌊x⌋ = n) with hlt | heq
  · have := nearestEven_le_floor_add_one x
    omega
  · have hfract : Int.fract x < 1 / 2 := by
      rw [Int.fract, heq]
      linarith
    rw [nearestEven, if_pos hfract, heq]

lemma le_nearestEven (h : n - 1 / 2 < x) : n ≤ nearestEven x := by
  have hfloor : n - 1 ≤ ⌊x⌋ := Int.le_floor.mpr (by push_cast; linarith)
  rcases (by omega : n ≤ ⌊x⌋ ∨ ⌊x⌋ = n - 1) with hle | heq
  · exact hle.trans (floor_le_nearestEven x)
  · have hfract : 1 / 2 < Int.fract x := by
      rw [Int.fract, heq]
      push_cast
      linarith
    rw [nearestEven, if_neg hfract.not_gt, if_neg hfract.ne', heq]
    omega

/-- Halfway between two integers the even one wins. -/
lemma le_nearestEven_of_even (hn : n % 2 = 0) (h : n - 1 / 2 ≤ x) : n ≤ nearestEven x := by
  rcases h.lt_or_eq with hlt | heq
  · exact le_nearestEven hlt
  · have hfloor : ⌊x⌋ = n - 1 := by
      rw [Int.floor_eq_iff]
      push_cast
      constructor <;> linarith
    have hfract : Int.fract x = 1 / 2 := by
      rw [Int.fract, hfloor]
      push_cast
      linarith
    rw [nearestEven, if_neg hfract.not_lt, if_pos hfract, hfloor]
    omega

/-- The nearest whole number is half a unit away at most. -/
lemma abs_nearestEven_sub_le (x : ℚ) : |(nearestEven x : ℚ) - x| ≤ 1 / 2 := by
  have hfract := Int.floor_add_fract x
  have hnonneg := Int.fract_nonneg x
  have hlt := Int.fract_lt_one x
  rw [abs_le]
  unfold nearestEven
  split_ifs with hdown htie
  · constructor <;> linarith
  · have hmod : (⌊x⌋ % 2 : ℤ) = 0 ∨ (⌊x⌋ % 2 : ℤ) = 1 := by omega
    rcases hmod with hmod | hmod <;> rw [hmod] <;> push_cast <;> constructor <;> linarith
  · have hup : 1 / 2 < Int.fract x := lt_of_le_of_ne (not_lt.mp hdown) (Ne.symm htie)
    push_cast
    constructor <;> linarith

end NearestEven

/-- The numbers that a double holds, if its exponent may be as large as it has to. -/
def Representable (v : ℚ) : Prop :=
  ∃ (m : ℕ) (e : ℤ), m ≤ 2 ^ 53 ∧ -1074 ≤ e ∧ v = m * 2 ^ e

/-- The exponent of the last binary place of a double near `q`. -/
def lastPlace (q : ℚ) : ℤ :=
  max (Int.log 2 q - 52) (-1074)

/-- The representable number nearest to `q`. -/
def nearest (q : ℚ) : ℚ :=
  nearestEven (q / 2 ^ lastPlace q) * 2 ^ lastPlace q

/-- The least number that is rounded beyond all doubles: halfway between the greatest one and the
power of two behind it. -/
def overflow : ℚ :=
  (2 ^ 53 - 1 / 2) * 2 ^ (971 : ℤ)

lemma two_zpow_pos (e : ℤ) : (0 : ℚ) < 2 ^ e :=
  zpow_pos two_pos e

lemma two_zpow_add (e₁ e₂ : ℤ) : (2 : ℚ) ^ (e₁ + e₂) = 2 ^ e₁ * 2 ^ e₂ :=
  zpow_add₀ two_ne_zero e₁ e₂

/-- A shift of the exponent by a natural number is a factor of the integer. -/
lemma two_zpow_eq_mul {e ℓ : ℤ} (h : ℓ ≤ e) :
    (2 : ℚ) ^ e = ((2 ^ (e - ℓ).toNat : ℕ) : ℚ) * 2 ^ ℓ := by
  have hk : ((e - ℓ).toNat : ℤ) = e - ℓ := Int.toNat_of_nonneg (by omega)
  rw [Nat.cast_pow, Nat.cast_ofNat, ← zpow_natCast, hk, ← two_zpow_add]
  congr 1
  omega

section LastPlace

variable {q v : ℚ} {e : ℤ}

lemma two_zpow_le_iff (hq : 0 < q) : 2 ^ e ≤ q ↔ e ≤ Int.log 2 q := by
  rw [← Int.zpow_le_iff_le_log one_lt_two hq, Nat.cast_ofNat]

lemma lt_two_zpow_iff (hq : 0 < q) : q < 2 ^ e ↔ Int.log 2 q < e := by
  rw [← Int.lt_zpow_iff_log_lt one_lt_two hq, Nat.cast_ofNat]

lemma neg_1074_le_lastPlace (q : ℚ) : -1074 ≤ lastPlace q :=
  le_max_right _ _

/-- The grid is fine enough for 53 bits. -/
lemma lt_two_zpow_lastPlace (q : ℚ) : q < 2 ^ 53 * 2 ^ lastPlace q := by
  rcases le_or_gt q 0 with hq | hq
  · exact hq.trans_lt (mul_pos (by norm_num) (two_zpow_pos _))
  · have hplace : Int.log 2 q < 53 + lastPlace q := by
      unfold lastPlace
      omega
    have hlt := (lt_two_zpow_iff hq).mpr hplace
    rw [two_zpow_add] at hlt
    exact_mod_cast hlt

/-- Above the least exponent the grid is as coarse as 53 bits allow. -/
lemma two_zpow_lastPlace_le (hq : 0 < q) (hplace : -1074 < lastPlace q) :
    2 ^ 52 * 2 ^ lastPlace q ≤ q := by
  have hlog : 52 + lastPlace q ≤ Int.log 2 q := by
    unfold lastPlace at hplace ⊢
    omega
  have hle := (two_zpow_le_iff hq).mpr hlog
  rw [two_zpow_add] at hle
  exact_mod_cast hle

lemma le_lastPlace (hq : 0 < q) (h : 2 ^ 52 * 2 ^ e ≤ q ∨ e ≤ -1074) : e ≤ lastPlace q := by
  rcases h with h | h
  · have hlog : 52 + e ≤ Int.log 2 q := by
      rw [← two_zpow_le_iff hq, two_zpow_add]
      exact_mod_cast h
    unfold lastPlace
    omega
  · exact h.trans (neg_1074_le_lastPlace q)

lemma lastPlace_le (hq : 0 < q) (he : -1074 ≤ e) (h : q < 2 ^ 53 * 2 ^ e) : lastPlace q ≤ e := by
  have hlog : Int.log 2 q < 53 + e := by
    rw [← lt_two_zpow_iff hq, two_zpow_add]
    exact_mod_cast h
  unfold lastPlace
  omega

/-- The place of a number follows from the binade that it lies in. -/
lemma lastPlace_eq (he : -1074 ≤ e) (hlow : 2 ^ 52 * 2 ^ e ≤ q) (hhigh : q < 2 ^ 53 * 2 ^ e) :
    lastPlace q = e := by
  have hq : 0 < q := hlow.trans_lt' (mul_pos (by norm_num) (two_zpow_pos e))
  exact le_antisymm (lastPlace_le hq he hhigh) (le_lastPlace hq (.inl hlow))

/-- A representable number is a multiple of the width of the grid around `q`, or it lies below the
binade of `q`. -/
lemma Representable.cases (hv : Representable v) (q : ℚ) :
    (∃ n : ℕ, v = n * 2 ^ lastPlace q) ∨
      (-1074 < lastPlace q ∧ v ≤ 2 ^ 52 * 2 ^ lastPlace q) := by
  obtain ⟨m, e, hm, he, rfl⟩ := hv
  rcases le_or_gt (lastPlace q) e with hle | hlt
  · refine .inl ⟨m * 2 ^ (e - lastPlace q).toNat, ?_⟩
    rw [two_zpow_eq_mul hle, Nat.cast_mul, mul_assoc]
  · refine .inr ⟨by omega, ?_⟩
    have hm' : (m : ℚ) ≤ 2 ^ 53 := by exact_mod_cast hm
    calc (m : ℚ) * 2 ^ e ≤ 2 ^ 53 * 2 ^ (lastPlace q - 1) :=
          mul_le_mul hm' (zpow_le_zpow_right₀ one_le_two (by omega)) (two_zpow_pos e).le
            (by norm_num)
      _ = 2 ^ 52 * 2 ^ lastPlace q := by
          rw [zpow_sub_one₀ two_ne_zero]
          ring

end LastPlace

section Nearest

variable {q v : ℚ} {n : ℕ}

/-- What reaches a multiple of its last place is not rounded below it. -/
lemma natCast_mul_le_nearest (h : n * 2 ^ lastPlace q ≤ q) : n * 2 ^ lastPlace q ≤ nearest q := by
  have hwidth := two_zpow_pos (lastPlace q)
  have hscaled : ((n : ℤ) : ℚ) ≤ q / 2 ^ lastPlace q := by
    rw [le_div_iff₀ hwidth]
    exact_mod_cast h
  have hle : (n : ℤ) ≤ nearestEven (q / 2 ^ lastPlace q) := le_nearestEven (by linarith)
  have hle' : (n : ℚ) ≤ nearestEven (q / 2 ^ lastPlace q) := by exact_mod_cast hle
  exact mul_le_mul_of_nonneg_right hle' hwidth.le

lemma nearest_le_natCast_mul (h : q ≤ n * 2 ^ lastPlace q) : nearest q ≤ n * 2 ^ lastPlace q := by
  have hwidth := two_zpow_pos (lastPlace q)
  have hscaled : q / 2 ^ lastPlace q ≤ ((n : ℤ) : ℚ) := by
    rw [div_le_iff₀ hwidth]
    exact_mod_cast h
  have hle : nearestEven (q / 2 ^ lastPlace q) ≤ (n : ℤ) := nearestEven_le (by linarith)
  have hle' : (nearestEven (q / 2 ^ lastPlace q) : ℚ) ≤ n := by exact_mod_cast hle
  exact mul_le_mul_of_nonneg_right hle' hwidth.le

lemma nearest_zero : nearest 0 = 0 := by
  have hzero : nearestEven 0 = 0 := by
    rw [nearestEven, Int.fract_zero, if_pos (by norm_num), Int.floor_zero]
  rw [nearest, zero_div, hzero, Int.cast_zero, zero_mul]

/-- What is not below a representable number is not rounded below it. -/
theorem le_nearest (hq : 0 ≤ q) (hv : Representable v) (h : v ≤ q) : v ≤ nearest q := by
  rcases hq.eq_or_lt with rfl | hpos
  · rwa [nearest_zero]
  rcases hv.cases q with ⟨n, rfl⟩ | ⟨hplace, hle⟩
  · exact natCast_mul_le_nearest h
  · have hbinade := two_zpow_lastPlace_le hpos hplace
    refine hle.trans ?_
    exact_mod_cast natCast_mul_le_nearest (n := 2 ^ 52) (by exact_mod_cast hbinade)

/-- What is not above a representable number is not rounded above it. -/
theorem nearest_le (hq : 0 ≤ q) (hv : Representable v) (h : q ≤ v) : nearest q ≤ v := by
  rcases hq.eq_or_lt with rfl | hpos
  · rwa [nearest_zero]
  rcases hv.cases q with ⟨n, rfl⟩ | ⟨hplace, hle⟩
  · exact nearest_le_natCast_mul h
  · -- `q` is itself the power of two at which its binade begins.
    have hbinade := two_zpow_lastPlace_le hpos hplace
    refine le_trans ?_ (hbinade.trans h)
    exact_mod_cast nearest_le_natCast_mul (n := 2 ^ 52) (by exact_mod_cast h.trans hle)

/-- A representable number stays as it is. -/
lemma nearest_eq_self (hq : 0 ≤ q) (h : Representable q) : nearest q = q :=
  le_antisymm (nearest_le hq h le_rfl) (le_nearest hq h le_rfl)

/-- A natural number of at most 53 bits is representable. -/
lemma representable_natCast (h : n ≤ 2 ^ 53) : Representable n :=
  ⟨n, 0, h, by norm_num, by simp⟩

lemma representable_zero : Representable 0 := by
  exact_mod_cast representable_natCast (Nat.zero_le _)

lemma representable_one : Representable 1 := by
  exact_mod_cast representable_natCast Nat.one_le_two_pow

lemma representable_two_zpow {e : ℤ} (h : -1074 ≤ e) : Representable (2 ^ e) :=
  ⟨1, e, by norm_num, h, by simp⟩

lemma nearest_nonneg (hq : 0 ≤ q) : 0 ≤ nearest q :=
  le_nearest hq representable_zero hq

/-- The integer that is selected on the grid, which may have become a 54th bit. -/
lemma nearestEven_lastPlace_le (q : ℚ) : nearestEven (q / 2 ^ lastPlace q) ≤ 2 ^ 53 := by
  have hwidth := two_zpow_pos (lastPlace q)
  have hle : q / 2 ^ lastPlace q ≤ 2 ^ 53 := by
    rw [div_le_iff₀ hwidth]
    exact (lt_two_zpow_lastPlace q).le
  refine nearestEven_le ?_
  push_cast
  linarith

lemma nearestEven_lastPlace_nonneg (hq : 0 ≤ q) : 0 ≤ nearestEven (q / 2 ^ lastPlace q) := by
  have hquot : 0 ≤ q / 2 ^ lastPlace q := div_nonneg hq (two_zpow_pos _).le
  refine le_nearestEven ?_
  push_cast
  linarith

/-- What a number is rounded to is representable. -/
lemma representable_nearest (hq : 0 ≤ q) : Representable (nearest q) := by
  obtain ⟨n, hn⟩ := Int.eq_ofNat_of_zero_le (nearestEven_lastPlace_nonneg hq)
  have hle := nearestEven_lastPlace_le q
  refine ⟨n, lastPlace q, by omega, neg_1074_le_lastPlace q, ?_⟩
  rw [nearest, hn]
  simp

/-- Rounding is off by half of the last place at most. -/
theorem abs_nearest_sub_le (q : ℚ) : |nearest q - q| ≤ 2 ^ lastPlace q / 2 := by
  have hwidth := two_zpow_pos (lastPlace q)
  have hscaled := abs_nearestEven_sub_le (q / 2 ^ lastPlace q)
  have heq : nearest q - q =
      (nearestEven (q / 2 ^ lastPlace q) - q / 2 ^ lastPlace q) * 2 ^ lastPlace q := by
    rw [nearest, sub_mul, div_mul_cancel₀ _ hwidth.ne']
  calc |nearest q - q|
      = |(nearestEven (q / 2 ^ lastPlace q) : ℚ) - q / 2 ^ lastPlace q| * 2 ^ lastPlace q := by
        rw [heq, abs_mul, abs_of_pos hwidth]
    _ ≤ 1 / 2 * 2 ^ lastPlace q := mul_le_mul_of_nonneg_right hscaled hwidth.le
    _ = 2 ^ lastPlace q / 2 := by ring

/-- A number is rounded out of its binade from half a width below the end on. -/
lemma nearest_lt_binade_iff (q : ℚ) :
    nearest q < 2 ^ 53 * 2 ^ lastPlace q ↔ q < (2 ^ 53 - 1 / 2) * 2 ^ lastPlace q := by
  have hwidth := two_zpow_pos (lastPlace q)
  have hcarry : nearest q < 2 ^ 53 * 2 ^ lastPlace q ↔
      nearestEven (q / 2 ^ lastPlace q) < 2 ^ 53 := by
    rw [nearest, mul_lt_mul_iff_left₀ hwidth]
    exact_mod_cast Iff.rfl
  rw [hcarry, ← div_lt_iff₀ hwidth]
  constructor
  · intro h
    by_contra hle
    have : 2 ^ 53 ≤ nearestEven (q / 2 ^ lastPlace q) :=
      le_nearestEven_of_even (by norm_num) (by push_cast; linarith)
    omega
  · intro h
    have : nearestEven (q / 2 ^ lastPlace q) ≤ 2 ^ 53 - 1 :=
      nearestEven_le (by push_cast; linarith)
    omega

lemma two_zpow_1024 : (2 : ℚ) ^ (1024 : ℤ) = 2 ^ 53 * 2 ^ (971 : ℤ) := by
  rw [show (1024 : ℤ) = 53 + 971 by rfl, two_zpow_add, zpow_ofNat 2 53]

lemma overflow_pos : 0 < overflow :=
  mul_pos (by norm_num) (two_zpow_pos 971)

lemma overflow_lt : overflow < 2 ^ (1024 : ℤ) := by
  rw [two_zpow_1024]
  exact mul_lt_mul_of_pos_right (by norm_num) (two_zpow_pos 971)

lemma two_lt_two_zpow_971 : (2 : ℚ) < 2 ^ (971 : ℤ) :=
  calc (2 : ℚ) = 2 ^ (1 : ℤ) := (zpow_one 2).symm
    _ < 2 ^ (971 : ℤ) := zpow_lt_zpow_right₀ one_lt_two (by norm_num)

/-- The numbers that stay below the power of two behind all doubles. -/
theorem nearest_lt_iff (hq : 0 ≤ q) : nearest q < 2 ^ (1024 : ℤ) ↔ q < overflow := by
  have hstart : Representable (2 ^ 52 * 2 ^ (971 : ℤ)) :=
    ⟨2 ^ 52, 971, by norm_num, by norm_num, by norm_num⟩
  have htop : Representable (2 ^ (1024 : ℤ)) := representable_two_zpow (by norm_num)
  have hbelow : (2 ^ 52 : ℚ) * 2 ^ (971 : ℤ) < overflow :=
    mul_lt_mul_of_pos_right (by norm_num) (two_zpow_pos 971)
  rcases le_or_gt q (2 ^ 52 * 2 ^ (971 : ℤ)) with hle | hlow
  · have hrounded := (nearest_le hq hstart hle).trans_lt (hbelow.trans overflow_lt)
    exact iff_of_true hrounded (hle.trans_lt hbelow)
  rcases le_or_gt (2 ^ (1024 : ℤ)) q with hge | hlt
  · exact iff_of_false (le_nearest hq htop hge).not_gt (overflow_lt.trans_le hge).not_gt
  · rw [two_zpow_1024] at hlt
    have hplace : lastPlace q = 971 := lastPlace_eq (by norm_num) hlow.le hlt
    have hbinade := nearest_lt_binade_iff q
    rwa [hplace, ← two_zpow_1024] at hbinade

end Nearest

/-! ## Neighbours -/

section Neighbours

variable {q v : ℚ}

/-- The greatest representable number below the end of a binade. -/
lemma Representable.le_pred {e : ℤ} (hv : Representable v) (he : -1074 ≤ e)
    (h : v < 2 ^ 53 * 2 ^ e) : v ≤ (2 ^ 53 - 1) * 2 ^ e := by
  have hwidth := two_zpow_pos e
  have hplace : lastPlace (2 ^ 52 * 2 ^ e) = e :=
    lastPlace_eq he le_rfl (mul_lt_mul_of_pos_right (by norm_num) hwidth)
  rcases hv.cases (2 ^ 52 * 2 ^ e) with ⟨n, rfl⟩ | ⟨-, hle⟩
  · rw [hplace] at h ⊢
    have hn : (n : ℚ) < 2 ^ 53 := lt_of_mul_lt_mul_right h hwidth.le
    have hn' : n + 1 ≤ 2 ^ 53 := by exact_mod_cast hn
    have hn'' : (n : ℚ) + 1 ≤ 2 ^ 53 := by exact_mod_cast hn'
    exact mul_le_mul_of_nonneg_right (by linarith) hwidth.le
  · rw [hplace] at hle
    exact hle.trans (mul_le_mul_of_nonneg_right (by norm_num) hwidth.le)

/-- Between the largest representable number below one and one there is none. -/
lemma Representable.le_of_lt_one (hv : Representable v) (h : v < 1) : v ≤ 1 - 1 / 2 ^ 53 := by
  have hend : (2 : ℚ) ^ 53 * 2 ^ (-53 : ℤ) = 1 := by norm_num
  have hbelow : v < 2 ^ 53 * 2 ^ (-53 : ℤ) := by rwa [hend]
  have hle := hv.le_pred (by norm_num) hbelow
  rw [sub_mul, hend] at hle
  norm_num at hle ⊢
  exact hle

/-- The finite doubles are so coarse at their end that adding one does not lead beyond it. -/
lemma Representable.add_lt_overflow {c : ℚ} (hv : Representable v) (h : v < 2 ^ (1024 : ℤ))
    (hc : c ≤ 1) : v + c < overflow := by
  rw [two_zpow_1024] at h
  have hle := hv.le_pred (by norm_num) h
  have hgap : ∀ width : ℚ, 2 < width →
      (2 ^ 53 - 1) * width + 1 < (2 ^ 53 - 1 / 2) * width := by
    intro width hwidth
    linarith
  calc v + c ≤ (2 ^ 53 - 1) * 2 ^ (971 : ℤ) + 1 := add_le_add hle hc
    _ < overflow := hgap _ two_lt_two_zpow_971

/-- The least number with a mantissa of 53 bits. -/
lemma two_zpow_neg_1022 : (2 : ℚ) ^ (-1022 : ℤ) = 2 ^ 52 * 2 ^ (-1074 : ℤ) := by
  rw [show (-1022 : ℤ) = 52 + -1074 by rfl, two_zpow_add, zpow_ofNat 2 52]

/-- A part of a number above `2 ^ -1022` stays below the number when it is rounded. -/
theorem nearest_mul_lt {t : ℚ} (hv : Representable v) (hv₀ : 0 ≤ v) (hv₁ : v < 1)
    (ht : 2 ^ (-1022 : ℤ) < t) : nearest (v * t) < t := by
  have hle := hv.le_of_lt_one hv₁
  have htpos : 0 < t := (two_zpow_pos _).trans ht
  have herror := (abs_le.mp (abs_nearest_sub_le (v * t))).2
  have hprod : v * t ≤ (1 - 1 / 2 ^ 53) * t := mul_le_mul_of_nonneg_right hle htpos.le
  rcases (neg_1074_le_lastPlace (v * t)).lt_or_eq with hplace | hplace
  · rcases (mul_nonneg hv₀ htpos.le).eq_or_lt with hzero | hpos
    · rw [← hzero, nearest_zero]
      exact htpos
    · have hwidth := two_zpow_lastPlace_le hpos hplace
      generalize (2 : ℚ) ^ lastPlace (v * t) = width at *
      norm_num at *
      linarith
  · rw [← hplace] at herror
    rw [two_zpow_neg_1022] at ht
    generalize (2 : ℚ) ^ (-1074 : ℤ) = width at *
    norm_num at *
    linarith

/-- Up to there the greatest part of a number is rounded to the number itself. -/
theorem nearest_greatest_part {t : ℚ} (ht : Representable t) (ht₀ : 0 ≤ t)
    (hle : t ≤ 2 ^ (-1022 : ℤ)) : nearest ((1 - 1 / 2 ^ 53) * t) = t := by
  rcases ht₀.eq_or_lt with rfl | hpos
  · rw [mul_zero, nearest_zero]
  have hwidth := two_zpow_pos (-1074)
  rw [two_zpow_neg_1022] at hle
  -- Both numbers lie where the grid is as fine as it gets.
  have hplace : ∀ q : ℚ, 0 < q → q ≤ t → lastPlace q = -1074 := by
    intro q hq hqt
    refine le_antisymm (lastPlace_le hq le_rfl ?_) (neg_1074_le_lastPlace q)
    calc q ≤ 2 ^ 52 * 2 ^ (-1074 : ℤ) := hqt.trans hle
      _ < 2 ^ 53 * 2 ^ (-1074 : ℤ) := mul_lt_mul_of_pos_right (by norm_num) hwidth
  have hpart : lastPlace ((1 - 1 / 2 ^ 53) * t) = -1074 := by
    apply hplace
    · exact mul_pos (by norm_num) hpos
    · exact mul_le_of_le_one_left ht₀ (by norm_num)
  rcases ht.cases t with ⟨n, hn⟩ | ⟨hcoarse, -⟩
  · rw [hplace t hpos le_rfl] at hn
    have hn' : (n : ℚ) ≤ 2 ^ 52 := by
      rw [hn] at hle
      exact le_of_mul_le_mul_right hle hwidth
    have hscaled : (1 - 1 / 2 ^ 53) * t / 2 ^ (-1074 : ℤ) = n - n / 2 ^ 53 := by
      rw [hn, ← mul_assoc, mul_div_cancel_right₀ _ hwidth.ne']
      ring
    have hround : nearestEven ((n : ℚ) - n / 2 ^ 53) = n := by
      apply le_antisymm
      · apply nearestEven_le
        have : (0 : ℚ) ≤ n := n.cast_nonneg
        push_cast
        linarith
      · rcases hn'.eq_or_lt with heq | hlt
        · -- Halfway between two integers the even one wins.
          have heven : (n : ℤ) % 2 = 0 := by
            have : n = 2 ^ 52 := by exact_mod_cast heq
            omega
          apply le_nearestEven_of_even heven
          push_cast
          linarith
        · apply le_nearestEven
          push_cast
          linarith
    rw [nearest, hpart, hscaled, hround, Int.cast_natCast, ← hn]
  · rw [hplace t hpos le_rfl] at hcoarse
    exact absurd hcoarse (lt_irrefl _)

/-- A number from one on is moved by less than its 2 ^ 53rd part. -/
lemma sub_nearest_lt (hq : 1 ≤ q) : q - nearest q < q / 2 ^ 53 := by
  have hpos : 0 < q := by linarith
  have hplace : -52 ≤ lastPlace q := le_lastPlace hpos (.inl (by norm_num; exact hq))
  have herror := (abs_le.mp (abs_nearest_sub_le q)).1
  rcases (two_zpow_lastPlace_le hpos (by omega)).eq_or_lt with heq | hlt
  · -- The beginning of a binade is not moved.
    have hrep : Representable q :=
      ⟨2 ^ 52, lastPlace q, by norm_num, by omega, by rw [Nat.cast_pow, Nat.cast_ofNat, heq]⟩
    rw [nearest_eq_self hpos.le hrep, sub_self]
    positivity
  · generalize (2 : ℚ) ^ lastPlace q = width at *
    norm_num at *
    linarith

/-- A quotient by less than one reaches the whole number that its numerator was rounded from, even
if the numerator has been rounded down. -/
theorem natCast_le_nearest_div {n : ℕ} (hv : Representable v) (hv₀ : 0 < v) (hv₁ : v < 1) :
    (n : ℚ) ≤ nearest (nearest n / v) := by
  rcases Nat.eq_zero_or_pos n with rfl | hn
  · rw [Nat.cast_zero, nearest_zero, zero_div, nearest_zero]
  have hone : (1 : ℚ) ≤ nearest n :=
    le_nearest n.cast_nonneg representable_one (by exact_mod_cast hn)
  obtain ⟨quotient, hquotient⟩ : ∃ quotient, quotient = nearest n / v := ⟨_, rfl⟩
  have hmul : quotient * v = nearest n := by
    rw [hquotient, div_mul_cancel₀ _ hv₀.ne']
  have hlt : nearest n < quotient := by
    rw [hquotient, lt_div_iff₀ hv₀]
    exact mul_lt_of_lt_one_right (by linarith) hv₁
  have hpos : 0 < quotient := by linarith
  rw [← hquotient]
  by_contra hbelow
  rw [not_le] at hbelow
  -- A result below `n` would be the numerator, as no double lies between the two.
  have hresult : nearest quotient = nearest n :=
    le_antisymm (le_nearest n.cast_nonneg (representable_nearest hpos.le) hbelow.le)
      (le_nearest hpos.le (representable_nearest n.cast_nonneg) hlt.le)
  have herror : quotient - nearest n < quotient / 2 ^ 53 := by
    rw [← hresult]
    exact sub_nearest_lt (by linarith)
  have hle : quotient * v ≤ quotient * (1 - 1 / 2 ^ 53) :=
    mul_le_mul_of_nonneg_left (hv.le_of_lt_one hv₁) hpos.le
  rw [hmul] at hle
  linarith

end Neighbours

end LoadBinding.Number
