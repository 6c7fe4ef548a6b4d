import LoadBinding.Payload.Prepare
import LoadBinding.Proofs.Drawing
import LoadBinding.Proofs.Resolution

/-!
# Compressing payloads

Settings accept any double above zero as the ratio by which payloads are compressed, the infinite
one included.  The number of bytes to keep is computed in doubles.  It comes out as a number unless
the quotient of the length and the ratio lies beyond all of them (`Payload.Overflows`).

So accepted settings prepare every payload with a ratio that is not as small as that, and a ratio
below one leaves the payload as it is.  A smaller one passes the check of the settings, but then no
payload is prepared (`Settings.prepare_of_accepted`): for a payload of a single byte `1e-320` is
such a ratio.
-/

namespace LoadBinding

open LoadBinding.Number LoadBinding.Text

namespace Number

/-- The integer below a decoded number. -/
lemma floorScaled_eq (negative : Bool) (m : ℕ) (e : ℤ) :
    floorScaled negative m e = ⌊(if negative then -(m * 2 ^ e) else m * 2 ^ e : ℚ)⌋ := by
  have hsigned : (if negative then -(m * 2 ^ e) else m * 2 ^ e : ℚ) =
      ((if negative then -m else m : ℤ) : ℚ) * 2 ^ e := by
    split_ifs <;> push_cast <;> ring
  rw [hsigned]
  unfold floorScaled
  dsimp only [Nat.pow_eq]
  generalize (if negative then -m else m : ℤ) = n
  split_ifs with he
  · have hinteger : (n : ℚ) * 2 ^ e = ((n * (2 ^ e.toNat : ℕ) : ℤ) : ℚ) := by
      rw [two_zpow_eq_mul he]
      push_cast
      simp
    rw [hinteger, Int.floor_intCast]
  · have hquotient : (n : ℚ) * 2 ^ e = n / (2 ^ (-e).toNat : ℕ) := by
      rw [Nat.cast_pow, Nat.cast_ofNat, ← zpow_natCast, Int.toNat_of_nonneg (by omega), zpow_neg,
        div_inv_eq_mul]
    rw [hquotient, Rat.floor_intCast_div_natCast, Int.fdiv_eq_ediv_of_nonneg _ (by positivity)]

end Number

namespace Payload

variable {length : ℕ} {ratio : Float} {v w : ℚ}

/-- The quotient of a length and a ratio lies beyond all doubles. -/
def Overflows (length : ℕ) (ratio : Float) : Prop :=
  ∃ v, value? ratio = some v ∧ overflow * v ≤ nearest length

/-- Only ratios next to nothing make a length overflow that a payload can have. -/
lemma not_overflows (hlength : length ≤ 2 ^ 53) (hv : value? ratio = some v)
    (h : 2 ^ (-900 : ℤ) ≤ v) : ¬ Overflows length ratio := by
  rintro ⟨w, hw, hle⟩
  obtain rfl : v = w := by rwa [hv, Option.some_inj] at hw
  rw [nearest_eq_self length.cast_nonneg (representable_natCast hlength)] at hle
  have hlength' : (length : ℚ) ≤ 2 ^ 53 := by exact_mod_cast hlength
  have hproduct : (2 ^ 53 - 1 / 2 : ℚ) * 2 ^ (71 : ℤ) ≤ overflow * v :=
    calc (2 ^ 53 - 1 / 2 : ℚ) * 2 ^ (71 : ℤ) = overflow * 2 ^ (-900 : ℤ) := by
          rw [overflow, mul_assoc, ← two_zpow_add]
          norm_num
      _ ≤ overflow * v := mul_le_mul_of_nonneg_left h overflow_pos.le
  have hgap : (2 ^ 53 : ℚ) < (2 ^ 53 - 1 / 2) * 2 ^ (71 : ℤ) := by norm_num
  exact (hle.trans hlength').not_gt (hgap.trans_le hproduct)

/-! ## The bytes to keep -/

lemma not_beq_zero (h : 0.0 < ratio) : (ratio == 0.0) = false := by
  rw [Bool.eq_false_iff, Ne, beq_iff_compare, unpack_zero]
  rcases pos_cases h with hinfinite | ⟨v, hv, hpos⟩
  · rw [unpack_of_infinite hinfinite]
    simp [Float.Model.UnpackedFloat.compare]
  · rw [compare_of_holds (holds_unpack hv hpos.le) (.zero .positive), compare_gt_iff_gt.mpr hpos]
    simp

lemma keepCount_of_value (hratio : 0.0 < ratio) (h : value? (ofInt length / ratio + 0.5) = some w) :
    keepCount length ratio = .ok ⌊w⌋ := by
  unfold value? at h
  unfold keepCount
  rw [not_beq_zero hratio, if_neg Bool.false_ne_true]
  cases hdecode : decode (ofInt length / ratio + 0.5) with
  | nan => simp [hdecode, Decoded.value?] at h
  | infinite => simp [hdecode, Decoded.value?] at h
  | finite negative m e =>
    rw [hdecode, Decoded.value?, Option.some_inj] at h
    rw [← h, ← floorScaled_eq]

lemma keepCount_of_infinite (hratio : 0.0 < ratio)
    (h : decode (ofInt length / ratio + 0.5) = .infinite false) :
    keepCount length ratio = .error .keepInfinite := by
  unfold keepCount
  rw [not_beq_zero hratio, if_neg Bool.false_ne_true, h]

lemma value?_half : value? 0.5 = some (1 / 2) := by
  have hdecode : decode 0.5 = .finite false (2 ^ 52) (-53) := by decide +kernel
  rw [value?, hdecode, Decoded.value?]
  norm_num

/-- A quotient that is a number is rounded to an integer that is not below its own floor. -/
lemma keepCount_of_quotient {q : ℚ} (hratio : 0.0 < ratio)
    (h : value? (ofInt length / ratio) = some q) (hq : 0 ≤ q) :
    keepCount length ratio = .ok ⌊nearest (q + 1 / 2)⌋ ∧ q ≤ nearest (q + 1 / 2) := by
  have hrep := representable_of_value h hq
  have hfits : q + 1 / 2 < overflow := hrep.add_lt_overflow (value_lt h) (by norm_num)
  have hsum := (roundsTo_add h hq value?_half (by norm_num)).value? hfits
  exact ⟨keepCount_of_value hratio hsum, le_nearest (by linarith) hrep (by linarith)⟩

/-- What overflows nothing is divided into a number. -/
lemma quotient_of_not_overflows (hv : value? ratio = some v) (hpos : 0 < v)
    (hlength : (length : ℚ) < overflow) (h : ¬ Overflows length ratio) :
    value? (ofInt length / ratio) = some (nearest (nearest length / v)) := by
  have hnumerator := (roundsTo_ofInt length).value? hlength
  have hfits : nearest length / v < overflow := by
    rw [div_lt_iff₀ hpos, ← not_le]
    exact fun hle => h ⟨v, hv, hle⟩
  exact (roundsTo_div hnumerator (nearest_nonneg length.cast_nonneg) hv hpos).value? hfits

/-- The number of bytes to keep is an integer that is not negative. -/
lemma keepCount_of_not_overflows (hratio : 0.0 < ratio) (hlength : (length : ℚ) < overflow)
    (h : ¬ Overflows length ratio) : ∃ keep, keepCount length ratio = .ok keep ∧ 0 ≤ keep := by
  have hnumerator := (roundsTo_ofInt length).value? hlength
  have hnonneg := nearest_nonneg (q := (length : ℚ)) length.cast_nonneg
  obtain ⟨q, hquotient, hq⟩ : ∃ q, value? (ofInt length / ratio) = some q ∧ 0 ≤ q := by
    rcases pos_cases hratio with hinfinite | ⟨v, hv, hpos⟩
    · exact ⟨0, value?_div_infinite hnumerator hnonneg hinfinite, le_rfl⟩
    · exact ⟨_, quotient_of_not_overflows hv hpos hlength h,
        nearest_nonneg (div_nonneg hnonneg hpos.le)⟩
  obtain ⟨hkeep, hle⟩ := keepCount_of_quotient hratio hquotient hq
  exact ⟨_, hkeep, Int.floor_nonneg.mpr (hq.trans hle)⟩

/-- A ratio below one keeps at least as many bytes as there are. -/
lemma keepCount_of_lt_one (hratio : 0.0 < ratio) (hone : ratio < 1.0)
    (h : ¬ Overflows length ratio) : ∃ keep, keepCount length ratio = .ok keep ∧ length ≤ keep := by
  rcases pos_cases hratio with hinfinite | ⟨v, hv, hpos⟩
  · exact absurd hone (not_lt_of_infinite hinfinite _)
  have hv₁ : v < 1 := (lt_iff_value_lt hv hpos.le value?_one zero_le_one).mp hone
  have hlength : (length : ℚ) < overflow := by
    by_contra hbeyond
    have hrounded : 2 ^ (1024 : ℤ) ≤ nearest length :=
      not_lt.mp (hbeyond ∘ (nearest_lt_iff length.cast_nonneg).mp)
    refine h ⟨v, hv, ?_⟩
    calc overflow * v ≤ overflow := mul_le_of_le_one_right overflow_pos.le hv₁.le
      _ ≤ nearest length := overflow_lt.le.trans hrounded
  have hnonneg := nearest_nonneg (q := (length : ℚ)) length.cast_nonneg
  obtain ⟨hkeep, hle⟩ := keepCount_of_quotient hratio (quotient_of_not_overflows hv hpos hlength h)
    (nearest_nonneg (div_nonneg hnonneg hpos.le))
  refine ⟨_, hkeep, Int.le_floor.mpr ?_⟩
  rw [Int.cast_natCast]
  exact (natCast_le_nearest_div (representable_of_value hv hpos.le) hpos hv₁).trans hle

lemma keepCount_of_overflows (hratio : 0.0 < ratio) (h : Overflows length ratio) :
    keepCount length ratio = .error .keepInfinite := by
  obtain ⟨v, hv, hbeyond⟩ := h
  have hpos : 0 < v := by
    rcases pos_cases hratio with hinfinite | ⟨w, hw, hpos⟩
    · rw [value?, hinfinite] at hv
      cases hv
    · rw [hv, Option.some_inj] at hw
      rwa [hw]
  have hquotient : decode (ofInt length / ratio) = .infinite false := by
    rcases lt_or_ge (length : ℚ) overflow with hlength | hlength
    · have hnumerator := (roundsTo_ofInt length).value? hlength
      refine (roundsTo_div hnumerator (nearest_nonneg length.cast_nonneg) hv hpos).infinite ?_
      rwa [le_div_iff₀ hpos]
    · exact infinite_div ((roundsTo_ofInt length).infinite hlength) hv hpos
  exact keepCount_of_infinite hratio (infinite_add hquotient value?_half (by norm_num))

/-! ## The payload -/

variable {data : Bytes} {keep : ℤ}

lemma fill_of_nonneg (hkeep : 0 ≤ keep) :
    fill data keep = .ok (List.replicate (data.length - keep).toNat filler ++
      data.drop (data.length - keep).toNat) := by
  unfold fill
  dsimp only
  rw [if_neg (by omega), if_neg (by omega)]

lemma fill_eq_self (hkeep : data.length ≤ keep) : fill data keep = .ok data := by
  have hnone : (data.length - keep).toNat = 0 := by omega
  rw [fill_of_nonneg (by omega), hnone]
  rfl

/-- A payload whose length is a double gets some of its bytes replaced, unless the quotient
overflows. -/
lemma compress_of_not_overflows (hratio : 0.0 < ratio) (hlength : (data.length : ℚ) < overflow)
    (h : ¬ Overflows data.length ratio) : ∃ filled, compress data ratio = .ok filled := by
  obtain ⟨keep, hkeep, hnonneg⟩ := keepCount_of_not_overflows hratio hlength h
  unfold compress
  rw [hkeep]
  exact ⟨_, fill_of_nonneg hnonneg⟩

lemma compress_of_lt_one (hratio : 0.0 < ratio) (hone : ratio < 1.0)
    (h : ¬ Overflows data.length ratio) : compress data ratio = .ok data := by
  obtain ⟨keep, hkeep, hle⟩ := keepCount_of_lt_one hratio hone h
  unfold compress
  rw [hkeep]
  exact fill_eq_self hle

lemma compress_of_overflows (hratio : 0.0 < ratio) (h : Overflows data.length ratio) :
    compress data ratio = .error .keepInfinite := by
  unfold compress
  rw [keepCount_of_overflows hratio h]
  rfl

/-- The generators of the fields give a payload for every payload. -/
lemma exists_override (cardinalities : List ℤ) (field : String) (data : Bytes) {d : Draws}
    (hd : ∀ x ∈ d.script, 0.0 ≤ x ∧ x < 1.0) :
    ∃ payload d', override (Discrete.forFields cardinalities) field data d = (.ok payload, d') := by
  unfold override
  cases hfield : (Discrete.forFields cardinalities).get? field with
  | none => exact ⟨data, d, rfl⟩
  | some g =>
    obtain ⟨count, hcount, rfl⟩ := Discrete.exists_uniform_of_get? hfield
    obtain ⟨value, hdraw⟩ := Discrete.draw_uniform hcount hd
    dsimp only
    rw [hdraw]
    exact ⟨_, _, rfl⟩

end Payload

/-! ## Accepted settings -/

namespace Settings

open Payload

/-- The payload of a field, or the value that is drawn in its place. -/
def override (s : Settings) (field : String) (data : Bytes) (d : Draws) :
    Except PayloadError Bytes × Draws :=
  Payload.override (Discrete.forFields s.cardinalities) field data d

/-- What becomes of the payload of a field on its way into the store. -/
def prepare (s : Settings) (field : String) (data : Bytes) (d : Draws) :
    Except PayloadError Value × Draws :=
  Payload.prepare (Discrete.forFields s.cardinalities) s.compressibility s.encoding field data d

lemma prepare_of_override {s : Settings} {field : String} {data payload : Bytes} {d d' : Draws}
    (h : s.override field data d = (.ok payload, d')) :
    s.prepare field data d =
      ((compress payload s.compressibility).map (encode · s.encoding), d') := by
  unfold prepare Payload.prepare
  unfold override at h
  rw [h]

/-- Accepted settings prepare every payload whose length is a double, unless the quotient of the
length and the ratio lies beyond all doubles: then they prepare none.  A ratio below one leaves the
payload, or the value that was drawn in its place, as it is. -/
theorem prepare_of_accepted {bag : Bag} {s : Settings} (hs : (resolve bag).1 = .ok s)
    (field : String) (data : Bytes) {d : Draws} (hd : ∀ x ∈ d.script, 0.0 ≤ x ∧ x < 1.0) :
    ∃ payload d', s.override field data d = (.ok payload, d') ∧
      (¬ Overflows payload.length s.compressibility →
        ((payload.length : ℚ) < overflow →
          ∃ stored, s.prepare field data d = (.ok stored, d')) ∧
        (s.compressibility < 1.0 →
          s.prepare field data d = (.ok (encode payload s.encoding), d'))) ∧
      (Overflows payload.length s.compressibility →
        s.prepare field data d = (.error .keepInfinite, d')) := by
  have hratio := (inBounds hs).compressibility
  obtain ⟨payload, d', hpayload⟩ := exists_override s.cardinalities field data hd
  have hprepare := prepare_of_override hpayload
  refine ⟨payload, d', hpayload, fun h => ⟨fun hlength => ?_, fun hone => ?_⟩, fun h => ?_⟩
  · obtain ⟨filled, hfilled⟩ := compress_of_not_overflows hratio hlength h
    rw [hprepare, hfilled]
    exact ⟨_, rfl⟩
  · rw [hprepare, compress_of_lt_one hratio hone h]
    rfl
  · rw [hprepare, compress_of_overflows hratio h]
    rfl

/-- With a ratio of one half a drawn value is stored as it is, padded to the length of the payload
that it replaces. -/
theorem prepare_of_accepted_drawnValue :
    ∃ s d', (resolve [("compressibility", .text "0.5"),
        ("mongodb.cardinalities", .text "2")]).1 = .ok s ∧
      s.prepare "field0" [1, 2, 3, 4, 5, 6, 7, 8] { script := [0.75] } =
        (.ok (.bytes [118, 97, 108, 117, 101, 49, 120, 120]), d') := by
  have hfacts : (resolve [("compressibility", .text "0.5"),
      ("mongodb.cardinalities", .text "2")]).1.value?.map (fun s =>
        (s.compressibility, s.cardinalities, s.encoding)) = some (0.5, [2], .binary) := by
    decide +kernel
  obtain ⟨s, hs, hsettings⟩ := Reading.exists_of_map_value? hfacts
  obtain ⟨hratio, hcardinalities, hencoding⟩ : s.compressibility = 0.5 ∧ s.cardinalities = [2] ∧
      s.encoding = .binary := by simpa only [Prod.mk.injEq] using hsettings
  have hunit : ∀ x ∈ ([0.75] : List Float), 0.0 ≤ x ∧ x < 1.0 := by decide +kernel
  obtain ⟨payload, d', hpayload, hfits, -⟩ :=
    prepare_of_accepted hs "field0" [1, 2, 3, 4, 5, 6, 7, 8] (d := { script := [0.75] }) hunit
  have hdrawn : (Payload.override (Discrete.forFields [2]) "field0" [1, 2, 3, 4, 5, 6, 7, 8]
      { script := [0.75] }).1.toOption = some [118, 97, 108, 117, 101, 49, 120, 120] := by
    decide +kernel
  unfold override at hpayload
  rw [hcardinalities] at hpayload
  rw [hpayload] at hdrawn
  obtain rfl : payload = [118, 97, 108, 117, 101, 49, 120, 120] := Option.some.inj hdrawn
  have hhalf : (2 : ℚ) ^ (-900 : ℤ) ≤ 1 / 2 :=
    calc (2 : ℚ) ^ (-900 : ℤ) ≤ 2 ^ (-1 : ℤ) := zpow_le_zpow_right₀ one_le_two (by norm_num)
      _ = 1 / 2 := by norm_num
  have hnot : ¬ Overflows 8 s.compressibility := by
    rw [hratio]
    exact not_overflows (by norm_num) value?_half hhalf
  have hone : s.compressibility < 1.0 := by
    rw [hratio]
    decide +kernel
  refine ⟨s, d', hs, ?_⟩
  rw [(hfits hnot).2 hone, hencoding]
  rfl

/-- The ratio `1e-320` passes the check of the settings, and yet a single byte is refused with it:
the quotient is infinite, which no number of bytes is. -/
theorem accepted_ratio_refuses_payload :
    ∃ s, (resolve [("compressibility", .text "1e-320")]).1 = .ok s ∧
      s.prepare "field0" [1] {} = (.error .keepInfinite, {}) := by
  have hfacts : (resolve [("compressibility", .text "1e-320")]).1.value?.map (fun s =>
      (decode s.compressibility, s.cardinalities)) = some (.finite false 2024 (-1074), []) := by
    decide +kernel
  obtain ⟨s, hs, hsettings⟩ := Reading.exists_of_map_value? hfacts
  obtain ⟨hratio, hcardinalities⟩ : decode s.compressibility = .finite false 2024 (-1074) ∧
      s.cardinalities = [] := by simpa only [Prod.mk.injEq] using hsettings
  have hvalue : value? s.compressibility = some (2024 * 2 ^ (-1074 : ℤ)) := by
    rw [value?, hratio]
    rfl
  have hoverflows : Overflows 1 s.compressibility := by
    refine ⟨_, hvalue, ?_⟩
    rw [nearest_eq_self (Nat.cast_nonneg 1) (representable_natCast (by norm_num))]
    calc overflow * (2024 * 2 ^ (-1074 : ℤ)) = (2 ^ 53 - 1 / 2) * 2024 * 2 ^ (-103 : ℤ) := by
          rw [overflow, mul_mul_mul_comm, ← two_zpow_add]
          norm_num
      _ ≤ (1 : ℕ) := by norm_num
  have hrefused : compress [1] s.compressibility = .error .keepInfinite :=
    compress_of_overflows (inBounds hs).compressibility hoverflows
  have hpayload : s.override "field0" [1] {} = (.ok [1], {}) := by
    unfold override
    rw [hcardinalities]
    rfl
  refine ⟨s, hs, ?_⟩
  rw [prepare_of_override hpayload, hrefused]
  rfl

end Settings

end LoadBinding
