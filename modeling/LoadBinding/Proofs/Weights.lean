import LoadBinding.Proofs.Overriding

/-!
# Draws from weighted generators

A value can be added to a generator with any weight that is not zero or less, and a draw is scaled
by the total weight.  The totals never descend, and the scaled draw is a part of the last of them;
so one of them lies above it and selects a value, with two exceptions.  If a weight is infinite or
no number, or the sum of the weights lies beyond all doubles, the last total is no number to compare
with (`Number.IsBeyond`).  And if the total weight is so small that it has lost bits, the greatest
draws are rounded up to the total weight itself (`Number.nearest_greatest_part`).

`Discrete.Ascends` is what every addition preserves.  It follows exactly when all draws succeed
(`Discrete.draws_give_added_iff`), and that the first total above the scaled draw is the one that is
found by halving (`Discrete.position_eq_bisect`).
-/

namespace LoadBinding

open LoadBinding.Number

namespace Number

open Float.Model Float.Model.UnpackedFloat

/-! ## Doubles beyond all numbers -/

/-- What is infinite or no number at all. -/
inductive Beyond : UnpackedFloat → Prop
  | infinity : Beyond (.infinity .positive)
  | notANumber : Beyond .notANumber

section Unpacked

variable {u₁ u₂ : UnpackedFloat} {v : ℚ}

lemma beyond_add_left (h₁ : Beyond u₁) (h₂ : Beyond u₂ ∨ Holds u₂ v) :
    Beyond (UnpackedFloat.add Format.binary64 u₁ u₂) := by
  cases h₁ with
  | notANumber => exact .notANumber
  | infinity =>
    rcases h₂ with h₂ | h₂
    · cases h₂ with
      | infinity => exact .infinity
      | notANumber => exact .notANumber
    · rw [infinity_add h₂]
      exact .infinity

lemma beyond_add_right (h₁ : Holds u₁ v) (h₂ : Beyond u₂) :
    Beyond (UnpackedFloat.add Format.binary64 u₁ u₂) := by
  cases h₂ with
  | infinity => cases h₁ <;> exact .infinity
  | notANumber => cases h₁ <;> exact .notANumber

lemma beyond_mul (h₁ : Holds u₁ v) (h₂ : Beyond u₂) :
    Beyond (UnpackedFloat.mul Format.binary64 u₁ u₂) := by
  cases h₂ with
  | notANumber => cases h₁ <;> exact .notANumber
  | infinity =>
    cases h₁ with
    | zero => exact .notANumber
    | finite => exact .infinity

lemma beyond_unpack_pack (h : Beyond u₁) :
    Beyond (UnpackedFloat.unpack Format.binary64 (UnpackedFloat.pack Format.binary64 u₁)) := by
  cases h with
  | infinity => exact .infinity
  | notANumber => exact .notANumber

lemma Beyond.compare_ne_lt (h : Beyond u₁) (u : UnpackedFloat) : u₁.compare u ≠ some .lt := by
  cases h with
  | notANumber => simp [UnpackedFloat.compare]
  | infinity =>
    cases u with
    | infinity s => cases s <;> decide
    | notANumber => simp [UnpackedFloat.compare]
    | zero s => simp [UnpackedFloat.compare]
    | finite s m e hm => simp [UnpackedFloat.compare]

lemma Beyond.value?_eq_none (h : Beyond u₁) : (Decoded.ofUnpacked u₁).value? = none := by
  cases h with
  | infinity => rfl
  | notANumber => rfl

end Unpacked

/-- Whether a double is infinite or no number at all. -/
def IsBeyond (x : Float) : Prop :=
  Beyond x.toModel.unpack

/-- Whether a double is a number that is not negative, or is beyond all of them. -/
def IsMagnitude (x : Float) : Prop :=
  IsBeyond x ∨ ∃ v, value? x = some v ∧ 0 ≤ v

section Doubles

variable {x y : Float} {v : ℚ}

lemma isBeyond_of_infinite (h : decode x = .infinite false) : IsBeyond x := by
  rw [IsBeyond, unpack_of_infinite h]
  exact .infinity

/-- Nothing beyond all numbers lies below a double. -/
lemma IsBeyond.not_lt (h : IsBeyond x) (y : Float) : ¬ x < y := by
  rw [lt_iff_compare]
  exact h.compare_ne_lt _

lemma IsBeyond.value?_eq_none (h : IsBeyond x) : value? x = none := by
  rw [value?, decode_eq]
  exact Beyond.value?_eq_none h

/-- A sum is beyond all numbers if a part of it is. -/
lemma isBeyond_add (hx : IsMagnitude x) (hy : IsMagnitude y) (h : IsBeyond x ∨ IsBeyond y) :
    IsBeyond (x + y) := by
  apply beyond_unpack_pack
  rcases hx with hx | ⟨v, hv, hv₀⟩
  · rcases hy with hy | ⟨w, hw, hw₀⟩
    · exact beyond_add_left hx (.inl hy : Beyond _ ∨ Holds _ 0)
    · exact beyond_add_left hx (.inr (holds_unpack hw hw₀))
  · rcases h with h | h
    · rw [h.value?_eq_none] at hv
      cases hv
    · exact beyond_add_right (holds_unpack hv hv₀) h

/-- A part of what is beyond all numbers is beyond them too. -/
lemma isBeyond_mul (hx : value? x = some v) (hv : 0 ≤ v) (hy : IsBeyond y) : IsBeyond (x * y) :=
  beyond_unpack_pack (beyond_mul (holds_unpack hx hv) hy)

/-- What is not at most zero is positive, or beyond all numbers. -/
lemma isMagnitude_of_not_le_zero (h : ¬ x ≤ 0.0) : IsMagnitude x := by
  unfold IsMagnitude IsBeyond
  rw [le_iff_compare, unpack_zero] at h
  rw [value?, decode_eq]
  cases hu : x.toModel.unpack with
  | notANumber => exact .inl .notANumber
  | infinity s =>
    rw [hu] at h
    cases s with
    | positive => exact .inl .infinity
    | negative => simp [UnpackedFloat.compare] at h
  | zero s => exact .inr ⟨0, by simp [Decoded.ofUnpacked, Decoded.value?], le_rfl⟩
  | finite s m e hm =>
    rw [hu] at h
    cases s with
    | positive => exact .inr ⟨m * 2 ^ e, rfl, by positivity⟩
    | negative => simp [UnpackedFloat.compare] at h

/-- A sum is a magnitude like its parts. -/
lemma isMagnitude_add (hx : IsMagnitude x) (hy : IsMagnitude y) : IsMagnitude (x + y) := by
  by_cases h : IsBeyond x ∨ IsBeyond y
  · exact .inl (isBeyond_add hx hy h)
  · obtain ⟨hx', hy'⟩ := not_or.mp h
    obtain ⟨v, hv, hv₀⟩ := hx.resolve_left hx'
    obtain ⟨w, hw, hw₀⟩ := hy.resolve_left hy'
    have hsum := roundsTo_add hv hv₀ hw hw₀
    rcases lt_or_ge (v + w) overflow with hlt | hge
    · exact .inr ⟨_, hsum.value? hlt, nearest_nonneg (add_nonneg hv₀ hw₀)⟩
    · exact .inl (isBeyond_of_infinite (hsum.infinite hge))

end Doubles

end Number

namespace Weight

/-- Whether a weight is an integer beyond all doubles. -/
def isTooLarge (w : Weight) : Bool :=
  !w.isNotPositive && w.toFloat?.isNone

/-- An integer is a double of its own if it does not lie beyond all of them. -/
lemma toFloat?_int_of_value? {n : ℤ} {v : ℚ} (h : value? (ofInt n) = some v) :
    (int n).toFloat? = some (ofInt n) := by
  rw [toFloat?]
  cases hd : decode (ofInt n) with
  | infinite s =>
    rw [value?, hd] at h
    cases h
  | nan => rfl
  | finite s m e => rfl

/-- An accepted weight is a magnitude as a double. -/
lemma isMagnitude_of_toFloat? {w : Weight} {x : Float} (hw : w.isNotPositive = false)
    (hx : w.toFloat? = some x) : IsMagnitude x := by
  cases w with
  | real y =>
    obtain rfl : y = x := Option.some.inj hx
    exact isMagnitude_of_not_le_zero (of_decide_eq_false hw)
  | int n =>
    have hn : 0 < n := not_le.mp (of_decide_eq_false hw)
    obtain ⟨m, rfl⟩ := Int.eq_ofNat_of_zero_le hn.le
    have hrounds := roundsTo_ofInt m
    rcases lt_or_ge (m : ℚ) overflow with hlt | hge
    · have hvalue := hrounds.value? hlt
      have hfinite : (int (m : ℤ)).toFloat? = some (ofInt m) :=
        toFloat?_int_of_value? hvalue
      obtain rfl : ofInt m = x := Option.some.inj (hfinite.symm.trans hx)
      exact .inr ⟨_, hvalue, nearest_nonneg m.cast_nonneg⟩
    · rw [toFloat?, hrounds.infinite hge] at hx
      cases hx

end Weight

namespace Discrete

variable {g : Discrete} {x : Float}

/-! ## Additions -/

/-- A generator after additions, whether they were refused or not. -/
def addAll (g : Discrete) : List (Weight × String) → Discrete
  | [] => g
  | (w, value) :: rest => (g.add w value).2.addAll rest

/-- The values of the additions that are not refused. -/
def added (g : Discrete) : List (Weight × String) → List String
  | [] => []
  | (w, value) :: rest =>
    match g.add w value with
    | (.ok (), g') => value :: g'.added rest
    | (.error _, g') => g'.added rest

/-- A weight that is not positive is refused, and nothing changes. -/
lemma add_of_isNotPositive {w : Weight} (h : w.isNotPositive = true) (g : Discrete)
    (value : String) : g.add w value = (.error (.weightNotPositive w), g) := by
  rw [add, if_pos h]

/-- A weight that is too large is refused when its value is already in the list. -/
lemma add_of_isTooLarge {w : Weight} (h : w.isTooLarge = true) (g : Discrete) (value : String) :
    g.add w value = (.error .weightTooLarge, { g with values := g.values.push value }) := by
  obtain ⟨hpositive, hnone⟩ := Bool.and_eq_true_iff.mp h
  rw [Bool.not_eq_true'] at hpositive
  rw [Option.isNone_iff_eq_none] at hnone
  unfold add
  rw [if_neg (by simp [hpositive]), hnone]

/-- What an addition can do. -/
lemma add_cases (g : Discrete) (w : Weight) (value : String) :
    (w.isTooLarge = false ∧ g.add w value = (.error (.weightNotPositive w), g)) ∨
      (w.isTooLarge = true ∧
        g.add w value = (.error .weightTooLarge, { g with values := g.values.push value })) ∨
      ∃ x, IsMagnitude x ∧ w.isTooLarge = false ∧ g.add w value =
        (.ok (), { values := g.values.push value, totals := g.totals.push (g.total + x) }) := by
  cases hpositive : w.isNotPositive with
  | true =>
    exact .inl ⟨by simp [Weight.isTooLarge, hpositive], add_of_isNotPositive hpositive g value⟩
  | false =>
    cases hx : w.toFloat? with
    | none =>
      have hlarge : w.isTooLarge = true := by simp [Weight.isTooLarge, hpositive, hx]
      exact .inr (.inl ⟨hlarge, add_of_isTooLarge hlarge g value⟩)
    | some x =>
      refine .inr (.inr ⟨x, Weight.isMagnitude_of_toFloat? hpositive hx, ?_, ?_⟩)
      · simp [Weight.isTooLarge, hx]
      · unfold add
        rw [if_neg (by simp [hpositive]), hx]

/-- Every addition that is not refused has its total. -/
lemma size_totals_addAll (g : Discrete) (additions : List (Weight × String)) :
    (g.addAll additions).totals.size = g.totals.size + (g.added additions).length := by
  induction additions generalizing g with
  | nil => rfl
  | cons addition rest ih =>
    obtain ⟨w, value⟩ := addition
    rw [addAll, ih, added]
    rcases add_cases g w value with ⟨-, h⟩ | ⟨-, h⟩ | ⟨x, -, -, h⟩
    · rw [h]
    · rw [h]
    · rw [h]
      dsimp only
      rw [Array.size_push, List.length_cons]
      omega

/-- The values are those of the additions that are not refused, and those whose weights are too
large. -/
lemma size_values_addAll (g : Discrete) (additions : List (Weight × String)) :
    (g.addAll additions).values.size =
      g.values.size + (g.added additions).length + additions.countP (·.1.isTooLarge) := by
  induction additions generalizing g with
  | nil => rfl
  | cons addition rest ih =>
    obtain ⟨w, value⟩ := addition
    rw [addAll, ih, added, List.countP_cons]
    rcases add_cases g w value with ⟨hw, h⟩ | ⟨hw, h⟩ | ⟨x, -, hw, h⟩
    · simp [h, hw]
    · simp only [h, hw, Array.size_push, if_true]
      omega
    · simp only [h, hw, Array.size_push, List.length_cons, Bool.false_eq_true, if_false]
      omega

/-- Without a weight that is too large, the values are those of the additions that are not
refused. -/
lemma values_addAll {additions : List (Weight × String)}
    (hfit : ∀ a ∈ additions, a.1.isTooLarge = false) (g : Discrete) :
    (g.addAll additions).values.toList = g.values.toList ++ g.added additions := by
  induction additions generalizing g with
  | nil => exact (List.append_nil _).symm
  | cons addition rest ih =>
    obtain ⟨w, value⟩ := addition
    have hw : w.isTooLarge = false := hfit _ List.mem_cons_self
    rw [addAll, ih fun a ha => hfit a (List.mem_cons_of_mem _ ha), added]
    rcases add_cases g w value with ⟨-, h⟩ | ⟨hlarge, -⟩ | ⟨x, -, -, h⟩
    · rw [h]
    · rw [hw] at hlarge
      cases hlarge
    · rw [h]
      dsimp only
      rw [Array.toList_push, List.append_assoc, List.singleton_append]

/-! ## Totals -/

/-- Whether two doubles are numbers that are not negative, the first of them not above the
second. -/
def Below (x y : Float) : Prop :=
  ∃ v w, value? x = some v ∧ value? y = some w ∧ 0 ≤ v ∧ v ≤ w

lemma Below.trans {x y z : Float} (hxy : Below x y) (hyz : Below y z) : Below x z := by
  obtain ⟨v, w, hv, hw, hv₀, hvw⟩ := hxy
  obtain ⟨w', u, hw', hu, -, hwu⟩ := hyz
  obtain rfl : w = w' := Option.some.inj (hw.symm.trans hw')
  exact ⟨v, u, hv, hu, hv₀, hvw.trans hwu⟩

lemma Below.self {x y : Float} (h : Below x y) : Below y y := by
  obtain ⟨v, w, -, hw, hv₀, hvw⟩ := h
  exact ⟨w, w, hw, hw, hv₀.trans hvw, le_rfl⟩

/-- What lies below one total lies below a later one. -/
lemma Below.lt_of_lt {x y z : Float} {p : ℚ} (hx : value? x = some p) (hp : 0 ≤ p)
    (hlt : x < y) (hyz : Below y z) : x < z := by
  obtain ⟨v, w, hv, hw, hv₀, hvw⟩ := hyz
  rw [lt_iff_value_lt hx hp hv hv₀] at hlt
  rw [lt_iff_value_lt hx hp hw (hv₀.trans hvw)]
  exact hlt.trans_le hvw

/-- The total weight is a magnitude, and as long as it is a number, the totals ascend to it. -/
structure Ascends (g : Discrete) : Prop where
  total : IsMagnitude g.total
  ascending : ∀ t, value? g.total = some t → g.totals.toList.Pairwise Below
  below_total : ∀ t, value? g.total = some t → ∀ x ∈ g.totals, Below x g.total

lemma ascends_empty : ({} : Discrete).Ascends where
  total := .inr ⟨0, value?_zero, le_rfl⟩
  ascending _ _ := .nil
  below_total _ _ _ h := by simp at h

/-- A total that is a number lies above the one before it. -/
lemma below_add {y : Float} {t : ℚ} (hx : IsMagnitude x) (hy : IsMagnitude y)
    (h : value? (x + y) = some t) : Below x (x + y) := by
  have hbeyond : ¬ (IsBeyond x ∨ IsBeyond y) := by
    intro hxy
    rw [(isBeyond_add hx hy hxy).value?_eq_none] at h
    cases h
  obtain ⟨hx', hy'⟩ := not_or.mp hbeyond
  obtain ⟨v, hv, hv₀⟩ := hx.resolve_left hx'
  obtain ⟨w, hw, hw₀⟩ := hy.resolve_left hy'
  have hsum := roundsTo_add hv hv₀ hw hw₀
  have hlt : v + w < overflow := by
    by_contra hge
    rw [value?, hsum.infinite (not_lt.mp hge)] at h
    cases h
  have hvalue := hsum.value? hlt
  have hle : v ≤ nearest (v + w) :=
    le_nearest (add_nonneg hv₀ hw₀) (representable_of_value hv hv₀) (by linarith)
  exact ⟨v, _, hv, hvalue, hv₀, hle⟩

/-- Adding a value keeps the totals ascending. -/
lemma Ascends.add (hg : g.Ascends) (w : Weight) (value : String) : (g.add w value).2.Ascends := by
  rcases add_cases g w value with ⟨-, h⟩ | ⟨-, h⟩ | ⟨x, hx, -, h⟩
  · rw [h]
    exact hg
  · rw [h]
    exact ⟨hg.total, hg.ascending, hg.below_total⟩
  · have hbelow {t : ℚ} (ht : value? (g.total + x) = some t) (y : Float) (hy : y ∈ g.totals) :
        Below y (g.total + x) := by
      obtain ⟨v, -, hv, -⟩ := below_add hg.total hx ht
      exact (hg.below_total v hv y hy).trans (below_add hg.total hx ht)
    rw [h]
    constructor
    · rw [total_push]
      exact isMagnitude_add hg.total hx
    · intro t ht
      rw [total_push] at ht
      obtain ⟨v, -, hv, -⟩ := below_add hg.total hx ht
      rw [Array.toList_push, List.pairwise_append]
      refine ⟨hg.ascending v hv, List.pairwise_singleton _ _, ?_⟩
      intro y hy z hz
      obtain rfl := List.mem_singleton.mp hz
      exact hbelow ht y (Array.mem_toList_iff.mp hy)
    · intro t ht y hy
      rw [total_push] at ht ⊢
      rcases Array.mem_push.mp hy with hy | rfl
      · exact hbelow ht y hy
      · exact (below_add hg.total hx ht).self

lemma Ascends.addAll (hg : g.Ascends) (additions : List (Weight × String)) :
    (g.addAll additions).Ascends := by
  induction additions generalizing g with
  | nil => exact hg
  | cons addition rest ih =>
    exact ih (hg.add addition.1 addition.2)

/-! ## Scaled draws -/

/-- A draw is scaled to something beyond all numbers if the total weight is beyond them, and to the
number that is nearest to a part of the total weight otherwise. -/
lemma Ascends.scaled_cases (hg : g.Ascends) (h₀ : 0.0 ≤ x) (h₁ : x < 1.0) :
    (IsBeyond g.total ∧ IsBeyond (x * g.total)) ∨
      ∃ v t, value? x = some v ∧ value? g.total = some t ∧ 0 ≤ t ∧ 0 ≤ nearest (v * t) ∧
        value? (x * g.total) = some (nearest (v * t)) := by
  obtain ⟨v, hv, hv₀, hv₁⟩ := exists_value_of_unit h₀ h₁
  rcases hg.total with hbeyond | ⟨t, ht, ht₀⟩
  · exact .inl ⟨hbeyond, isBeyond_mul hv hv₀ hbeyond⟩
  · have hpart := roundsTo_mul hv hv₀ ht ht₀
    exact .inr ⟨v, t, hv, ht, ht₀, nearest_nonneg (mul_nonneg hv₀ ht₀),
      hpart.value? (part_lt_overflow hv₁ ht ht₀)⟩

/-- Behind a total above a scaled draw lie only totals above it. -/
lemma Ascends.lt_getElem (hg : g.Ascends) (h₀ : 0.0 ≤ x) (h₁ : x < 1.0) {i j : ℕ}
    (hi : i < g.totals.size) (hj : j < g.totals.size) (hij : i ≤ j)
    (hlt : x * g.total < g.totals[i]) : x * g.total < g.totals[j] := by
  rcases hg.scaled_cases h₀ h₁ with ⟨-, hbeyond⟩ | ⟨v, t, -, ht, -, hpart₀, hpart⟩
  · exact absurd hlt (hbeyond.not_lt _)
  · rcases hij.eq_or_lt with rfl | hij
    · exact hlt
    · have hpairwise := List.pairwise_iff_getElem.mp (hg.ascending t ht) i j hi hj hij
      exact Below.lt_of_lt hpart hpart₀ hlt hpairwise

/-- The position behind all totals that do not lie above a point, found by halving. -/
def bisect (totals : Array Float) (point : Float) (low high : ℕ) : ℕ :=
  if low < high then
    let middle := (low + high) / 2
    if point < totals.getD middle 0.0 then bisect totals point low middle
    else bisect totals point (middle + 1) high
  else low
termination_by high - low

/-- Halving finds the position that parts the totals. -/
lemma bisect_eq {totals : Array Float} {point : Float} {low high position : ℕ}
    (hbefore : ∀ i (h : i < totals.size), i < position → ¬ point < totals[i])
    (hbehind : ∀ i (h : i < totals.size), position ≤ i → point < totals[i])
    (hlow : low ≤ position) (hhigh : position ≤ high) (hsize : high ≤ totals.size) :
    bisect totals point low high = position := by
  fun_induction bisect totals point low high with
  | case1 low high hlt middle habove ih =>
    rw [← Array.getElem_eq_getD (h := by omega)] at habove
    refine ih hlow ?_ (by omega)
    by_contra hlate
    exact hbefore middle (by omega) (by omega) habove
  | case2 low high hlt middle habove ih =>
    rw [← Array.getElem_eq_getD (h := by omega)] at habove
    refine ih ?_ hhigh hsize
    by_contra hearly
    exact habove (hbehind middle (by omega) (by omega))
  | case3 low high hlt => omega

/-- The first total above a scaled draw is the one that halving finds. -/
theorem position_eq_bisect (hg : g.Ascends) (h₀ : 0.0 ≤ x) (h₁ : x < 1.0) :
    g.position x = bisect g.totals (x * g.total) 0 g.totals.size := by
  rw [position, ← Array.findIdx_eq_getD_findIdx?]
  symm
  apply bisect_eq
  · intro i hi hfirst
    exact of_decide_eq_false (Array.not_of_lt_findIdx hfirst)
  · intro i hi hbehind
    have hfound := Array.findIdx_getElem (w := hbehind.trans_lt hi)
    exact hg.lt_getElem h₀ h₁ _ hi hbehind (of_decide_eq_true hfound)
  · exact Nat.zero_le _
  · exact Array.findIdx_le_size
  · exact le_rfl

/-! ## Draws -/

/-- The greatest draw there is. -/
def greatestDraw : Float := 0.9999999999999999

lemma greatestDraw_unit : 0.0 ≤ greatestDraw ∧ greatestDraw < 1.0 := by
  constructor <;> decide +kernel

lemma value?_greatestDraw : value? greatestDraw = some (1 - 1 / 2 ^ 53) := by
  have hdecode : decode greatestDraw = .finite false (2 ^ 53 - 1) (-53) := by decide +kernel
  rw [value?, hdecode, Decoded.value?]
  norm_num

/-- The greatest draw is scaled to nothing below a total if the total weight is no number, or at
most `2 ^ -1022`. -/
lemma Ascends.not_greatestDraw_lt (hg : g.Ascends)
    (hsmall : ¬ ∃ t, value? g.total = some t ∧ 2 ^ (-1022 : ℤ) < t) {upTo : Float}
    (hmem : upTo ∈ g.totals) : ¬ greatestDraw * g.total < upTo := by
  obtain ⟨h₀, h₁⟩ := greatestDraw_unit
  rcases hg.scaled_cases h₀ h₁ with ⟨-, hbeyond⟩ | ⟨v, t, hv, ht, ht₀, hpart₀, hpart⟩
  · exact hbeyond.not_lt _
  · have hle : t ≤ 2 ^ (-1022 : ℤ) := not_lt.mp fun h => hsmall ⟨t, ht, h⟩
    obtain rfl : 1 - 1 / 2 ^ 53 = v := Option.some.inj (value?_greatestDraw.symm.trans hv)
    rw [nearest_greatest_part (representable_of_value ht ht₀) ht₀ hle] at hpart
    obtain ⟨u, t', hu, ht', hu₀, hut⟩ := hg.below_total t ht upTo hmem
    obtain rfl : t = t' := Option.some.inj (ht.symm.trans ht')
    rw [lt_iff_value_lt hpart ht₀ hu hu₀]
    exact hut.not_gt

/-- A draw that lies below no total selects the value behind them, if there is one. -/
lemma select?_of_not_lt (h : ∀ upTo ∈ g.totals, ¬ x * g.total < upTo) :
    g.select? x = g.values[g.totals.size]? := by
  rw [select?_eq, position, Array.findIdx?_eq_none_iff.mpr]
  · rfl
  · intro upTo hmem
    exact decide_eq_false (h upTo hmem)

lemma exists_select_of_size_lt (h : g.totals.size < g.values.size) (x : Float) :
    ∃ value, g.select? x = some value := by
  have hposition : g.position x ≤ g.totals.size := by
    rw [position, ← Array.findIdx_eq_getD_findIdx?]
    exact Array.findIdx_le_size
  rw [select?_eq, Array.getElem?_eq_getElem (by omega)]
  exact ⟨_, rfl⟩

/-- If every value has its total, all draws succeed exactly when the total weight is a number above
`2 ^ -1022`. -/
lemma Ascends.draws_succeed_iff (hg : g.Ascends) (hsize : g.totals.size = g.values.size)
    (hpos : 0 < g.totals.size) :
    (∀ d : Draws, (∀ x ∈ d.script, 0.0 ≤ x ∧ x < 1.0) →
        ∃ value ∈ g.values, g.draw d = (.ok value, d.next.2)) ↔
      ∃ t, value? g.total = some t ∧ 2 ^ (-1022 : ℤ) < t := by
  constructor
  · intro hdraws
    by_contra hsmall
    have hunit : ∀ x ∈ [greatestDraw], 0.0 ≤ x ∧ x < 1.0 := by
      intro x hx
      rw [List.mem_singleton.mp hx]
      exact greatestDraw_unit
    obtain ⟨value, -, hdraw⟩ := hdraws { script := [greatestDraw] } hunit
    have hnext : (Draws.next { script := [greatestDraw] }).1 = greatestDraw := rfl
    have hnone : g.select? (Draws.next { script := [greatestDraw] }).1 = none := by
      rw [hnext, select?_of_not_lt fun upTo hmem => hg.not_greatestDraw_lt hsmall hmem, hsize]
      exact Array.getElem?_size
    rw [draw_eq hpos (by omega), hnone] at hdraw
    cases hdraw
  · rintro ⟨t, ht, hlarge⟩ d hd
    obtain ⟨h₀, h₁⟩ := next_mem_unit hd
    obtain ⟨value, hvalue⟩ :=
      exists_select_of_lt hsize (by omega) (mul_total_lt h₀ h₁ ht hlarge)
    exact ⟨value, mem_values_of_select hvalue, draw_of_select hpos hvalue⟩

/-- A weight that is zero or less is refused, and nothing changes.  When a value was added and no
weight was too large for a double, all draws in the unit interval give one of the added values
exactly if the total weight is a number above `2 ^ -1022`.  A value whose weight was too large stays
behind, and all draws give some value then. -/
theorem draws_give_added_iff (additions : List (Weight × String))
    (hadded : added {} additions ≠ []) :
    (∀ (g : Discrete) (w : Weight) (value : String), w.isNotPositive = true →
      g.add w value = (.error (.weightNotPositive w), g)) ∧
    ((∀ a ∈ additions, a.1.isTooLarge = false) →
      ((∀ d : Draws, (∀ x ∈ d.script, 0.0 ≤ x ∧ x < 1.0) → ∃ value ∈ added {} additions,
          (addAll {} additions).draw d = (.ok value, d.next.2)) ↔
        ∃ t, value? (addAll {} additions).total = some t ∧ 2 ^ (-1022 : ℤ) < t)) ∧
    ((∃ a ∈ additions, a.1.isTooLarge = true) →
      (added {} additions).length < (addAll {} additions).values.size ∧
      ∀ d : Draws, ∃ value ∈ (addAll {} additions).values,
        (addAll {} additions).draw d = (.ok value, d.next.2)) := by
  have hascends := ascends_empty.addAll additions
  have htotals : (addAll {} additions).totals.size = (added {} additions).length := by
    rw [size_totals_addAll]
    exact Nat.zero_add _
  have hvalues : (addAll {} additions).values.size =
      (added {} additions).length + additions.countP (·.1.isTooLarge) := by
    rw [size_values_addAll]
    exact congrArg (· + _) (Nat.zero_add _)
  have hpos : 0 < (addAll {} additions).totals.size := by
    rw [htotals]
    exact List.length_pos_of_ne_nil hadded
  refine ⟨fun g w value h => add_of_isNotPositive h g value, ?_, ?_⟩
  · intro hfit
    have hlist : (addAll {} additions).values.toList = added {} additions := by
      rw [values_addAll hfit]
      rfl
    have hcount : additions.countP (·.1.isTooLarge) = 0 := by
      rw [List.countP_eq_zero]
      intro a ha
      rw [hfit a ha]
      exact Bool.false_ne_true
    rw [← hascends.draws_succeed_iff (by omega) hpos, ← hlist]
    simp only [Array.mem_toList_iff]
  · intro hlarge
    have hcount : 0 < additions.countP (·.1.isTooLarge) := List.countP_pos_iff.mpr hlarge
    have hsize : (addAll {} additions).totals.size < (addAll {} additions).values.size := by omega
    refine ⟨by omega, ?_⟩
    intro d
    obtain ⟨value, hvalue⟩ := exists_select_of_size_lt hsize d.next.1
    exact ⟨value, mem_values_of_select hvalue, draw_of_select hpos hvalue⟩

/-- A value of weight zero is refused, and draws give one of the other two. -/
theorem draws_give_added_iff_halfAndThree :
    added {} [(.real 0.5, "a"), (.int 0, "b"), (.int 3, "c")] = ["a", "c"] ∧
      ∀ d : Draws, (∀ x ∈ d.script, 0.0 ≤ x ∧ x < 1.0) → ∃ value ∈ ["a", "c"],
        (addAll {} [(.real 0.5, "a"), (.int 0, "b"), (.int 3, "c")]).draw d =
          (.ok value, d.next.2) := by
  have hadded : added {} [(.real 0.5, "a"), (.int 0, "b"), (.int 3, "c")] = ["a", "c"] := by
    decide +kernel
  have hdecode : decode (addAll {} [(.real 0.5, "a"), (.int 0, "b"), (.int 3, "c")]).total =
      .finite false (7 * 2 ^ 50) (-51) := by
    decide +kernel
  obtain ⟨-, hfit, -⟩ := draws_give_added_iff
    [(.real 0.5, "a"), (.int 0, "b"), (.int 3, "c")] (by simp [hadded])
  refine ⟨hadded, ?_⟩
  rw [← hadded]
  apply (hfit (by decide +kernel)).mpr
  refine ⟨7 / 2, ?_, ?_⟩
  · rw [value?, hdecode, Decoded.value?]
    norm_num
  · exact lt_trans (zpow_lt_one_of_neg₀ one_lt_two (by norm_num)) (by norm_num)

/-- A value of infinite weight is accepted, and not drawn.  A value whose weight lies beyond all
doubles is refused, and drawn. -/
theorem draws_miss_added :
    added {} [(.real (1.0 / 0.0), "a")] = ["a"] ∧
      (addAll {} [(.real (1.0 / 0.0), "a")]).draw {} =
        (.error .drawOutOfRange, { taken := 1 }) ∧
      added {} [(.int (Nat.pow 10 400), "b"), (.int 1, "a")] = ["a"] ∧
      (addAll {} [(.int (Nat.pow 10 400), "b"), (.int 1, "a")]).draw {} =
        (.ok "b", { taken := 1 }) := by
  refine ⟨by decide +kernel, ?_, by decide +kernel, ?_⟩
  · have hnone : (addAll {} [(.real (1.0 / 0.0), "a")]).select? (Draws.next {}).1 = none := by
      decide +kernel
    rw [draw_eq (by decide +kernel) (by decide +kernel), hnone]
    rfl
  · exact draw_of_select (by decide +kernel) (by decide +kernel)

end Discrete

end LoadBinding
