import LoadBinding.Payload.Discrete
import LoadBinding.Proofs.FloatArithmetic
import LoadBinding.Proofs.Mappings

/-!
# Draws from uniform generators

A generator selects the first value whose total weight lies above the scaled draw, so a draw fails
if rounding takes the scaled draw up to the total weight of all values.  It never does for draws in
the unit interval and weights of one: the total weight is at least one then, however many ones have
been lost in it, and a double below one is so far from one that its product with the total stays
below the total (`nearest_mul_lt`).

`Discrete.Weighed` is what adding a value of weight one preserves, and all that a draw needs.
-/

namespace LoadBinding

open LoadBinding.Number

namespace Discrete

variable {g : Discrete}

/-- Every value has its total, and the total weight of all of them is a number that is at least one
if there is a value. -/
structure Weighed (g : Discrete) : Prop where
  size_eq : g.totals.size = g.values.size
  total : ∃ t, value? g.total = some t ∧ 0 ≤ t ∧ (g.values.size = 0 ∨ 1 ≤ t)

lemma weighed_empty : ({} : Discrete).Weighed :=
  ⟨rfl, 0, value?_zero, le_rfl, .inl rfl⟩

/-- A value of weight one is added with a total of its own. -/
lemma add_one (g : Discrete) (value : String) :
    g.add (.int 1) value =
      (.ok (), { values := g.values.push value, totals := g.totals.push (g.total + ofInt 1) }) := by
  have hpositive : (Weight.int 1).isNotPositive = false := rfl
  have hweight : (Weight.int 1).toFloat? = some (ofInt 1) := by
    have hdecode : decode (ofInt 1) = .finite false (2 ^ 52) (-52) := by decide +kernel
    rw [Weight.toFloat?, hdecode]
  unfold add
  rw [hpositive, hweight]
  rfl

lemma total_push (values : Array String) (totals : Array Float) (x : Float) :
    ({ values := values, totals := totals.push x } : Discrete).total = x := by
  simp [total]

/-- The total weight is the last of the totals. -/
lemma total_mem (h : 0 < g.totals.size) : g.total ∈ g.totals := by
  rw [total, Array.back?_eq_getElem?, Array.getElem?_eq_getElem (by omega)]
  exact Array.getElem_mem _

lemma Weighed.add_one (hg : g.Weighed) (value : String) : (g.add (.int 1) value).2.Weighed := by
  rw [Discrete.add_one]
  obtain ⟨t, ht, hnonneg, -⟩ := hg.total
  have hone : value? (ofInt 1) = some 1 := value?_one
  have hfits : t + 1 < overflow :=
    (representable_of_value ht hnonneg).add_lt_overflow (value_lt ht) le_rfl
  have hle : 1 ≤ nearest (t + 1) :=
    le_nearest (by linarith) representable_one (by linarith)
  refine ⟨by simp [hg.size_eq], nearest (t + 1), ?_, by linarith, .inr hle⟩
  rw [total_push]
  exact (roundsTo_add ht hnonneg hone zero_le_one).value? hfits

lemma uniform_succ (count : ℕ) :
    uniform (count + 1) = ((uniform count).add (.int 1) (valueName count)).2 := by
  rw [uniform, List.range_succ, List.foldl_append]
  rfl

lemma weighed_uniform (count : ℕ) : (uniform count).Weighed := by
  induction count with
  | zero => exact weighed_empty
  | succ count ih =>
    rw [uniform_succ]
    exact ih.add_one _

lemma size_uniform (count : ℕ) : (uniform count).values.size = count := by
  induction count with
  | zero => rfl
  | succ count ih =>
    rw [uniform_succ, add_one, Array.size_push, ih]

/-- A draw in the unit interval is scaled to a number below the total weight, if that lies above
`2 ^ -1022`. -/
lemma mul_total_lt {x : Float} {t : ℚ} (h₀ : 0.0 ≤ x) (h₁ : x < 1.0) (ht : value? g.total = some t)
    (hlarge : 2 ^ (-1022 : ℤ) < t) : x * g.total < g.total := by
  obtain ⟨v, hv, hv₀, hv₁⟩ := exists_value_of_unit h₀ h₁
  have hnonneg : 0 ≤ t := ((two_zpow_pos _).trans hlarge).le
  have hfits : v * t < overflow := part_lt_overflow hv₁ ht hnonneg
  have hpoint := (roundsTo_mul hv hv₀ ht hnonneg).value? hfits
  rw [lt_iff_value_lt hpoint (nearest_nonneg (mul_nonneg hv₀ hnonneg)) ht hnonneg]
  exact nearest_mul_lt (representable_of_value hv hv₀) hv₀ hv₁ hlarge

/-- A scaled draw below the total weight selects a value, because the last total, if not an earlier
one, lies above it. -/
lemma exists_select_of_lt {x : Float} (hsize : g.totals.size = g.values.size)
    (hpos : 0 < g.values.size) (hbelow : x * g.total < g.total) :
    ∃ value, g.select? x = some value := by
  have hlast : g.total ∈ g.totals := total_mem (by omega)
  unfold select?
  dsimp only
  cases hfound : g.totals.findIdx? fun upTo => decide (x * g.total < upTo) with
  | none => simpa [hbelow] using Array.findIdx?_eq_none_iff.mp hfound _ hlast
  | some i =>
    obtain ⟨hi, -⟩ := Array.findIdx?_eq_some_iff_getElem.mp hfound
    rw [hsize] at hi
    exact ⟨g.values[i], Array.getElem?_eq_getElem hi⟩

/-- A draw in the unit interval selects a value. -/
lemma Weighed.exists_select {x : Float} (hg : g.Weighed) (hsize : 0 < g.values.size) (h₀ : 0.0 ≤ x)
    (h₁ : x < 1.0) : ∃ value, g.select? x = some value := by
  obtain ⟨t, ht, -, hone⟩ := hg.total
  have hlarge : (2 : ℚ) ^ (-1022 : ℤ) < t :=
    calc (2 : ℚ) ^ (-1022 : ℤ) < 2 ^ (0 : ℤ) := zpow_lt_zpow_right₀ one_lt_two (by norm_num)
      _ = 1 := zpow_zero 2
      _ ≤ t := hone.resolve_left hsize.ne'
  exact exists_select_of_lt hg.size_eq hsize (mul_total_lt h₀ h₁ ht hlarge)

/-- A script of draws in the unit interval gives nothing else. -/
lemma next_mem_unit {d : Draws} (hd : ∀ x ∈ d.script, 0.0 ≤ x ∧ x < 1.0) :
    0.0 ≤ d.next.1 ∧ d.next.1 < 1.0 := by
  unfold Draws.next
  dsimp only
  rw [List.getD_eq_getElem?_getD]
  cases h : d.script[d.taken % d.script.length]? with
  | none => exact ⟨by decide +kernel, by decide +kernel⟩
  | some x => exact hd x (List.mem_of_getElem? h)

/-- A draw takes one number and gives what it selects, or fails if that is nothing. -/
lemma draw_eq {d : Draws} (htotals : 0 < g.totals.size) (hvalues : 0 < g.values.size) :
    g.draw d = ((g.select? d.next.1).elim (.error .drawOutOfRange) .ok, d.next.2) := by
  have htotals' : g.totals.isEmpty = false := by
    rw [Array.isEmpty_eq_false_iff]
    exact Array.ne_empty_of_size_pos htotals
  have hvalues' : g.values.isEmpty = false := by
    rw [Array.isEmpty_eq_false_iff]
    exact Array.ne_empty_of_size_pos hvalues
  unfold draw
  rw [hvalues', if_neg Bool.false_ne_true]
  dsimp only
  rw [htotals', if_neg Bool.false_ne_true]
  cases g.select? d.next.1 with
  | none => rfl
  | some value => rfl

/-- What is selected is one of the values. -/
lemma mem_values_of_select {x : Float} {value : String} (h : g.select? x = some value) :
    value ∈ g.values :=
  Array.mem_of_getElem? h

/-- What a draw selects is drawn. -/
lemma draw_of_select {d : Draws} {value : String} (htotals : 0 < g.totals.size)
    (h : g.select? d.next.1 = some value) : g.draw d = (.ok value, d.next.2) := by
  have hvalues : 0 < g.values.size := Array.size_pos_of_mem (mem_values_of_select h)
  rw [draw_eq htotals hvalues, h]
  rfl

/-- Draws in the unit interval from a uniform generator give one of its values. -/
theorem draw_uniform {count : ℕ} {d : Draws} (hcount : 0 < count)
    (hd : ∀ x ∈ d.script, 0.0 ≤ x ∧ x < 1.0) :
    ∃ value, (uniform count).draw d = (.ok value, d.next.2) := by
  have hsize := size_uniform count
  have htotals := (weighed_uniform count).size_eq
  obtain ⟨h₀, h₁⟩ := next_mem_unit hd
  obtain ⟨value, hvalue⟩ := (weighed_uniform count).exists_select (by omega) h₀ h₁
  exact ⟨value, draw_of_select (by omega) hvalue⟩

/-- A generator belongs to a field whose cardinality is positive, and is uniform over as many
values. -/
lemma exists_index_of_mem_forFieldsFrom {start : ℕ} {cardinalities : List ℤ} {field : String}
    (h : (field, g) ∈ forFieldsFrom start cardinalities) :
    ∃ i c, cardinalities[i]? = some c ∧ 0 < c ∧ field = fieldName (start + i) ∧
      g = uniform c.toNat := by
  induction cardinalities generalizing start with
  | nil => cases h
  | cons first rest ih =>
    have hlater (h : (field, g) ∈ forFieldsFrom (start + 1) rest) : ∃ i c,
        (first :: rest)[i]? = some c ∧ 0 < c ∧ field = fieldName (start + i) ∧
          g = uniform c.toNat := by
      obtain ⟨i, c, hc, hpos, hfield, hg⟩ := ih h
      exact ⟨i + 1, c, hc, hpos, by rw [hfield, Nat.add_right_comm, Nat.add_assoc], hg⟩
    unfold forFieldsFrom at h
    split_ifs at h with hfirst
    · exact hlater h
    · rcases List.mem_cons.mp h with heq | hrest
      · exact ⟨0, first, rfl, by omega, (Prod.mk.inj heq).1, (Prod.mk.inj heq).2⟩
      · exact hlater hrest

/-- The generator of a field is uniform over at least one value. -/
lemma exists_uniform_of_get? {cardinalities : List ℤ} {field : String}
    (h : (forFields cardinalities).get? field = some g) :
    ∃ count, 0 < count ∧ g = uniform count := by
  obtain ⟨-, c, -, hpos, -, hg⟩ := exists_index_of_mem_forFieldsFrom (Mapping.mem_of_get? h)
  exact ⟨c.toNat, by omega, hg⟩

end Discrete

end LoadBinding
