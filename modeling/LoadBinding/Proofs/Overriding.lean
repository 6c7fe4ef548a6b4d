import LoadBinding.Payload.Prepare
import LoadBinding.Proofs.Drawing
import LoadBinding.Proofs.Sequences

/-!
# Overriding payloads

The generator of a field has the values `value0`, `value1` and so on, as many as the cardinality of
the field says, and a draw selects one of them by its position (`Discrete.position`).  The drawn
value is padded with `x` to the length of the payload that it replaces.  No value has an `x` in it,
so the value comes back when the padding is taken off again (`Payload.rdropWhile_pad`).

Payloads of one length are thus overridden alike if and only if the same value is drawn for them
(`Payload.override_recoverable`).
-/

namespace LoadBinding

open LoadBinding.Text

namespace Discrete

/-! ## Names -/

lemma fieldName_injective : Function.Injective fieldName := by
  intro i j h
  simp only [fieldName, toString] at h
  exact Nat.repr_injective ((String.append_right_inj "field").mp h)

lemma valueName_injective : Function.Injective valueName := by
  intro i j h
  simp only [valueName, toString] at h
  exact Nat.repr_injective ((String.append_right_inj "value").mp h)

/-- The characters of the name of a value. -/
lemma toList_valueName (j : ℕ) : (valueName j).toList = "value".toList ++ Nat.toDigits 10 j := by
  simp only [valueName, toString, String.toList_append, Nat.toList_repr]

/-! ## Values -/

/-- The position of the value that a draw selects. -/
def position (g : Discrete) (draw : Float) : ℕ :=
  (g.totals.findIdx? fun upTo => draw * g.total < upTo).getD g.totals.size

lemma select?_eq (g : Discrete) (draw : Float) : g.select? draw = g.values[g.position draw]? := rfl

lemma toList_values_uniform (count : ℕ) :
    (uniform count).values.toList = (List.range count).map valueName := by
  induction count with
  | zero => rfl
  | succ count ih =>
    rw [uniform_succ, add_one, Array.toList_push, ih, List.range_succ, List.map_append]
    rfl

/-- A draw that selects a position gives the value of that number. -/
lemma draw_of_position {count j : ℕ} {d : Draws} (hj : j < count)
    (h : (uniform count).position d.next.1 = j) :
    (uniform count).draw d = (.ok (valueName j), d.next.2) := by
  have hsize := size_uniform count
  have htotals := (weighed_uniform count).size_eq
  refine draw_of_select (by omega) ?_
  rw [select?_eq, h, ← Array.getElem?_toList, toList_values_uniform]
  simp [hj]

lemma get?_forFieldsFrom {cardinalities : List ℤ} {start i : ℕ} {c : ℤ}
    (hc : cardinalities[i]? = some c) (hpos : 0 < c) :
    (forFieldsFrom start cardinalities).get? (fieldName (start + i)) = some (uniform c.toNat) := by
  induction cardinalities generalizing start i with
  | nil => cases hc
  | cons first rest ih =>
    unfold forFieldsFrom
    cases i with
    | zero =>
      obtain rfl : first = c := Option.some.inj hc
      rw [if_neg (by omega), Mapping.get?_cons, Nat.add_zero, beq_self_eq_true, if_pos rfl]
    | succ i =>
      have hrest : (forFieldsFrom (start + 1) rest).get? (fieldName (start + i + 1)) =
          some (uniform c.toNat) := by
        rw [Nat.add_right_comm]
        exact ih hc
      split
      · exact hrest
      -- No two fields share a name, so the generator of the first field is passed over.
      · have hne : (fieldName (start + i + 1) == fieldName start) = false := by
          rw [beq_eq_false_iff_ne]
          intro h
          have := fieldName_injective h
          omega
        rw [Mapping.get?_cons, ← Nat.add_assoc, hne, if_neg Bool.false_ne_true]
        exact hrest

/-- A field with a positive cardinality has a generator of as many values. -/
lemma get?_forFields {cardinalities : List ℤ} {i : ℕ} {c : ℤ} (hc : cardinalities[i]? = some c)
    (hpos : 0 < c) : (forFields cardinalities).get? (fieldName i) = some (uniform c.toNat) := by
  rw [forFields, ← Nat.zero_add i]
  exact get?_forFieldsFrom hc hpos

end Discrete

namespace Payload

open Discrete

variable {value data : Bytes}

/-! ## Padding -/

lemma length_pad : (pad value data).length = max data.length value.length := by
  rw [pad, List.length_append, List.length_replicate]
  omega

/-- What follows the value is padding. -/
lemma pad_eq : pad value data =
    value ++ List.replicate ((pad value data).length - value.length) padding := by
  have hlength : (pad value data).length - value.length = data.length - value.length := by
    rw [length_pad]
    omega
  rw [hlength, pad]

/-- Only the length of a payload matters to the value that replaces it. -/
lemma pad_congr {data' : Bytes} (h : data.length = data'.length) :
    pad value data = pad value data' := by
  rw [pad, pad, h]

/-- Taking the padding off gives the value back, if that does not end in padding itself. -/
lemma rdropWhile_pad (h : padding ∉ value) :
    (pad value data).rdropWhile (· == padding) = value := by
  rw [pad]
  induction data.length - value.length with
  | zero =>
    rw [List.replicate_zero, List.append_nil, List.rdropWhile_eq_self_iff]
    intro hvalue hlast
    exact h (beq_iff_eq.mp hlast ▸ List.getLast_mem hvalue)
  | succ n ih =>
    rw [List.replicate_succ', ← List.append_assoc, List.rdropWhile_concat_pos _ _ _ (by simp)]
    exact ih

/-- A value has digits and the letters of `value` in it, which all come before the padding. -/
lemma lt_padding_of_mem_valueName {c : Char} {j : ℕ} (h : c ∈ (valueName j).toList) :
    c.toNat < padding.toNat := by
  rw [toList_valueName, List.mem_append] at h
  rcases h with h | h
  · have hletters : "value".toList.all fun c => c.toNat < padding.toNat := by decide
    exact of_decide_eq_true (List.all_eq_true.mp hletters c h)
  · have hdigit := Nat.isDigit_of_mem_toDigits (by decide) le_rfl h
    have hmax : c.val ≤ 57 := of_decide_eq_true (Bool.and_eq_true_iff.mp hdigit).2
    exact (UInt32.le_iff_toNat_le.mp hmax).trans_lt (by decide)

/-- No value has the padding in it. -/
lemma padding_not_mem_utf8_valueName (j : ℕ) : padding ∉ utf8 (valueName j) := by
  intro h
  obtain ⟨c, hc, hbyte⟩ := List.mem_flatMap.mp h
  have hlt := lt_padding_of_mem_valueName hc
  have hsmall : c.toNat < 0x80 := hlt.trans (by decide)
  rw [← Char.ofNat_toNat c, ← (Encodes.one hsmall).eq_encodeChar, List.mem_singleton, eq_comm,
    ofNat_eq_iff (by omega)] at hbyte
  exact hlt.ne hbyte

/-! ## Overriding -/

/-- A payload is stored as it is if its field has no generator, and otherwise gives way to a drawn
value with its padding. -/
lemma override_eq_ok {generators : Mapping Discrete} {field : String} {payload : Bytes}
    {d d' : Draws} (h : override generators field data d = (.ok payload, d')) :
    (generators.get? field = none ∧ payload = data) ∨
      ∃ g value, generators.get? field = some g ∧ g.draw d = (.ok value, d') ∧
        payload = pad (utf8 value) data := by
  unfold override at h
  cases hfield : generators.get? field with
  | none =>
    rw [hfield] at h
    cases h
    exact .inl ⟨rfl, rfl⟩
  | some g =>
    rw [hfield] at h
    dsimp only at h
    cases hdraw : g.draw d with
    | mk drawn after =>
      rw [hdraw] at h
      cases drawn with
      | error e => cases h
      | ok value =>
        cases h
        exact .inr ⟨g, value, rfl, hdraw, rfl⟩

lemma override_of_draw {generators : Mapping Discrete} {field value : String} {g : Discrete}
    {d d' : Draws} (hg : generators.get? field = some g) (hdraw : g.draw d = (.ok value, d'))
    (data : Bytes) : override generators field data d = (.ok (pad (utf8 value) data), d') := by
  unfold override
  rw [hg]
  dsimp only
  rw [hdraw]

/-- Whatever the payload of a field was, the value that is drawn in its place comes back when the
padding is taken off.  Payloads of one length are overridden alike if and only if the draws select
the same value. -/
theorem override_recoverable {cardinalities : List ℤ} {i : ℕ} {c : ℤ}
    (hc : cardinalities[i]? = some c) (hpos : 0 < c) :
    ∃ g, (forFields cardinalities).get? (fieldName i) = some g ∧
      (∀ (data : Bytes) (d : Draws) (j : ℕ), j < c → g.position d.next.1 = j →
        ∃ payload, override (forFields cardinalities) (fieldName i) data d =
            (.ok payload, d.next.2) ∧
          payload.rdropWhile (· == padding) = utf8 (valueName j)) ∧
      ∀ (data₁ data₂ : Bytes) (d₁ d₂ : Draws) (j₁ j₂ : ℕ), data₁.length = data₂.length →
        j₁ < c → j₂ < c → g.position d₁.next.1 = j₁ → g.position d₂.next.1 = j₂ →
        ((override (forFields cardinalities) (fieldName i) data₁ d₁).1 =
          (override (forFields cardinalities) (fieldName i) data₂ d₂).1 ↔ j₁ = j₂) := by
  have hg := get?_forFields hc hpos
  have hoverride (data : Bytes) (d : Draws) (j : ℕ) (hj : j < c)
      (hposition : (uniform c.toNat).position d.next.1 = j) :
      override (forFields cardinalities) (fieldName i) data d =
        (.ok (pad (utf8 (valueName j)) data), d.next.2) :=
    override_of_draw hg (draw_of_position (by omega) hposition) data
  have hstrip (data : Bytes) (j : ℕ) :
      (pad (utf8 (valueName j)) data).rdropWhile (· == padding) = utf8 (valueName j) :=
    rdropWhile_pad (padding_not_mem_utf8_valueName j)
  refine ⟨_, hg, ?_, ?_⟩
  · intro data d j hj hposition
    exact ⟨_, hoverride data d j hj hposition, hstrip data j⟩
  · intro data₁ data₂ d₁ d₂ j₁ j₂ hlength hj₁ hj₂ hposition₁ hposition₂
    rw [hoverride data₁ d₁ j₁ hj₁ hposition₁, hoverride data₂ d₂ j₂ hj₂ hposition₂]
    constructor
    · intro h
      have hvalues : utf8 (valueName j₁) = utf8 (valueName j₂) := by
        rw [← hstrip data₁ j₁, Except.ok.inj h, hstrip data₂ j₂]
      apply valueName_injective
      rw [← utf8Decode_utf8 (valueName j₁), hvalues, utf8Decode_utf8]
    · rintro rfl
      rw [pad_congr hlength]

/-- The values `value1` and `value10` are padded to one length, and stay apart. -/
theorem override_recoverable_prefixedValue :
    (override (forFields [0, 12]) (fieldName 1) [0, 1, 2, 3, 4, 5, 6, 7] { script := [0.125] }).1 ≠
        (override (forFields [0, 12]) (fieldName 1) [7, 6, 5, 4, 3, 2, 1, 0]
          { script := [0.875] }).1 ∧
      ∃ payload d, override (forFields [0, 12]) (fieldName 1) [7, 6, 5, 4, 3, 2, 1, 0]
          { script := [0.875] } = (.ok payload, d) ∧
        payload.rdropWhile (· == padding) = utf8 "value10" := by
  have hc : ([0, 12] : List ℤ)[1]? = some 12 := rfl
  obtain ⟨g, hg, hstrip, hsame⟩ := override_recoverable hc (by decide)
  obtain rfl : uniform 12 = g := Option.some.inj ((get?_forFields hc (by decide)).symm.trans hg)
  have hone : (uniform 12).position (Draws.next { script := [0.125] }).1 = 1 := by decide +kernel
  have hten : (uniform 12).position (Draws.next { script := [0.875] }).1 = 10 := by decide +kernel
  constructor
  · intro h
    have := (hsame _ _ _ _ 1 10 (by rfl) (by decide) (by decide) hone hten).mp h
    omega
  · obtain ⟨payload, hpayload, hvalue⟩ :=
      hstrip [7, 6, 5, 4, 3, 2, 1, 0] { script := [0.875] } 10 (by decide) hten
    exact ⟨payload, _, hpayload, hvalue⟩

end Payload

end LoadBinding
