import LoadBinding.Proofs.Compressing
import LoadBinding.Proofs.Overriding

/-!
# The shape of prepared payloads

A number of bytes to keep that is not negative says how long a leading part of a payload becomes
filler: all bytes but those, and none if there are not as many (`Payload.filled`).  What is left of
the payload stays where it is, so the length does not change and a second compression by the same
ratio finds its filler in place (`Payload.compress_filled`).

`Payload.prepare_shape` puts this behind the step that overrides payloads, and in front of the one
that encodes them.
-/

namespace LoadBinding

open LoadBinding.Text

namespace Payload

variable {data : Bytes} {keep : ℤ} {ratio : Float}

/-- How many leading bytes become filler when `keep` out of `length` are kept. -/
def fillCount (length : ℕ) (keep : ℤ) : ℕ :=
  (max 0 (length - keep)).toNat

/-- A payload of which all but the last `keep` bytes are filler. -/
def filled (data : Bytes) (keep : ℤ) : Bytes :=
  List.replicate (fillCount data.length keep) filler ++ data.drop (fillCount data.length keep)

lemma fillCount_le (length : ℕ) (hkeep : 0 ≤ keep) : fillCount length keep ≤ length := by
  unfold fillCount
  omega

lemma fill_eq_filled (hkeep : 0 ≤ keep) : fill data keep = .ok (filled data keep) := by
  have hcount : (data.length - keep).toNat = fillCount data.length keep := by
    unfold fillCount
    omega
  rw [fill_of_nonneg hkeep, hcount, filled]

lemma length_filled (hkeep : 0 ≤ keep) : (filled data keep).length = data.length := by
  have hle := fillCount_le data.length hkeep
  rw [filled, List.length_append, List.length_replicate, List.length_drop]
  omega

/-- Filler takes the place of filler. -/
lemma filled_filled (hkeep : 0 ≤ keep) : filled (filled data keep) keep = filled data keep := by
  have hdrop : (filled data keep).drop (fillCount data.length keep) =
      data.drop (fillCount data.length keep) :=
    List.drop_left' List.length_replicate
  rw [filled, length_filled hkeep, hdrop]
  rfl

lemma compress_eq_filled (hkeep : keepCount data.length ratio = .ok keep) (hnonneg : 0 ≤ keep) :
    compress data ratio = .ok (filled data keep) := by
  unfold compress
  rw [hkeep]
  exact fill_eq_filled hnonneg

/-- Compressing by the same ratio once more changes nothing. -/
lemma compress_filled (hkeep : keepCount data.length ratio = .ok keep) (hnonneg : 0 ≤ keep) :
    compress (filled data keep) ratio = .ok (filled data keep) := by
  have hkeep' : keepCount (filled data keep).length ratio = .ok keep := by
    rw [length_filled hnonneg]
    exact hkeep
  rw [compress_eq_filled hkeep' hnonneg, filled_filled hnonneg]

lemma prepare_of_compress {generators : Mapping Discrete} {field : String} {payload stored : Bytes}
    {d d' : Draws} (hpayload : override generators field data d = (.ok payload, d'))
    (hstored : compress payload ratio = .ok stored) (encoding : Encoding) :
    prepare generators ratio encoding field data d = (.ok (encode stored encoding), d') := by
  unfold prepare
  rw [hpayload]
  dsimp only
  rw [hstored]
  rfl

/-- What is stored for a payload, if the number of bytes to keep is one that is not negative.  The
payload, or a drawn value that is padded to its length, keeps its length: `c` filling bytes come in
place of the first `c`.  Compressing this again changes nothing.  It is stored as it is, or as the
text that it decodes to. -/
theorem prepare_shape {generators : Mapping Discrete} {field : String} {payload : Bytes}
    {d d' : Draws} (hpayload : override generators field data d = (.ok payload, d'))
    (hkeep : keepCount payload.length ratio = .ok keep) (hnonneg : 0 ≤ keep) :
    (∃ (c : ℕ) (stored : Bytes), (c : ℤ) = max 0 (payload.length - keep) ∧
        stored = List.replicate c filler ++ payload.drop c ∧ stored.length = payload.length ∧
        compress payload ratio = .ok stored ∧ compress stored ratio = .ok stored ∧
        prepare generators ratio .binary field data d = (.ok (.bytes stored), d') ∧
        prepare generators ratio .string field data d = (.ok (.text (utf8Decode stored)), d')) ∧
      (generators.get? field = none → payload = data) ∧
      ∀ g, generators.get? field = some g → ∃ value, g.draw d = (.ok value, d') ∧
        payload.length = max data.length (utf8 value).length ∧
        payload = utf8 value ++ List.replicate (payload.length - (utf8 value).length) padding := by
  refine ⟨⟨fillCount payload.length keep, filled payload keep, ?_, rfl, length_filled hnonneg,
    compress_eq_filled hkeep hnonneg, compress_filled hkeep hnonneg,
    prepare_of_compress hpayload (compress_eq_filled hkeep hnonneg) .binary,
    prepare_of_compress hpayload (compress_eq_filled hkeep hnonneg) .string⟩, ?_⟩
  · exact Int.toNat_of_nonneg (le_max_left _ _)
  · rcases override_eq_ok hpayload with ⟨hnone, rfl⟩ | ⟨g, value, hg, hdraw, rfl⟩
    · refine ⟨fun _ => rfl, fun g hg => ?_⟩
      rw [hnone] at hg
      cases hg
    · refine ⟨fun hnone => ?_, fun g' hg' => ?_⟩
      · rw [hg] at hnone
        cases hnone
      · obtain rfl : g = g' := Option.some.inj (hg.symm.trans hg')
        exact ⟨value, hdraw, length_pad, pad_eq⟩

/-- The value `value1` is padded to eight bytes, of which a ratio of two leaves the last four. -/
theorem prepare_shape_paddedValue :
    keepCount 8 2.0 = .ok 4 ∧ (0 : ℤ) ≤ 4 ∧
      ∃ d', override (Discrete.forFields [0, 12]) (Discrete.fieldName 1) [0, 1, 2, 3, 4, 5, 6, 7]
            { script := [0.125] } = (.ok [118, 97, 108, 117, 101, 49, 120, 120], d') ∧
        prepare (Discrete.forFields [0, 12]) 2.0 .binary (Discrete.fieldName 1)
            [0, 1, 2, 3, 4, 5, 6, 7] { script := [0.125] } =
          (.ok (.bytes [97, 97, 97, 97, 101, 49, 120, 120]), d') := by
  have hkeep : keepCount 8 2.0 = .ok 4 := by
    have hoption : (keepCount 8 2.0).toOption = some 4 := by decide +kernel
    cases h : keepCount 8 2.0 with
    | error e => simp [h, Except.toOption] at hoption
    | ok keep =>
      rw [h] at hoption
      exact congrArg Except.ok (Option.some.inj hoption)
  have hg : (Discrete.forFields [0, 12]).get? (Discrete.fieldName 1) =
      some (Discrete.uniform 12) :=
    Discrete.get?_forFields (c := 12) rfl (by decide)
  have hposition : (Discrete.uniform 12).position (Draws.next { script := [0.125] }).1 = 1 := by
    decide +kernel
  have hpayload := override_of_draw hg (Discrete.draw_of_position (by decide) hposition)
    [0, 1, 2, 3, 4, 5, 6, 7]
  have hpad : pad (utf8 (Discrete.valueName 1)) [0, 1, 2, 3, 4, 5, 6, 7] =
      [118, 97, 108, 117, 101, 49, 120, 120] := by
    decide +kernel
  rw [hpad] at hpayload
  obtain ⟨⟨c, stored, hc, hstored, -, -, -, hbinary, -⟩, -, -⟩ :=
    prepare_shape hpayload hkeep (by decide)
  obtain rfl : c = 4 := Int.ofNat_inj.mp hc
  subst hstored
  exact ⟨hkeep, by decide, _, hpayload, hbinary⟩

end Payload

end LoadBinding
