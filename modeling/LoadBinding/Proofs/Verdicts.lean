import LoadBinding.Proofs.Execution
import LoadBinding.Proofs.Sequences
import LoadBinding.Record.Verifier

/-!
# Verdicts on rows

A cell that holds a text is the text or exactly its UTF-8 bytes (`Cell.Holds`).  The verifier
compares texts, so bytes are decoded first, and malformed parts of them turn into U+FFFD.  A text
with U+FFFD in it is therefore also shown by malformed bytes, and by nothing else that does not hold
it (`Cell.text?_eq_some_iff`).

So a row is accepted if and only if its routing cells show what they must (`RowVerifier.Accepts`,
`RowVerifier.status_verify`).  For texts without U+FFFD they then hold it; a key that is U+FFFD is
taken for a cell with the byte `0xFF` (`RowVerifier.malformed_key_accepted`).
-/

namespace LoadBinding

open LoadBinding.Text

/-! ## Cells -/

namespace Cell

variable {cell : Cell} {expected : String}

/-- A cell is a text, or exactly its UTF-8 bytes. -/
def Holds (cell : Cell) (expected : String) : Prop :=
  cell = .text expected ∨ cell = .bytes (utf8 expected)

/-- A cell holds a text, or its malformed bytes decode to the text, which then has U+FFFD in it. -/
def Shows (cell : Cell) (expected : String) : Prop :=
  cell.Holds expected ∨
    replacement ∈ expected.toList ∧
      ∃ b, cell = .bytes b ∧ ¬ Sequences b ∧ utf8Decode b = expected

/-- Bytes decode to a text if they are its own, or malformed and the text has U+FFFD in it. -/
lemma utf8Decode_eq_iff {b : Bytes} :
    utf8Decode b = expected ↔
      b = utf8 expected ∨
        replacement ∈ expected.toList ∧ ¬ Sequences b ∧ utf8Decode b = expected := by
  constructor
  · intro h
    by_cases hb : Sequences b
    · left
      rw [← h, (utf8_utf8Decode_eq_iff b).mpr hb]
    · right
      refine ⟨?_, hb, h⟩
      by_contra hnone
      apply hb
      rw [eq_utf8_of_decode h hnone]
      exact sequences_utf8 expected
  · rintro (rfl | ⟨-, -, h⟩)
    · exact utf8Decode_utf8 expected
    · exact h

/-- The text of a cell is the one that the cell shows. -/
lemma text?_eq_some_iff : cell.text? = some expected ↔ cell.Shows expected := by
  unfold Shows Holds
  cases cell with
  | bytes b => simpa [text?] using utf8Decode_eq_iff
  | text s => simp [text?]
  | null => simp [text?]

end Cell

/-! ## Rows -/

namespace RowVerifier

variable (v : RowVerifier) (key : String) (cells : Mapping Cell)

/-- The routing cells of a row agree with what they must be, as far as they are checked. -/
def Accepts (agrees : Cell → String → Prop) : Prop :=
  (v.location = "" ∨
      ∃ cell, cells.get? v.locationField = some cell ∧ agrees cell v.location) ∧
    (v.shardKey = "" ∨ ∃ cell, cells.get? v.shardKey = some cell ∧ agrees cell key)

lemma complaint?_eq_none_iff {what expected : String} {got : Option String} :
    complaint? what expected got = none ↔ got = some expected := by
  unfold complaint?
  split
  · simp_all
  · simp_all

/-- A field is not complained about if its cell shows what it must. -/
lemma complaint?_cellText?_eq_none_iff (what : String) {expected field : String} :
    complaint? what expected (cellText? cells field) = none ↔
      ∃ cell, cells.get? field = some cell ∧ cell.Shows expected := by
  rw [complaint?_eq_none_iff, cellText?, Option.bind_eq_some_iff]
  simp only [Cell.text?_eq_some_iff]

lemma complaints_eq_nil_iff :
    v.complaints key cells = [] ↔ v.Accepts key cells Cell.Shows := by
  unfold complaints Accepts
  rw [List.append_eq_nil_iff, Option.toList_eq_nil_iff, Option.toList_eq_nil_iff]
  refine and_congr ?_ ?_
  · rw [← complaint?_cellText?_eq_none_iff _ "location"]
    split <;> simp_all
  · rw [← complaint?_cellText?_eq_none_iff _ "shard key"]
    split <;> simp_all

/-- A row with cells is an unexpected state as soon as there is a complaint about it. -/
lemma status_verify_of_ne_nil (hcells : cells ≠ []) (w : World) :
    ((v.verify key cells).run w).1.status =
      if v.complaints key cells = [] then .ok else .unexpectedState := by
  have hempty : cells.isEmpty = false := List.isEmpty_eq_false_iff.mpr hcells
  unfold verify
  rw [hempty]
  cases v.complaints key cells with
  | nil => rfl
  | cons complaint complaints => rfl

/-- An empty row is an error, a row whose routing cells show what they must is accepted, and every
other row is an unexpected state. -/
theorem status_verify (w : World) :
    (((v.verify key cells).run w).1.status = .error ↔ cells = []) ∧
      (((v.verify key cells).run w).1.status = .ok ↔
        cells ≠ [] ∧ v.Accepts key cells Cell.Shows) ∧
      (((v.verify key cells).run w).1.status = .unexpectedState ↔
        cells ≠ [] ∧ ¬ v.Accepts key cells Cell.Shows) := by
  rw [← complaints_eq_nil_iff]
  by_cases hcells : cells = []
  · subst hcells
    have hstatus : ((v.verify key []).run w).1.status = .error := rfl
    simp [hstatus]
  · rw [v.status_verify_of_ne_nil key cells hcells w]
    by_cases hcomplaints : v.complaints key cells = []
    · simp [hcells, hcomplaints]
    · simp [hcells, hcomplaints]

/-- A row with a byte that no text has for a shard key. -/
def malformedRow : Mapping Cell :=
  [("user_id", .bytes [0xFF]), ("location", .bytes (utf8 "US"))]

/-- The row is accepted for a key that is U+FFFD, although its cell does not hold the key. -/
theorem malformed_key_accepted :
    ((({} : RowVerifier).verify "\uFFFD" malformedRow).run {}).1.status = .ok ∧
      ¬ ({} : RowVerifier).Accepts "\uFFFD" malformedRow Cell.Holds := by
  refine ⟨by decide +kernel, ?_⟩
  rintro ⟨-, hempty | ⟨cell, hcell, htext | hbytes⟩⟩
  · exact absurd hempty (by decide)
  · rw [htext] at hcell
    exact absurd hcell (by decide +kernel)
  · rw [hbytes] at hcell
    exact absurd hcell (by decide +kernel)

end RowVerifier

end LoadBinding
