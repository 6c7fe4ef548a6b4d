import LoadBinding.Proofs.Scanning
import LoadBinding.Proofs.Verification

/-!
# The limits of reads and scans

A scan for at least one record that succeeds returns at most as many records as it was asked for,
and a read or a scan for at least one field returns no field that it was not asked for, but for the
routing fields of a read.  This holds for documents of any kind, as far as they have each of their
fields once, and whatever faults the deployment shows (`Harness.answers_within_limits`).

The two limits say the opposite of what they should where they ask for nothing: the store takes a
limit of zero for none at all, and a projection without fields for all of them
(`Harness.nothing_asked_everything_returned`).
-/

namespace LoadBinding

open LoadBinding.Text LoadBinding.Action World Collection

/-! ## What a scan finds -/

lemma Cursor.length_limit_le {count : ℤ} (h : 1 ≤ count) (docs : List Document) :
    ((limit count docs).length : ℤ) ≤ count := by
  rw [limit_of_pos h]
  have hlength := List.length_take_le count.toNat docs
  omega

lemma Cursor.mem_of_mem_limit {count : ℤ} {docs : List Document} {doc : Document}
    (h : doc ∈ limit count docs) : doc ∈ docs := by
  unfold limit at h
  split at h
  · exact h
  · split at h
    · exact List.mem_of_mem_take h
    · exact List.mem_of_mem_take h

/-- What a filter selects fulfils it. -/
lemma Collection.mem_of_select {f : Filter} {rows found : List Row} (h : select f rows = .ok found)
    {row : Row} (hrow : row ∈ found) : row ∈ rows ∧ f.holds row.doc = .ok true := by
  induction rows generalizing found with
  | nil =>
    cases h
    cases hrow
  | cons first rest ih =>
    unfold select at h
    split at h
    · cases h
    · rename_i hits hfirst
      split at h
      · cases h
      · rename_i others hrest
        cases h
        have hothers (hmem : row ∈ others) : row ∈ first :: rest ∧ f.holds row.doc = .ok true :=
          (ih hrest hmem).imp_left (List.mem_cons_of_mem _)
        cases hits with
        | false => exact hothers hrow
        | true =>
          rcases List.mem_cons.mp hrow with rfl | hrow
          · exact ⟨List.mem_cons_self, hfirst⟩
          · exact hothers hrow

/-- A scan that succeeds returns the first parts of the documents that its filter finds. -/
lemma Target.scan_eq_ok {t : Target} {f : Filter} {p : Option Projection} {count : ℤ}
    {docs : List Document} {w w' : World} (h : exec (t.scan f p count) w = (.ok docs, w')) :
    ∃ found, (t.content w.cluster).find f p = .ok found ∧
      docs = Cursor.limit count (Cursor.sort found) := by
  unfold Target.scan at h
  obtain ⟨found, w₁, hfind, h⟩ := exec_bind_eq_ok h
  obtain ⟨-, w₂, -, h⟩ := exec_bind_eq_ok h
  obtain ⟨-, w₃, -, h⟩ := exec_bind_eq_ok h
  obtain ⟨iteration, w₄, -, h⟩ := exec_bind_eq_ok h
  obtain ⟨-, w₅, -, h⟩ := exec_bind_eq_ok h
  cases iteration with
  | error e => cases h
  | ok done =>
    cases h
    refine ⟨found, ?_, rfl⟩
    unfold Target.find at hfind
    obtain ⟨_, w₆, hrecord, hfind⟩ := exec_bind_eq_ok hfind
    obtain rfl := exec_record_eq_ok hrecord
    rw [exec_bind_of_ok (exec_get _)] at hfind
    cases hfound : (t.content w.cluster).find f p with
    | error e =>
      rw [World.noted_cluster, hfound] at hfind
      cases hfind
    | ok docs =>
      rw [World.noted_cluster, hfound] at hfind
      cases hfind
      rfl

lemma Collection.find_eq_ok {c : Collection} {f : Filter} {p : Option Projection}
    {found : List Document} (h : c.find f p = .ok found) {doc : Document} (hdoc : doc ∈ found) :
    ∃ row ∈ c.rows, f.holds row.doc = .ok true ∧ doc = Projection.apply p row.doc := by
  unfold find at h
  split at h
  · cases h
  · rename_i rows hselect
    cases h
    obtain ⟨row, hrow, rfl⟩ := List.mem_map.mp hdoc
    obtain ⟨hmem, hholds⟩ := mem_of_select hselect hrow
    exact ⟨row, hmem, hholds, rfl⟩

/-! ## Fields -/

namespace Projection

variable {p : Projection} {doc : Document} {field : String}

/-- What a read returns of a projection are fields of the projection. -/
lemma has_of_mem_recordOf (hp : p ≠ [])
    (hfield : field ∈ (Context.recordOf (apply (some p) doc)).keys) : p.has field = true := by
  match p, hp with
  | pair :: rest, _ =>
    unfold Context.recordOf at hfield
    rw [Mapping.keys_mapValues] at hfield
    obtain ⟨found, hfound, rfl⟩ := List.mem_map.mp hfield
    obtain ⟨hincluded, hid⟩ := List.mem_filter.mp hfound
    have hincluded := (List.mem_filter.mp hincluded).2
    rw [bne_iff_ne, ne_eq, ← beq_iff_eq, Bool.not_eq_true] at hid
    rwa [hid, Bool.false_or] at hincluded

/-- What a scan returns of a projection are fields of the projection, if the key is a text. -/
lemma has_of_mem_bytesOf (hp : p ≠ []) (hkey : HasTextKey doc) (hkeys : doc.keys.Nodup)
    (hfield : field ∈ (Context.bytesOf (apply (some p) doc)).keys) : p.has field = true := by
  rw [bytesOf_apply (fun h => hp (Option.some.inj h)) hkey hkeys] at hfield
  obtain ⟨pair, hpair, rfl⟩ := List.mem_map.mp hfield
  obtain ⟨found, hfound, hbytes⟩ := List.mem_filterMap.mp hpair
  obtain ⟨-, hincluded⟩ := List.mem_filter.mp hfound
  obtain ⟨b, -, rfl⟩ := Option.map_eq_some_iff.mp hbytes
  exact hincluded

end Projection

/-- The filter of a scan finds documents whose keys are texts, whatever the field of the location
is. -/
lemma Settings.hasTextKey_of_scanFilter {s : Settings} {first : String} {doc : Document}
    (h : (s.scanFilter first).holds doc = .ok true) : HasTextKey doc := by
  by_cases hid : s.location.isEmpty = false → s.locationField ≠ idField
  · rw [scanFilter_eq hid] at h
    unfold Filter.holds at h
    cases hget : doc.get? idField with
    | none =>
      rw [hget] at h
      cases h
    | some v =>
      rw [hget] at h
      cases v with
      | text key => exact ⟨key, hget⟩
      | _ => cases h
  · obtain ⟨hlocation, hid⟩ := Classical.not_imp.mp hid
    rw [ne_eq, not_not] at hid
    refine ⟨s.location, get?_of_holds h ?_⟩
    unfold scanFilter
    dsimp only
    rw [hlocation, hid]
    exact List.mem_singleton_self _

/-! ## Reading and scanning -/

namespace Context

variable {c : Context} {s : Settings} {w : World}

/-- A scan that succeeds returns the first parts of the documents that its filter finds. -/
lemma scan_eq_ok (hc : c.Serves s) {name first : String} {count : ℤ}
    {fields : Option (List String)}
    (hok : ((c.scan name first count fields).run w).1.1.status = .ok) :
    ∃ docs,
      ((c.scan name first count fields).run w).1.1.data =
        some ((Cursor.limit count docs).map bytesOf) ∧
      ∀ doc ∈ docs, ∃ row ∈ w.rows s.database name,
        (s.scanFilter first).holds row.doc = .ok true ∧
          doc = Projection.apply (fields.map Projection.ofFields) row.doc := by
  obtain ⟨t, ht⟩ := hc.exists_reaches name
  unfold scan at hok ⊢
  rw [next_eq] at hok ⊢
  dsimp only at hok ⊢
  rw [settings_advance, run_bind, run_attempt] at hok ⊢
  cases hf : w.faults.get? (lookUpAddress name) with
  | some f =>
    rw [exec_bind_of_error (exec_table_of_fault ht hf)] at hok
    cases hok
  | none =>
    rw [exec_bind_of_ok (exec_table_of_no_fault ht hf), hc.settings] at hok ⊢
    cases hrun : exec (t.scan (s.scanFilter first) (fields.map Projection.ofFields) count)
        (w.lookedUp t) with
    | mk found w₁ =>
      rw [hrun] at hok
      rcases found with e | _ | ⟨doc, rest⟩
      · cases hok
      · cases hok
      · obtain ⟨docs, hfind, hdocs⟩ := Target.scan_eq_ok hrun
        refine ⟨Cursor.sort docs, ?_, fun doc hdoc => ?_⟩
        · rw [← hdocs]
          rfl
        · have hmem := (Cursor.sorts_sort docs).perm.mem_iff.mp hdoc
          obtain ⟨row, hrow, hholds, happly⟩ := Collection.find_eq_ok hfind hmem
          refine ⟨row, ?_, hholds, happly⟩
          rw [← hc.database_eq ht, ← ht.collection_eq, ← rows_lookedUp w t]
          exact hrow

/-- A scan returns at most as many records as it was asked for, with fields that it was asked
for. -/
lemma scan_within (hc : c.Serves s) {name first : String} {count : ℤ}
    {fields : Option (List String)}
    (hkeys : ∀ row ∈ w.rows s.database name, row.doc.keys.Nodup)
    (hok : ((c.scan name first count fields).run w).1.1.status = .ok) :
    ∃ records, ((c.scan name first count fields).run w).1.1.data = some records ∧
      (1 ≤ count → (records.length : ℤ) ≤ count) ∧
      ∀ names, fields = some names → names ≠ [] →
        ∀ record ∈ records, ∀ field ∈ record.keys, field ∈ names := by
  obtain ⟨docs, hdata, hdocs⟩ := scan_eq_ok hc hok
  refine ⟨_, hdata, fun hcount => ?_, fun names hfields hnames record hrecord field hfield => ?_⟩
  · rw [List.length_map]
    exact Cursor.length_limit_le hcount docs
  · subst hfields
    obtain ⟨doc, hdoc, rfl⟩ := List.mem_map.mp hrecord
    obtain ⟨row, hrow, hholds, rfl⟩ := hdocs doc (Cursor.mem_of_mem_limit hdoc)
    have hp : Projection.ofFields names ≠ [] := fun hnil =>
      scanProjection_ne_nil (fun h => hnames (Option.some.inj h)) (congrArg some hnil)
    have hhas := Projection.has_of_mem_bytesOf hp (Settings.hasTextKey_of_scanFilter hholds)
      (hkeys row hrow) hfield
    rw [has_ofFields] at hhas
    exact List.contains_iff_mem.mp hhas

/-- A read returns fields that it was asked for, and routing fields. -/
lemma read_within (hc : c.Serves s) {name key : String} {names : List String}
    (hasked : names ≠ [] ∨ s.routing key ≠ [])
    (hok : ((c.read name key (some names)).run w).1.1.status = .ok) :
    ∃ record, ((c.read name key (some names)).run w).1.1.data = some record ∧
      ∀ field ∈ record.keys, field ∈ names ∨ field ∈ (s.routing key).keys := by
  obtain ⟨t, ht⟩ := hc.exists_reaches name
  obtain ⟨row, -, -, hdata⟩ := read_eq_ok hc ht hok
  refine ⟨_, hdata, fun field hfield => ?_⟩
  have hhas := has_readProjection s key (some names)
  cases hprojection : s.readProjection (some names) with
  | none => cases hprojection
  | some p =>
    rw [hprojection] at hfield hhas
    have hp : p ≠ [] := fun hnil =>
      readProjection_ne_nil_of_asked hasked (hprojection.trans (congrArg some hnil))
    have hfield := Projection.has_of_mem_recordOf hp hfield
    rw [congrFun (Option.some.inj hhas) field, Bool.or_eq_true] at hfield
    exact hfield.imp List.contains_iff_mem.mp Mapping.has_eq_true_iff.mp

end Context

/-- The records that an answer holds. -/
def Answer.found : Answer → List (Mapping Bytes)
  | .record o => o.data.toList
  | .records o => o.data.getD []
  | _ => []

namespace Harness

section Limits

variable {cluster : Cluster} {draws : Draws} {faults : Faults} {provider : String}
  {bags : Mapping Bag} {requests : List Request} {h : Harness} {name : String} {w : Worker}
  {active : Active} {c : Context}

/-- Whatever has been done before, whatever documents are stored, with each field once, and whatever
faults the deployment shows: a scan for at least one record that succeeds returns at most as many
records as it was asked for, a scan for at least one field returns no other fields, and a read that
asks for a field, or has a routing field, returns no fields but these. -/
theorem answers_within_limits
    (hrun : ((start cluster draws faults provider bags).run requests).2 = h)
    (hw : h.Holds name w active c) (table : String)
    (hkeys : ∀ row ∈ h.world.rows c.settings.database table, row.doc.keys.Nodup) :
    (∀ first count fields outcome,
      (h.step (.scan name table first count fields)).1 = .ok (.records outcome) →
      outcome.status = .ok → ∃ records, outcome.data = some records ∧
        (1 ≤ count → (records.length : ℤ) ≤ count) ∧
        ∀ names, fields = some names → names ≠ [] →
          ∀ record ∈ records, ∀ field ∈ record.keys, field ∈ names) ∧
    ∀ key names outcome,
      (h.step (.read name table key (some names))).1 = .ok (.record outcome) →
      outcome.status = .ok → names ≠ [] ∨ c.settings.routing key ≠ [] →
        ∃ record, outcome.data = some record ∧
          ∀ field ∈ record.keys, field ∈ names ∨ field ∈ (c.settings.routing key).keys := by
  obtain ⟨hserves, -⟩ := (hrun ▸ steady_true _ _ _ _ _ _ : h.Steady _ _).serves_of_holds hw
  refine ⟨fun first count fields outcome hanswer hok => ?_,
    fun key names outcome hanswer hok hasked => ?_⟩
  · rw [step_of_operation rfl hw] at hanswer
    have houtcome : ((c.scan table first count fields).run h.world).1.1 = outcome :=
      Answer.records.inj (Except.ok.inj hanswer)
    subst houtcome
    exact Context.scan_within hserves hkeys hok
  · rw [step_of_operation rfl hw] at hanswer
    have houtcome : ((c.read table key (some names)).run h.world).1.1 = outcome :=
      Answer.record.inj (Except.ok.inj hanswer)
    subst houtcome
    exact Context.read_within hserves hasked hok

end Limits

/-- An answer with a status is the answer to a request that did not fail. -/
lemma exists_answer_of_status {result : Except Failure Answer} {status : Status}
    (h : result.toOption.bind Answer.status? = some status) :
    ∃ answer, result = .ok answer ∧ answer.status? = some status := by
  cases result with
  | error e => cases h
  | ok answer => exact ⟨answer, rfl, h⟩

/-- A scan that is answered is answered with records. -/
lemma exists_records_of_step_scan {h : Harness} {name table first : String} {count : ℤ}
    {fields : Option (List String)} {answer : Answer}
    (ha : (h.step (.scan name table first count fields)).1 = .ok answer) :
    ∃ outcome, answer = .records outcome := by
  obtain ⟨w, active, c, hw⟩ := exists_holds_of_step rfl ha
  rw [step_of_operation rfl hw] at ha
  exact ⟨_, (Except.ok.inj ha).symm⟩

/-- A table with one record, of two fields and a shard key. -/
def shardedTable : Cluster :=
  ({} : Cluster).setCollection "ycsb" "t"
    { rows := [rowOf [(idField, .text "1"), ("f", .bytes [1]), ("g", .bytes [2]),
        ("shard", .text "1")]] }

/-- A worker whose records carry a shard key. -/
def shardedWorker : Harness :=
  ((start shardedTable {} [] "p" [("a", [("mongodb.shardKey", .text "shard")])]).run
    [.init "a"]).2

/-- A scan for one record and one field, and a read for none but the shard key. -/
theorem answers_within_limits_shardedWorker :
    (∃ outcome records,
      (shardedWorker.step (.scan "a" "t" "1" 1 (some ["f"]))).1 = .ok (.records outcome) ∧
      outcome.status = .ok ∧ outcome.data = some records ∧ (records.length : ℤ) ≤ 1 ∧
      ∀ record ∈ records, ∀ field ∈ record.keys, field ∈ ["f"]) ∧
    ∃ outcome record,
      (shardedWorker.step (.read "a" "t" "1" (some []))).1 = .ok (.record outcome) ∧
      outcome.status = .ok ∧ outcome.data = some record ∧
      ∀ field ∈ record.keys, field = "shard" := by
  have hl : Launched shardedTable {} [] "p" [("a", [("mongodb.shardKey", .text "shard")])]
      shardedWorker := by
    unfold shardedWorker
    exact launched_of_isOk (show ["a"].Nodup by decide) (by decide +kernel)
  obtain ⟨c, hshares, hopened⟩ := hl.shares_opened
  obtain ⟨bag, hw⟩ := hshares.holds (List.mem_singleton_self "a")
  have hsettings : (Settings.resolve [("mongodb.shardKey", .text "shard")]).1.value?.map (fun s =>
      (s.shardKey, s.location, s.database)) = some ("shard", "", "ycsb") := by
    decide +kernel
  simp only [hopened.settings, Reading.value?_ok, Option.map_some, Option.some.injEq,
    Prod.mk.injEq] at hsettings
  obtain ⟨hshard, hlocation, hdatabase⟩ := hsettings
  have hrouting : c.settings.routing "1" = [("shard", "1")] := by
    unfold Settings.routing
    rw [hshard, hlocation]
    rfl
  have hkeys : ∀ row ∈ shardedWorker.world.rows c.settings.database "t", row.doc.keys.Nodup := by
    rw [hdatabase]
    decide +kernel
  obtain ⟨hscan, hread⟩ := answers_within_limits (h := shardedWorker) rfl hw "t" hkeys
  constructor
  · have hscanned : (shardedWorker.step
        (.scan "a" "t" "1" 1 (some ["f"]))).1.toOption.bind Answer.status? = some .ok := by
      decide +kernel
    obtain ⟨answer, hanswer, hstatus⟩ := exists_answer_of_status hscanned
    obtain ⟨outcome, rfl⟩ := exists_records_of_step_scan hanswer
    have hok : outcome.status = .ok := Option.some.inj hstatus
    obtain ⟨records, hdata, hlength, hfields⟩ := hscan "1" 1 (some ["f"]) outcome hanswer hok
    exact ⟨outcome, records, hanswer, hok, hdata, hlength le_rfl, hfields ["f"] rfl (by decide)⟩
  · have hread' : (shardedWorker.step
        (.read "a" "t" "1" (some []))).1.toOption.bind Answer.status? = some .ok := by
      decide +kernel
    obtain ⟨answer, hanswer, hstatus⟩ := exists_answer_of_status hread'
    obtain ⟨outcome, rfl⟩ := exists_record_of_step_read hanswer
    have hok : outcome.status = .ok := Option.some.inj hstatus
    obtain ⟨record, hdata, hfields⟩ := hread "1" [] outcome hanswer hok
      (.inr (by rw [hrouting]; decide))
    rw [hrouting] at hfields
    refine ⟨outcome, record, hanswer, hok, hdata, fun field hfield => ?_⟩
    simpa [Mapping.keys] using hfields field hfield

/-- A worker without routing fields, with one record. -/
def plainWorker : Harness :=
  ((start {} {} [] "p" [("a", [])]).run [.init "a", .insert "a" "t" "1" [("f", utf8 "x")]]).2

/-- A scan for no records finds one, and a scan and a read for no fields return a field. -/
theorem nothing_asked_everything_returned :
    ([.scan "a" "t" "1" 0 none, .scan "a" "t" "1" 1 (some []), .read "a" "t" "1" (some [])].map
      fun request => (plainWorker.step request).1.toOption.bind Answer.status?) =
        [some .ok, some .ok, some .ok] ∧
    ([.scan "a" "t" "1" 0 none, .scan "a" "t" "1" 1 (some []), .read "a" "t" "1" (some [])].map
      fun request => (plainWorker.step request).1.toOption.map Answer.found) =
        [some [[("f", utf8 "x")]], some [[("f", utf8 "x")]], some [[("f", utf8 "x")]]] := by
  decide +kernel

end Harness

end LoadBinding
