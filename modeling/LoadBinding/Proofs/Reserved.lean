import LoadBinding.Proofs.Updating

/-!
# Reserved fields

Two fields of a document are not for payloads: that of the key and that of the marker.  An insertion
writes the key before the payload, and an update the marker, so a payload that names one of the two
replaces it.  As long as none does, every document that is written can be traced back to an
insertion and to updates (`Settings.Stems`) and holds the key of its insertion, no update changes
the key of a document, and an update that is acknowledged leaves the marker that it has drawn
(`Harness.reserved_fields_kept`).
-/

namespace LoadBinding

open LoadBinding.Text LoadBinding.Action World Batch Collection

/-! ## Where documents come from -/

namespace Settings

variable {s : Settings} {requests : List Request} {table key : String} {doc : Document}

/-- A document was built by an insertion for a key into a table, and then changed by updates of the
table; all of them are among some requests. -/
inductive Stems (s : Settings) (requests : List Request) (table key : String) : Document → Prop
  | built {name : String} {values : Mapping Bytes} {draws : Draws} {doc : Document}
      (requested : .insert name table key values ∈ requests)
      (built : (s.documentOf key values draws).1 = .ok doc) : Stems s requests table key doc
  | updated {name key' : String} {values : Mapping Bytes} {doc changes : Document}
      (stems : Stems s requests table key doc)
      (requested : .update name table key' values ∈ requests)
      (set : s.Changes values changes) : Stems s requests table key (doc.update changes)

variable {values : Mapping Bytes} {changes : Document}

/-- An update whose payload does not name the field of the key leaves the key. -/
lemma Changes.get?_update_idField (h : s.Changes values changes) (hvalues : idField ∉ values.keys)
    (doc : Document) : (doc.update changes).get? idField = doc.get? idField := by
  have hnone : changes.get? idField = none := h.get?_eq_none (by decide) (.inr hvalues)
  exact Mapping.get?_update_of_not_mem (Mapping.not_mem_keys_of_get?_eq_none hnone)

/-- A document holds the key of its insertion, if no payload names the field of the key. -/
lemma Stems.get?_idField (h : s.Stems requests table key doc)
    (hlocation : s.location.isEmpty = false → s.locationField ≠ idField)
    (hr : ∀ request ∈ requests, request.SparesKey) : doc.get? idField = some (.text key) := by
  induction h with
  | built requested built => exact get?_documentOf hlocation (hr _ requested) built
  | updated _ requested set ih =>
    exact (set.get?_update_idField (hr _ requested) _).trans ih

/-- A row is one of a table as it was, under the same key and with the same key in its document, or
it is stored under the key of the insertion that its document stems from. -/
def Traces (s : Settings) (requests : List Request) (w : World) (database table : String)
    (row : Row) : Prop :=
  (∃ old ∈ w.rows database table,
      row.key = old.key ∧ row.doc.get? idField = old.doc.get? idField) ∨
    database = s.database ∧ ∃ key, s.Stems requests table key row.doc ∧ row.key = .text key

/-- Requests uphold that rows and buffered documents can be traced back. -/
lemma upholds_traces (hlocation : s.location.isEmpty = false → s.locationField ≠ idField)
    (hr : ∀ request ∈ requests, request.SparesKey) (w : World) {request : Request}
    (hmem : request ∈ requests) :
    request.Upholds s (s.Traces requests w)
      fun table doc => ∃ key, s.Stems requests table key doc where
  built heq hdoc := ⟨_, .built (heq ▸ hmem) hdoc⟩
  stored hdoc := by
    obtain ⟨key, hstems⟩ := hdoc
    refine .inr ⟨rfl, key, hstems, ?_⟩
    rw [rowOf, keyOf, hstems.get?_idField hlocation hr, Option.getD_some]
  updated heq hrow hchanges := by
    subst heq
    rcases hrow with ⟨old, hold, hkey, hid⟩ | ⟨hdatabase, key, hstems, hkey⟩
    · exact .inl ⟨old, hold, hkey, (hchanges.get?_update_idField (hr _ hmem) _).trans hid⟩
    · exact .inr ⟨hdatabase, key, hstems.updated hmem hchanges, hkey⟩

end Settings

/-! ## Updates -/

/-- Changes that do not name the field of the key leave the keys of all rows. -/
lemma World.Sets.keys_eq {database table : String} {f : Filter} {changes : Document}
    {w w' : World} (h : Sets database table f changes w w')
    (hchanges : idField ∉ Mapping.keys changes) (d t : String) :
    (w'.rows d t).map (fun row => (row.key, row.doc.get? idField)) =
      (w.rows d t).map fun row => (row.key, row.doc.get? idField) := by
  by_cases hplace : d = database ∧ t = table
  · obtain ⟨rfl, rfl⟩ := hplace
    obtain ⟨before, row, after, hrows, -, -, hrows'⟩ := h.row
    rw [hrows, hrows', List.map_append, List.map_append, List.map_cons, List.map_cons,
      Mapping.get?_update_of_not_mem hchanges]
  · rw [h.others d t hplace]

namespace Harness

variable {h : Harness} {name table key : String} {values : Mapping Bytes}

/-- No update changes the key of a document, if its payload does not name the field of the key. -/
lemma keys_step_update {W : World → Prop} {B : Settings → Batch → Prop} (hs : h.Steady W B)
    (hvalues : idField ∉ values.keys) (d t : String) :
    ((h.step (.update name table key values)).2.world.rows d t).map
        (fun row => (row.key, row.doc.get? idField)) =
      (h.world.rows d t).map fun row => (row.key, row.doc.get? idField) := by
  by_cases hw : ∃ w active c, h.Holds name w active c
  · obtain ⟨w, active, c, hw⟩ := hw
    rw [step_of_operation rfl hw]
    rcases c.update_cases (hs.serves_of_holds hw).1 table key values h.world with
      ⟨-, hsame⟩ | ⟨changes, hprepared, hsets, -, -⟩
    · exact congrArg _ (hsame d t)
    · have hchanges : c.settings.Changes values changes := ⟨_, _, hprepared⟩
      have hnone : changes.get? idField = none :=
        hchanges.get?_eq_none (by decide) (.inr hvalues)
      exact hsets.keys_eq (Mapping.not_mem_keys_of_get?_eq_none hnone) d t
  · rw [step_of_not_holds rfl fun w active c hw' => hw ⟨w, active, c, hw'⟩]
    rfl

/-- Whatever workers that were launched do with records, and whatever faults the deployment shows,
as long as no payload names the field of the key: every row that was not there at the launch stems
from an insertion and holds the key of the insertion.  An update leaves the keys of all documents,
if its payload does not name their field; and if it is acknowledged and its payload does not name
the field of the marker, the document holds the marker that the update has drawn. -/
theorem reserved_fields_kept {cluster : Cluster} {draws : Draws} {faults : Faults}
    {provider first : String} {bag : Bag} {others : Mapping Bag} {s : Settings}
    (hl : Launched cluster draws faults provider ((first, bag) :: others) h)
    (hs : (Settings.resolve bag).1 = .ok s)
    (hlocation : s.location.isEmpty = false → s.locationField ≠ idField)
    {requests : List Request} (hr : ∀ request ∈ requests, request.OnRecords) {h' : Harness}
    (hrun : (h.run requests).2 = h') :
    (∀ database table, ∀ row ∈ h'.world.rows database table,
      (∃ old ∈ h.world.rows database table,
        row.key = old.key ∧ row.doc.get? idField = old.doc.get? idField) ∨
      database = s.database ∧ ∃ key, s.Stems requests table key row.doc ∧ row.key = .text key ∧
        row.doc.get? idField = some (.text key)) ∧
    ∀ name table key values,
      (idField ∉ Mapping.keys values → ∀ d t,
        ((h'.step (.update name table key values)).2.world.rows d t).map
            (fun row => (row.key, row.doc.get? idField)) =
          (h'.world.rows d t).map fun row => (row.key, row.doc.get? idField)) ∧
      ∀ outcome, (h'.step (.update name table key values)).1 = .ok (.outcome outcome) →
        outcome.status = .ok → Context.markerField ∉ Mapping.keys values →
        ∃ (before after : List Row) (row : Row) (doc : Document),
          h'.world.rows s.database table = before ++ row :: after ∧
          (s.recordFilter key).holds row.doc = .ok true ∧
          (h'.step (.update name table key values)).2.world.rows s.database table =
            before ++ { row with doc := doc } :: after ∧
          doc.get? Context.markerField = some (.text (marker (h'.world.markers + 1))) ∧
          (h'.step (.update name table key values)).2.world.markers = h'.world.markers + 1 := by
  obtain ⟨c₀, hshares, hopened⟩ := hl.shares_opened
  obtain rfl : c₀.settings = s := Reading.ok.inj (hopened.settings.symm.trans hs)
  have hspares : ∀ request ∈ requests, request.SparesKey := fun request hmem => (hr request hmem).1
  have hstart : h.Steady (AllRows (c₀.settings.Traces requests h.world)) fun s' b =>
      s' = c₀.settings ∧ b.AllBuffered fun table doc =>
        ∃ key, c₀.settings.Stems requests table key doc :=
    hl.steady hshares (fun _ _ row hrow => .inl ⟨row, hrow, rfl, rfl⟩) ⟨rfl, .create _⟩
  have hsteady := run_induction h (fun h' hs' request hmem => steady_step_of_upholds hs'
    (hr request hmem) (Settings.upholds_traces hlocation hspares h.world hmem)) hstart
  rw [hrun] at hsteady
  refine ⟨fun database table row hrow => ?_, fun name table key values =>
    ⟨fun hvalues => keys_step_update hsteady hvalues, fun outcome hanswer hok hvalues => ?_⟩⟩
  · refine (hsteady.world database table row hrow).imp_right fun htraced => ?_
    obtain ⟨hdatabase, key, hstems, hkey⟩ := htraced
    exact ⟨hdatabase, key, hstems, hkey, hstems.get?_idField hlocation hspares⟩
  · obtain ⟨w, active, c, hw⟩ := exists_holds_of_step rfl hanswer
    obtain ⟨hserves, hsettings, -⟩ := hsteady.serves_of_holds hw
    obtain ⟨changes, hprepared, hsets, hmarkers⟩ := sets_of_acknowledged hw hserves hanswer hok
    obtain ⟨before, row, after, hrows, hholds, -, hrows'⟩ := hsets.row
    rw [hsettings] at hprepared hrows hholds hrows'
    have hfirst : (Mapping.keys [(Context.markerField,
        Value.text (marker (h'.world.markers + 1)))]).Nodup := List.nodup_singleton _
    have hmarker : changes.get? Context.markerField =
        some (.text (marker (h'.world.markers + 1))) :=
      (Settings.get?_prepareAll (.inr hvalues) hprepared).trans rfl
    exact ⟨before, after, row, row.doc.update changes, hrows, hholds, hrows',
      Mapping.get?_update_of_get? (nodup_prepareAll hfirst hprepared) hmarker, hmarkers⟩

/-- A worker that has just been registered. -/
def freshlyLaunched : Harness :=
  ((start {} {} [] "p" [("a", [])]).run [.init "a"]).2

/-- A record that is inserted, updated once, and then updated again. -/
def plainUpdates : List Request :=
  [.insert "a" "t" "1" [("field0", utf8 "old")], .update "a" "t" "1" [("field0", utf8 "new")]]

/-- The record holds its key, and the marker of the second update. -/
theorem reserved_fields_kept_plainUpdates :
    Launched {} {} [] "p" [("a", [])] freshlyLaunched ∧
      (∀ request ∈ plainUpdates, request.OnRecords) ∧
      ∃ s outcome, (Settings.resolve []).1 = .ok s ∧
        (((freshlyLaunched.run plainUpdates).2.step (.update "a" "t" "1" [])).1 =
          .ok (.outcome outcome) ∧ outcome.status = .ok) ∧
        (∀ database table, ∀ row ∈ (freshlyLaunched.run plainUpdates).2.world.rows database table,
          (∃ old ∈ freshlyLaunched.world.rows database table,
            row.key = old.key ∧ row.doc.get? idField = old.doc.get? idField) ∨
          database = s.database ∧ ∃ key, s.Stems plainUpdates table key row.doc ∧
            row.key = .text key ∧ row.doc.get? idField = some (.text key)) ∧
        ∃ (before after : List Row) (row : Row) (doc : Document),
          ((freshlyLaunched.run plainUpdates).2.step (.update "a" "t" "1" [])).2.world.rows
            s.database "t" = before ++ { row with doc := doc } :: after ∧
          doc.get? Context.markerField =
            some (.text (marker ((freshlyLaunched.run plainUpdates).2.world.markers + 1))) := by
  have hl : Launched {} {} [] "p" [("a", [])] freshlyLaunched := by
    unfold freshlyLaunched
    exact launched_of_isOk (show ["a"].Nodup by decide) (by decide +kernel)
  obtain ⟨c, -, hopened⟩ := hl.shares_opened
  have hlocation : (Settings.resolve []).1.value?.map (fun s => s.location.isEmpty) =
      some true := by
    decide +kernel
  simp only [hopened.settings, Reading.value?_ok, Option.map_some, Option.some.injEq] at hlocation
  have hr : ∀ request ∈ plainUpdates, request.OnRecords := by
    simp [plainUpdates, Request.OnRecords, Request.SparesKey, Request.operation?, Mapping.keys,
      idField]
  have hfield : c.settings.location.isEmpty = false → c.settings.locationField ≠ idField := by
    intro hgiven
    rw [hlocation] at hgiven
    cases hgiven
  have hkept := reserved_fields_kept hl hopened.settings hfield hr rfl
  have hstatus : ((freshlyLaunched.run plainUpdates).2.step
      (.update "a" "t" "1" [])).1.toOption.bind Answer.status? = some .ok := by
    decide +kernel
  cases hanswer : ((freshlyLaunched.run plainUpdates).2.step (.update "a" "t" "1" [])).1 with
  | error e =>
    rw [hanswer] at hstatus
    cases hstatus
  | ok answer =>
    obtain ⟨outcome, rfl⟩ := exists_outcome_of_step_update hanswer
    rw [hanswer] at hstatus
    have hok : outcome.status = .ok := Option.some.inj hstatus
    obtain ⟨before, after, row, doc, -, -, hrows, hmarker, -⟩ :=
      (hkept.2 "a" "t" "1" []).2 outcome hanswer hok List.not_mem_nil
    exact ⟨hl, hr, c.settings, outcome, hopened.settings, ⟨rfl, hok⟩, hkept.1, before, after, row,
      doc, hrows, hmarker⟩

/-- A payload that names a reserved field replaces what the operation has written there, and the
operation is acknowledged: the first record is stored under the key that its payload gives, the
second one shows a payload in the place of the marker, and then in the place of its key. -/
theorem payloads_replace_reserved_fields :
    ((freshlyLaunched.run [.insert "a" "t" "1" [("_id", utf8 "2")], .insert "a" "t" "3" [],
        .update "a" "t" "3" [("updateID", utf8 "none")],
        .update "a" "t" "3" [("_id", utf8 "4")]]).1.map fun answer =>
          answer.toOption.bind Answer.status?) = [some .ok, some .ok, some .ok, some .ok] ∧
      (((freshlyLaunched.run [.insert "a" "t" "1" [("_id", utf8 "2")]]).2.world.rows
        "ycsb" "t").map fun row => (row.key.asBytes?, (row.doc.get? "_id").bind Value.asBytes?)) =
          [(some (utf8 "2"), some (utf8 "2"))] ∧
      (((freshlyLaunched.run [.insert "a" "t" "3" [],
        .update "a" "t" "3" [("updateID", utf8 "none")]]).2.world.rows "ycsb" "t").map fun row =>
          (row.doc.get? "updateID").bind Value.asBytes?) = [some (utf8 "none")] ∧
      (((freshlyLaunched.run [.insert "a" "t" "3" [],
        .update "a" "t" "3" [("_id", utf8 "4")]]).2.world.rows "ycsb" "t").map fun row =>
          (row.doc.get? "_id").bind Value.asBytes?) = [some (utf8 "4")] := by
  decide +kernel

end Harness

end LoadBinding
