import LoadBinding.Proofs.Contents
import LoadBinding.Proofs.Documents
import LoadBinding.Proofs.Verdicts

/-!
# Records that verify

A record that was inserted carries the routing fields of its key, and keeps them whatever is done to
it: an insertion stamps them over its payload, and an update leaves them alone.  So all documents of
a table that was empty carry the routing fields of their keys (`Settings.Routes`), in the table as
in the batches.  A read asks for the routing fields of its key and includes them in its projection,
whatever fields it is for; so what it returns verifies under the key.
-/

namespace LoadBinding

open LoadBinding.Text LoadBinding.Action World Batch Collection

/-! ## Documents with routing fields -/

namespace Settings

variable {s : Settings} {key : String} {doc : Document}

/-- A document has a key and the routing fields of the key. -/
structure Routes (s : Settings) (key : String) (doc : Document) : Prop where
  id : doc.get? idField = some (.text key)
  routing : ∀ pair ∈ s.routing key, doc.get? pair.1 = some (.text pair.2)

/-- The document of a record has its routing fields, whatever its payload says. -/
lemma routes_documentOf (hs : s.RoutesApart) {values : Mapping Bytes} {draws : Draws}
    (hvalues : idField ∉ values.keys) (h : (s.documentOf key values draws).1 = .ok doc) :
    s.Routes key doc := by
  refine ⟨get?_documentOf (fun hlocation => (hs.location hlocation).1) hvalues h,
    fun pair hpair => ?_⟩
  unfold documentOf at h
  dsimp only at h
  cases hprepared : (s.prepareAll (s.routing key).has [(idField, .text key)] draws values).1 with
  | error e =>
    rw [hprepared] at h
    cases h
  | ok prepared =>
    rw [hprepared] at h
    cases h
    have hnodup : ((s.routing key).mapValues Value.text).keys.Nodup := by
      rw [Mapping.keys_mapValues]
      exact hs.nodup_keys key
    refine Mapping.get?_update_of_get? hnodup ?_
    rw [Mapping.get?_mapValues, Mapping.get?_of_mem (hs.nodup_keys key) hpair, Option.map_some]

/-- A document keeps its key and its routing fields when it is updated. -/
lemma Routes.update (h : s.Routes key doc) (hs : s.RoutesApart) {values : Mapping Bytes}
    {changes : Document} (hvalues : idField ∉ values.keys) (hc : s.Changes values changes) :
    s.Routes key (doc.update changes) := by
  have hkept {field : String} (hnone : changes.get? field = none) :
      (doc.update changes).get? field = doc.get? field :=
    Mapping.get?_update_of_not_mem (Mapping.not_mem_keys_of_get?_eq_none hnone)
  refine ⟨(hkept (hc.get?_eq_none (by decide) (.inr hvalues))).trans h.id, fun pair hpair => ?_⟩
  have hmem : pair.1 ∈ (s.routing key).keys := List.mem_map_of_mem hpair
  have himmutable := isImmutable_of_has_routing (Mapping.has_eq_true_iff.mpr hmem)
  refine (hkept (hc.get?_eq_none (hs.ne_of_mem hmem).2 (.inl himmutable))).trans ?_
  exact h.routing pair hpair

/-- A document that the filter of a record finds has the routing fields of the record. -/
lemma routes_of_recordFilter (hs : s.RoutesApart) (h : (s.recordFilter key).holds doc = .ok true) :
    s.Routes key doc := by
  rw [hs.recordFilter_eq] at h
  exact ⟨get?_of_holds h List.mem_cons_self, fun pair hpair =>
    get?_of_holds h (List.mem_cons_of_mem _ (List.mem_map_of_mem hpair))⟩

/-- Rows of a table have the routing fields of their keys. -/
def RoutesIn (s : Settings) (table database table' : String) (row : Row) : Prop :=
  database = s.database → table' = table → ∃ key, s.Routes key row.doc

lemma upholds_routes (hs : s.RoutesApart) (table : String) :
    s.Upholds (s.RoutesIn table) fun doc => ∃ key, s.Routes key doc where
  built hvalues hdoc := ⟨_, routes_documentOf hs hvalues hdoc⟩
  stored hdoc _ _ := hdoc
  updated hrow hvalues hchanges hdatabase htable := by
    obtain ⟨key, hroutes⟩ := hrow hdatabase htable
    exact ⟨key, hroutes.update hs hvalues hchanges⟩

end Settings

/-! ## Reading -/

/-- What a look-up of one document finds is the projection of a row that fulfils its filter. -/
lemma Collection.findOne_eq_ok {c : Collection} {f : Filter} {p : Option Projection}
    {doc : Document} (h : c.findOne f p = .ok (some doc)) :
    ∃ row ∈ c.rows, f.holds row.doc = .ok true ∧ doc = Projection.apply p row.doc := by
  unfold findOne at h
  cases hfound : selectFirst f c.rows with
  | error e =>
    rw [hfound] at h
    cases h
  | ok found =>
    rw [hfound] at h
    cases found with
    | none => cases h
    | some hit =>
      obtain ⟨before, row, after⟩ := hit
      cases h
      obtain ⟨hrows, hrow, -⟩ := selectFirst_eq_some hfound
      exact ⟨row, hrows ▸ List.mem_append_right _ List.mem_cons_self, hrow, rfl⟩

lemma Target.findOne_eq_ok {t : Target} {f : Filter} {p : Option Projection} {doc : Document}
    {w w' : World} (h : exec (t.findOne f p) w = (.ok (some doc), w')) :
    ∃ row ∈ w.rows t.database t.collection,
      f.holds row.doc = .ok true ∧ doc = Projection.apply p row.doc := by
  unfold Target.findOne at h
  obtain ⟨_, w₁, hrecord, h⟩ := exec_bind_eq_ok h
  rw [exec_record] at hrecord
  obtain rfl := (Prod.mk.inj hrecord).2
  rw [exec_bind_of_ok (exec_get _)] at h
  cases hfound : (t.content (w.noted (.findOne t f p)).cluster).findOne f p with
  | error e =>
    rw [hfound] at h
    cases h
  | ok found =>
    rw [hfound] at h
    cases h
    exact Collection.findOne_eq_ok hfound

namespace Context

variable {c : Context} {s : Settings} {w : World}

/-- A read that succeeds returns a part of a document that its filter finds. -/
lemma read_eq_ok (hc : c.Serves s) {name : String} {t : Target} (ht : c.Reaches name t)
    {key : String} {fields : Option (List String)}
    (hok : ((c.read name key fields).run w).1.1.status = .ok) :
    ∃ row ∈ w.rows t.database t.collection, (s.recordFilter key).holds row.doc = .ok true ∧
      ((c.read name key fields).run w).1.1.data =
        some (recordOf (Projection.apply (s.readProjection fields) row.doc)) := by
  unfold read at hok ⊢
  rw [next_eq] at hok ⊢
  dsimp only at hok ⊢
  rw [settings_advance, run_bind, run_attempt] at hok ⊢
  cases hf : w.faults.get? (lookUpAddress name) with
  | some f =>
    rw [exec_bind_of_error (exec_table_of_fault ht hf)] at hok
    cases hok
  | none =>
    rw [exec_bind_of_ok (exec_table_of_no_fault ht hf), hc.settings] at hok ⊢
    cases hrun : exec (t.findOne (s.recordFilter key) (s.readProjection fields)) (w.lookedUp t) with
    | mk found w₁ =>
      rw [hrun] at hok
      rcases found with e | _ | _ | _
      · cases hok
      · cases hok
      · cases hok
      · obtain ⟨row, hrow, hholds, hdoc⟩ := Target.findOne_eq_ok hrun
        rw [rows_lookedUp] at hrow
        exact ⟨row, hrow, hholds, congrArg (fun doc => some (recordOf doc)) hdoc⟩

end Context

/-! ## Verifying -/

section Verifying

variable {s : Settings} {key : String} {doc : Document}

/-- A projection that includes a field returns it as it is. -/
lemma Projection.get?_apply {p : Option Projection} {field : String}
    (h : ∀ q, p = some q → q.has field = true) :
    (Projection.apply p doc).get? field = doc.get? field := by
  cases p with
  | none => rfl
  | some q =>
    have hfield := h q rfl
    cases q with
    | nil => cases hfield
    | cons first rest =>
      refine (Mapping.get?_filter doc (fun k => k == idField || Mapping.has (first :: rest) k)
        field).trans (if_pos ?_)
      rw [hfield, Bool.or_true]

/-- The record that a read returns has the routing fields of the document. -/
lemma Settings.Routes.get?_recordOf (h : s.Routes key doc) (hs : s.RoutesApart)
    (fields : Option (List String)) {pair : String × String} (hpair : pair ∈ s.routing key) :
    (Context.recordOf (Projection.apply (s.readProjection fields) doc)).get? pair.1 =
      some (utf8 pair.2) := by
  have hmem : pair.1 ∈ (s.routing key).keys := List.mem_map_of_mem hpair
  have hincluded : ∀ q, s.readProjection fields = some q → q.has pair.1 = true := by
    intro q hq
    have hhas := has_readProjection s key fields
    rw [hq] at hhas
    cases fields with
    | none => cases hhas
    | some names =>
      have hfield := congrFun (Option.some.inj hhas) pair.1
      dsimp only at hfield
      rw [hfield, Mapping.has_eq_true_iff.mpr hmem, Bool.or_true]
  unfold Context.recordOf
  rw [Mapping.get?_mapValues, Mapping.get?_filter _ (· != idField),
    if_pos (bne_iff_ne.mpr (hs.ne_of_mem hmem).1), Projection.get?_apply hincluded,
    h.routing pair hpair]
  rfl

/-- A record with the routing fields of its key verifies. -/
lemma verify_of_routing {c : Context} (hc : c.settings = s) (hs : s.RoutesApart)
    {record : Mapping Bytes} (hsome : s.routing key ≠ [])
    (hrecord : ∀ pair ∈ s.routing key, record.get? pair.1 = some (utf8 pair.2)) (w : World) :
    ((Harness.verifierOf c).verify key (record.mapValues Cell.bytes)).run w = (.ok none, w) := by
  subst hc
  have hcell : ∀ pair ∈ c.settings.routing key,
      ∃ cell, (record.mapValues Cell.bytes).get? pair.1 = some cell ∧ cell.Shows pair.2 := by
    intro pair hpair
    rw [Mapping.get?_mapValues, hrecord pair hpair]
    exact ⟨.bytes (utf8 pair.2), rfl, .inl (.inr rfl)⟩
  have hempty : (record.mapValues Cell.bytes).isEmpty = false := by
    obtain ⟨pair, hpair⟩ := List.exists_mem_of_ne_nil _ hsome
    cases record with
    | nil => cases hrecord pair hpair
    | cons first rest => rfl
  have haccepts : (Harness.verifierOf c).Accepts key (record.mapValues Cell.bytes) Cell.Shows := by
    rw [hs.routing_eq] at hcell
    constructor
    · by_cases hlocation : c.settings.location = ""
      · exact .inl hlocation
      · refine .inr (hcell (c.settings.locationField, c.settings.location)
          (List.mem_append_right _ ?_))
        simp [hlocation]
    · by_cases hshard : c.settings.shardKey = ""
      · exact .inl hshard
      · refine .inr (hcell (c.settings.shardKey, key) (List.mem_append_left _ ?_))
        simp [hshard]
  unfold RowVerifier.verify
  rw [hempty, (RowVerifier.complaints_eq_nil_iff _ _ _).mpr haccepts]
  rfl

/-- Every record has a routing field, if the settings ask for one. -/
lemma Settings.RoutesApart.routing_ne_nil (hs : s.RoutesApart)
    (hsome : s.shardKey.isEmpty = false ∨ s.location.isEmpty = false) (key : String) :
    s.routing key ≠ [] := by
  rw [hs.routing_eq]
  rcases hsome with hshard | hlocation
  · rw [hshard]
    exact List.cons_ne_nil _ _
  · rw [hlocation]
    exact List.append_ne_nil_of_right_ne_nil _ (List.cons_ne_nil _ _)

end Verifying

/-! ## Runs -/

/-- A request of a run on records: an operation whose payload does not name the field of the key, or
a change of the faults that the deployment shows. -/
def Request.OnRecords (request : Request) : Prop :=
  request.SparesKey ∧ (request.operation?.isSome = true ∨ ∃ faults, request = .setFaults faults)

namespace Harness

variable {h : Harness} {name : String} {w : Worker} {active : Active} {c : Context}
  {request : Request} {op : Operation Answer}

/-- Only workers that hold a context are answered. -/
lemma exists_holds_of_step (hop : request.operation? = some (name, op)) {answer : Answer}
    (ha : (h.step request).1 = .ok answer) : ∃ w active c, h.Holds name w active c := by
  by_contra hnone
  rw [step_of_not_holds hop fun w active c hw => hnone ⟨w, active, c, hw⟩] at ha
  cases ha

/-- A read that is answered is answered with a record. -/
lemma exists_record_of_step_read {key : String} {fields : Option (List String)} {table : String}
    {answer : Answer} (ha : (h.step (.read name table key fields)).1 = .ok answer) :
    ∃ outcome, answer = .record outcome := by
  obtain ⟨w, active, c, hw⟩ := exists_holds_of_step rfl ha
  rw [step_of_operation rfl hw] at ha
  exact ⟨_, (Except.ok.inj ha).symm⟩

/-- After an operation its worker still holds its context. -/
lemma exists_holds_step (request : Request) (hop : request.operation? = some (name, op))
    (hw : h.Holds name w active c) :
    ∃ w' active' c', (h.step request).2.Holds name w' active' c' ∧ c'.settings = c.settings := by
  obtain ⟨count, hc⟩ := (Request.operates_operation hop c active.batch).advances h.world
  rw [step_of_operation hop hw, hc]
  refine ⟨_, _, c.advance count, ⟨get?_operated h name w active (c.advance count)
    ((op c active.batch).run h.world).1.2.2 ((op c active.batch).run h.world).2, rfl, ?_⟩, rfl⟩
  exact List.getElem?_set_self (List.getElem?_eq_some_iff.mp hw.context).1

variable {s : Settings} {table : String}

/-- A request on records preserves the properties that it upholds. -/
lemma steady_step_of_upholds {P : String → String → Row → Prop} {Q : String → Document → Prop}
    (hs : h.Steady (AllRows P) fun s' b => s' = s ∧ b.AllBuffered Q) (hr : request.OnRecords)
    (hu : request.Upholds s P Q) :
    (h.step request).2.Steady (AllRows P) fun s' b => s' = s ∧ b.AllBuffered Q := by
  obtain ⟨-, hop | ⟨faults, rfl⟩⟩ := hr
  · obtain ⟨⟨name, op⟩, hop⟩ := Option.isSome_iff_exists.mp hop
    exact hs.step_operation hop
      (Request.maintains_of_upholds (G := (· = s)) (fun s' hs' => hs'.symm ▸ hu) hop)
  · exact Steady.noteContexts ⟨hs.world, hs.contexts, hs.workers, hs.providers⟩

/-- A request on records preserves that documents have the routing fields of their keys. -/
lemma steady_step_of_onRecords (hroutes : s.RoutesApart)
    (hs : h.Steady (AllRows (s.RoutesIn table)) fun s' b =>
      s' = s ∧ b.AllDocs fun doc => ∃ key, s.Routes key doc)
    (hr : request.OnRecords) :
    (h.step request).2.Steady (AllRows (s.RoutesIn table)) fun s' b =>
      s' = s ∧ b.AllDocs fun doc => ∃ key, s.Routes key doc := by
  exact steady_step_of_upholds hs hr ((Settings.upholds_routes hroutes table).request hr.1)

/-- Whatever workers that were launched do with the records of a table that was empty, and whatever
faults the deployment shows: all documents of the table have the routing fields of their keys, and
every read that succeeds, for whatever fields, returns a record that verifies under its key. -/
theorem records_verify {cluster : Cluster} {draws : Draws} {faults : Faults}
    {provider first : String} {bag : Bag} {others : Mapping Bag}
    (hl : Launched cluster draws faults provider ((first, bag) :: others) h)
    (hs : (Settings.resolve bag).1 = .ok s) (hroutes : s.RoutesApart)
    (hsome : s.shardKey.isEmpty = false ∨ s.location.isEmpty = false)
    (hempty : h.world.rows s.database table = []) {requests : List Request}
    (hr : ∀ request ∈ requests, request.OnRecords) :
    (∀ row ∈ (h.run requests).2.world.rows s.database table, ∃ key, s.Routes key row.doc) ∧
      ∀ name key fields outcome,
        ((h.run requests).2.step (.read name table key fields)).1 = .ok (.record outcome) →
        outcome.status = .ok → ∃ record, outcome.data = some record ∧
          (((h.run requests).2.step (.read name table key fields)).2.step
            (.verify name key (record.mapValues Cell.bytes))).1 = .ok (.outcome (.ok none)) := by
  obtain ⟨c₀, hshares, hopened⟩ := hl.shares_opened
  obtain rfl : c₀.settings = s := Reading.ok.inj (hopened.settings.symm.trans hs)
  have hstart : h.Steady (AllRows (c₀.settings.RoutesIn table)) fun s' b =>
      s' = c₀.settings ∧ b.AllDocs fun doc => ∃ key, c₀.settings.Routes key doc := by
    refine hl.steady hshares (fun database table' row hrow hdatabase htable => ?_)
      ⟨rfl, .create _⟩
    rw [hdatabase, htable, hempty] at hrow
    cases hrow
  have hsteady := run_induction h (fun h' hs' request hmem =>
    steady_step_of_onRecords hroutes hs' (hr request hmem)) hstart
  refine ⟨fun row hrow => hsteady.world _ _ row hrow rfl rfl,
    fun name key fields outcome hread hok => ?_⟩
  generalize (h.run requests).2 = h' at hsteady hread ⊢
  obtain ⟨w, active, c, hw⟩ := exists_holds_of_step rfl hread
  obtain ⟨c', hw', hserves, hsettings, -⟩ := hsteady.exists_holds hw.worker hw.registered
  obtain rfl : c = c' := Option.some.inj (hw.context.symm.trans hw'.context)
  rw [hsettings] at hserves
  obtain ⟨t, ht⟩ := hserves.exists_reaches table
  have hanswer : Answer.record ((c.read table key fields).run h'.world).1.1 = .record outcome := by
    rw [step_of_operation rfl hw] at hread
    exact Except.ok.inj hread
  obtain rfl := Answer.record.inj hanswer
  obtain ⟨row, -, hholds, hdata⟩ := c.read_eq_ok hserves ht hok
  have hrouted := Settings.routes_of_recordFilter hroutes hholds
  obtain ⟨w₁, active₁, c₁, hw₁, hsame⟩ := exists_holds_step (.read name table key fields) rfl hw
  refine ⟨_, hdata, ?_⟩
  rw [step_of_operation rfl hw₁]
  have hverify := verify_of_routing (hsame.trans hsettings) hroutes
    (hroutes.routing_ne_nil hsome key)
    (fun pair hpair => hrouted.get?_recordOf hroutes fields hpair)
    (h'.step (.read name table key fields)).2.world
  exact congrArg (fun r => Except.ok (Answer.outcome r.1)) hverify

/-- A worker whose records carry a shard key and a location. -/
def stampingWorker : Harness :=
  ((start {} {} [] "p" [("a", [("mongodb.shardKey", .text "shard"),
    ("mongodb.location", .text "US")])]).run [.init "a"]).2

/-- An insertion and an update that try to set the routing fields. -/
def misroutings : List Request :=
  [.insert "a" "t" "1" [("shard", utf8 "2"), ("location", utf8 "EU")],
    .update "a" "t" "1" [("location", utf8 "EU")]]

/-- The record is read for no fields at all, and verifies. -/
theorem records_verify_misroutings :
    Launched {} {} [] "p" [("a", [("mongodb.shardKey", .text "shard"),
        ("mongodb.location", .text "US")])] stampingWorker ∧
      (∀ request ∈ misroutings, request.OnRecords) ∧
      ∃ outcome record,
        ((stampingWorker.run misroutings).2.step (.read "a" "t" "1" (some []))).1 =
            .ok (.record outcome) ∧
          outcome.status = .ok ∧ outcome.data = some record ∧
          (((stampingWorker.run misroutings).2.step (.read "a" "t" "1" (some []))).2.step
            (.verify "a" "1" (record.mapValues Cell.bytes))).1 = .ok (.outcome (.ok none)) := by
  have hl : Launched {} {} [] "p" [("a", [("mongodb.shardKey", .text "shard"),
      ("mongodb.location", .text "US")])] stampingWorker := by
    unfold stampingWorker
    exact launched_of_isOk (show ["a"].Nodup by decide) (by decide +kernel)
  obtain ⟨c, -, hopened⟩ := hl.shares_opened
  have hsettings : (Settings.resolve [("mongodb.shardKey", .text "shard"),
      ("mongodb.location", .text "US")]).1.value?.map (fun s =>
        (s.shardKey, s.location, s.locationField, s.database)) =
          some ("shard", "US", "location", "ycsb") := by
    decide +kernel
  simp only [hopened.settings, Reading.value?_ok, Option.map_some, Option.some.injEq,
    Prod.mk.injEq] at hsettings
  obtain ⟨hshard, hlocation, hfield, hdatabase⟩ := hsettings
  have hroutes : c.settings.RoutesApart := by
    constructor
    · rw [hshard]
      decide
    · rw [hfield, hlocation]
      decide
    · rw [hshard, hfield, hlocation]
      decide
  have hempty : stampingWorker.world.rows c.settings.database "t" = [] := by
    rw [hdatabase]
    exact List.isEmpty_iff.mp (by decide +kernel)
  have hr : ∀ request ∈ misroutings, request.OnRecords := by
    simp [misroutings, Request.OnRecords, Request.SparesKey, Request.operation?, Mapping.keys,
      idField]
  have hverify := (records_verify hl hopened.settings hroutes (.inl (by rw [hshard]; decide))
    hempty hr).2 "a" "1" (some [])
  have hok : ((stampingWorker.run misroutings).2.step
      (.read "a" "t" "1" (some []))).1.toOption.bind Answer.status? = some .ok := by
    decide +kernel
  refine ⟨hl, hr, ?_⟩
  generalize (stampingWorker.run misroutings).2 = h at hverify hok ⊢
  cases hread : (h.step (.read "a" "t" "1" (some []))).1 with
  | error e =>
    rw [hread] at hok
    cases hok
  | ok answer =>
    obtain ⟨outcome, rfl⟩ := exists_record_of_step_read hread
    rw [hread] at hok
    have hstatus : outcome.status = .ok := Option.some.inj hok
    obtain ⟨record, hdata, hanswer⟩ := hverify outcome hread hstatus
    exact ⟨outcome, record, rfl, hstatus, hdata, hanswer⟩

end Harness

end LoadBinding
