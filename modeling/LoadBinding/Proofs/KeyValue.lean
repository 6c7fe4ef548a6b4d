import LoadBinding.Proofs.Contents
import LoadBinding.Proofs.Writing

/-!
# Workers share a key-value map

Without faults, and with documents written one by one, the records that any number of workers
insert, read, update, delete and scan are those of a reference: every request is answered as by a
map from tables and keys to records, whichever worker makes it and whichever endpoint it goes to.

`World.Agrees` says that the world has the records, the draws and the markers of a reference.  Every
operation answers as the reference does and keeps the agreement; from this the same follows for one
request of a worker, and for a run of them by induction.
-/

namespace LoadBinding

open LoadBinding.Text LoadBinding.Action World Collection

/-! ## Agreement -/

/-- A world has no faults, and the draws, the markers and the used tables of a reference. -/
structure World.Agrees (w : World) (s : Settings) (used : String → Prop) (r : Reference) :
    Prop where
  faults : w.faults = []
  draws : w.draws = r.draws
  markers : w.markers = r.markers
  tables : ∀ table, used table →
    Represents s r.markers (w.rows s.database table) (r.tables table)

namespace World

variable {w w' : World} {s : Settings} {used : String → Prop} {r : Reference}

/-- Only faults, draws, markers and rows matter. -/
lemma Agrees.of_same (hw : w.Agrees s used r) (hf : w'.faults = w.faults) (hd : w'.draws = w.draws)
    (hm : w'.markers = w.markers)
    (hr : ∀ table, w'.rows s.database table = w.rows s.database table) :
    w'.Agrees s used r :=
  ⟨hf.trans hw.faults, hd.trans hw.draws, hm.trans hw.markers,
    fun table hused => hr table ▸ hw.tables table hused⟩

lemma Agrees.lookedUp (hw : w.Agrees s used r) (t : Target) : (w.lookedUp t).Agrees s used r :=
  hw.of_same rfl rfl rfl fun table => rows_lookedUp w t s.database table

lemma Agrees.noted (hw : w.Agrees s used r) (call : Call) : (w.noted call).Agrees s used r :=
  hw.of_same rfl rfl rfl fun _ => rfl

lemma Agrees.logged (hw : w.Agrees s used r) (level : Log.Level) (source text : String) :
    ({ w with entries := w.entries ++ [⟨level, source, text⟩] } : World).Agrees s used r :=
  hw.of_same rfl rfl rfl fun _ => rfl

/-- Taking draws. -/
lemma Agrees.drawn (hw : w.Agrees s used r) (draws : Draws) :
    ({ w with draws := draws } : World).Agrees s used { r with draws := draws } :=
  ⟨hw.faults, rfl, hw.markers, hw.tables⟩

/-- Giving out a marker. -/
lemma Agrees.marked (hw : w.Agrees s used r) :
    ({ w with markers := w.markers + 1 } : World).Agrees s used
      { r with markers := r.markers + 1 } :=
  ⟨hw.faults, hw.draws, congrArg Nat.succ hw.markers,
    fun table hused => (hw.tables table hused).mono (Nat.le_succ _)⟩

/-- Replacing a table and the collection that represents it. -/
lemma Agrees.put (hw : w.Agrees s used r) {t : Target} (ht : t.database = s.database)
    {x : Collection} {table : Table} (hx : Represents s r.markers x.rows table) :
    (w.put t x).Agrees s used (r.setTable t.collection table) := by
  refine ⟨hw.faults, hw.draws, hw.markers, fun other hused => ?_⟩
  rw [rows_put, ht]
  unfold Reference.setTable
  dsimp only
  by_cases hother : other = t.collection
  · rw [if_pos ⟨rfl, hother⟩, if_pos hother]
    exact hx
  · rw [if_neg fun h => hother h.2, if_neg hother]
    exact hw.tables other hused

end World

/-! ## Operations -/

namespace Context

variable {c : Context} {s : Settings} {used : String → Prop} {r : Reference} {w : World}
  {t : Target} {name : String}

/-- What an operation finds in a table that is used. -/
lemma represents_content (hc : c.Serves s) (ht : c.Reaches name t) (hw : w.Agrees s used r)
    (hu : used name) : Represents s r.markers (t.content w.cluster).rows (r.tables name) := by
  have hrows : (t.content w.cluster).rows = w.rows s.database name := by
    rw [← hc.settings, ← ht.database_eq, ← ht.collection_eq]
    rfl
  rw [hrows]
  exact hw.tables name hu

/-- A call replaces the collection of a table. -/
lemma agrees_put (hc : c.Serves s) (ht : c.Reaches name t) (hw : w.Agrees s used r) (call : Call)
    {x : Collection} {table : Table} (hx : Represents s r.markers x.rows table) :
    ((w.noted call).put t x).Agrees s used (r.setTable name table) := by
  have hput := (hw.noted call).put (hc.database_eq ht) hx
  rwa [ht.collection_eq] at hput

/-- A read returns the record of the reference. -/
lemma read_agrees (hc : c.Serves s) (hs : s.RoutesApart) (hw : w.Agrees s used r) (hu : used name)
    (key : String) {fields : Option (List String)} (hfields : fields ≠ some []) :
    ((c.read name key fields).run w).1.1.plain = r.read s name key fields ∧
      ((c.read name key fields).run w).2.Agrees s used r := by
  obtain ⟨t, ht⟩ := hc.exists_reaches name
  have htable := exec_table_of_no_faults ht hw.faults
  have hlooked := hw.lookedUp t
  have hrep := represents_content hc ht hlooked hu
  unfold Context.read Reference.read
  rw [next_eq]
  dsimp only
  rw [settings_advance, run_bind, run_attempt, exec_bind_of_ok htable, hc.settings]
  cases hget : (r.tables name)[key]? with
  | none =>
    have hfind : (t.content (w.lookedUp t).cluster).findOne (s.recordFilter key)
        (s.readProjection fields) = .ok none := by
      unfold findOne
      rw [hrep.selectFirst_of_none hs hget]
    rw [exec_findOne_of_ok hlooked.faults hfind]
    exact ⟨rfl, (hlooked.noted _).logged _ _ _⟩
  | some record =>
    obtain ⟨before, after, hselect, -⟩ := hrep.selectFirst_of_some hs hget
    have hkeyless := (hrep.sound key record hget).keyless
    have hfind : (t.content (w.lookedUp t).cluster).findOne (s.recordFilter key)
        (s.readProjection fields) =
          .ok (some (docFor key (Settings.restrict (s.readFields key fields) record))) := by
      unfold findOne
      rw [hselect]
      dsimp only
      rw [rowOf, apply_docFor (readProjection_ne_nil s key hfields) hkeyless,
        has_readProjection s key]
    rw [exec_findOne_of_ok hlooked.faults hfind]
    refine ⟨?_, hlooked.noted _⟩
    have hrecord := recordOf_docFor key (keyless_restrict hkeyless (s.readFields key fields))
    exact congrArg (fun found => Outcome.ok (some found)) hrecord

/-- A deletion removes the record of the reference. -/
lemma delete_agrees (hc : c.Serves s) (hs : s.RoutesApart) (hw : w.Agrees s used r) (hu : used name)
    (key : String) :
    ((c.delete name key).run w).1.1 = .ok none ∧
      ((c.delete name key).run w).2.Agrees s used (r.delete name key) := by
  obtain ⟨t, ht⟩ := hc.exists_reaches name
  have htable := exec_table_of_no_faults ht hw.faults
  have hlooked := hw.lookedUp t
  obtain ⟨rows, hreject, hrows⟩ := (represents_content hc ht hlooked hu).reject hs key
  have hdelete : (t.content (w.lookedUp t).cluster).deleteMany (s.recordFilter key) =
      .ok { t.content (w.lookedUp t).cluster with rows := rows } := by
    unfold deleteMany
    rw [hreject]
  have hput := agrees_put hc ht hlooked (.deleteMany t (s.recordFilter key))
    (x := { t.content (w.lookedUp t).cluster with rows := rows }) hrows
  unfold Context.delete
  rw [next_eq]
  dsimp only
  rw [settings_advance, run_bind, run_attempt, exec_bind_of_ok htable, hc.settings,
    exec_deleteMany_of_ok hlooked.faults hdelete]
  exact ⟨rfl, hput⟩

/-- A scan returns the records of the reference. -/
lemma scan_agrees (hc : c.Serves s) (hs : s.RoutesApart) (hw : w.Agrees s used r) (hu : used name)
    (start : String) {count : ℤ} (hcount : 1 ≤ count) {fields : Option (List String)}
    (hfields : fields ≠ some []) :
    ((c.scan name start count fields).run w).1.1.plain = r.scan name start count.toNat fields ∧
      ((c.scan name start count fields).run w).2.Agrees s used r := by
  obtain ⟨t, ht⟩ := hc.exists_reaches name
  have htable := exec_table_of_no_faults ht hw.faults
  have hlooked := hw.lookedUp t
  obtain ⟨found, hfind, hsort⟩ :=
    exists_find (represents_content hc ht hlooked hu) hs start (scanProjection_ne_nil hfields)
  have hscan := exec_scan_of_ok hlooked.faults hfind count
  rw [hsort, Cursor.limit_of_pos hcount, ← List.map_take, has_scanProjection] at hscan
  have hagrees := ((((hlooked.noted (.find t (s.scanFilter start)
    (fields.map Projection.ofFields))).noted .sort).noted (.limit count)).noted .iterate).noted
      .closeCursor
  unfold Context.scan Reference.scan
  rw [next_eq]
  dsimp only
  rw [settings_advance, run_bind, run_attempt, exec_bind_of_ok htable, hc.settings,
    hscan]
  cases ((r.tables name).toList.filter fun entry => !decide (entry.1 < start)).take count.toNat with
  | nil => exact ⟨rfl, hagrees.logged _ _ _⟩
  | cons first rest =>
    refine ⟨?_, hagrees⟩
    refine congrArg (fun records => Outcome.ok (some records)) ?_
    exact List.map_map

/-- The changes of an update are those of the reference. -/
lemma exec_changes (hc : c.Serves s) (hw : w.Agrees s used r) (key : String)
    {values : Mapping Bytes} (hvalues : ∀ field ∈ values.keys, s.IsPayloadField field) :
    ∃ w', exec
        (c.prepareFields s.isImmutable [(markerField, .text (marker (w.markers + 1)))] values)
        { w with markers := w.markers + 1 } =
          ((s.changesFor key values (r.markers + 1) r.draws).1.mapError Failure.payload, w') ∧
      w'.Agrees s used { r with
        draws := (s.changesFor key values (r.markers + 1) r.draws).2
        markers := r.markers + 1 } := by
  refine ⟨_, (exec_prepareFields hc _ _ _ _).trans ?_, hw.marked.drawn _⟩
  have himmutable : ∀ field ∈ values.keys, s.isImmutable field = (s.routing key).has field :=
    fun field hfield => (hvalues field hfield).isImmutable_eq key
  unfold Settings.changesFor
  rw [prepareAll_congr himmutable, ← hw.draws, ← hw.markers]

/-- An update changes the record of the reference. -/
lemma update_agrees (hc : c.Serves s) (hs : s.RoutesApart) (hw : w.Agrees s used r)
    (hu : used name) (key : String) {values : Mapping Bytes}
    (hvalues : ∀ field ∈ values.keys, s.IsPayloadField field)
    (hmarkers : MarkersDiffer (r.markers + 1)) :
    ((c.update name key values).run w).1.1.plain = (r.update s name key values).1 ∧
      ((c.update name key values).run w).2.Agrees s used (r.update s name key values).2 := by
  obtain ⟨t, ht⟩ := hc.exists_reaches name
  have htable := exec_table_of_no_faults ht hw.faults
  obtain ⟨w', hprepare, hchanged⟩ := exec_changes (hc.advance 1) (hw.lookedUp t) key hvalues
  unfold Context.update Reference.update
  rw [next_eq]
  dsimp only
  rw [settings_advance, run_bind, run_attempt, exec_bind_of_ok htable,
    exec_bind_of_ok (exec_nextMarker _), hc.settings, exec_bind, hprepare]
  cases hchanges : (s.changesFor key values (r.markers + 1) r.draws).1 with
  | error e => exact ⟨rfl, hchanged.logged _ _ _⟩
  | ok changes =>
    have hmarks := marks_changesFor hs hvalues hchanges
    have hrep := represents_content hc ht hchanged hu
    dsimp only [Except.mapError] at hrep ⊢
    cases hget : (r.tables name)[key]? with
    | none =>
      have hupdate : (t.content w'.cluster).updateOne (s.recordFilter key) changes =
          .ok (t.content w'.cluster, ⟨0, 0⟩) := by
        unfold updateOne
        rw [hrep.selectFirst_of_none hs hget]
      have hsame : ((w'.noted (.updateOne t (s.recordFilter key) changes)).put t
          (t.content w'.cluster)).Agrees s used _ :=
        hchanged.of_same rfl rfl rfl fun table => rows_put_content w' t s.database table
      rw [exec_updateOne_of_ok hchanged.faults hupdate]
      exact ⟨rfl, hsame.logged _ _ _⟩
    | some record =>
      obtain ⟨before, after, hselect, hreplace⟩ := hrep.selectFirst_of_some hs hget
      have hsound := (hw.tables name hu).sound key record hget
      have hupdate : (t.content w'.cluster).updateOne (s.recordFilter key) changes =
          .ok ({ t.content w'.cluster with
            rows := before ++ rowOf (docFor key (record.update changes)) :: after }, ⟨1, 1⟩) := by
        unfold updateOne
        rw [hselect]
        dsimp only [rowOf]
        rw [hsound.differs hmarks hmarkers, update_docFor hmarks]
        rfl
      have hput := agrees_put hc ht hchanged (.updateOne t (s.recordFilter key) changes)
        (x := { t.content w'.cluster with
          rows := before ++ rowOf (docFor key (record.update changes)) :: after })
        (hreplace _ (hsound.update hmarks))
      rw [exec_updateOne_of_ok hchanged.faults hupdate]
      exact ⟨rfl, hput⟩

/-- An insertion stores the record of the reference. -/
lemma insert_agrees (hc : c.Serves s) (hs : s.RoutesApart) (hone : s.batchSize = 1)
    (hw : w.Agrees s used r) (hu : used name) (b : Batch) (key : String) {values : Mapping Bytes}
    (hvalues : ∀ field ∈ values.keys, s.IsPayloadField field) :
    ((c.insert b name key values).run w).1.1.plain = (r.insert s name key values).1 ∧
      ((c.insert b name key values).run w).2.Agrees s used (r.insert s name key values).2 := by
  obtain ⟨t, ht⟩ := hc.exists_reaches name
  have hkeyless : idField ∉ values.keys := fun hmem => (hvalues _ hmem).ne_idField rfl
  have hbuild : exec (c.build name key values) w = _ := exec_build_of_no_faults hc ht hw.faults
  rw [documentOf_eq hs hkeyless, hw.draws] at hbuild
  have hbuilt := (hw.lookedUp t).drawn (s.recordFor key values r.draws).2
  rw [insert_eq, run_bind, run_attempt, hbuild, hc.settings, hone]
  unfold Reference.insert
  dsimp only
  generalize ({ w.lookedUp t with draws := (s.recordFor key values r.draws).2 } : World) = w'
    at hbuilt ⊢
  cases hrecord : (s.recordFor key values r.draws).1 with
  | error e => exact ⟨rfl, hbuilt.logged _ _ _⟩
  | ok record =>
    have hsound := sound_recordFor hs hvalues hrecord r.markers
    have hrep := represents_content hc ht hbuilt hu
    dsimp only [Except.map, Except.mapError] at hrep ⊢
    rw [if_pos (by decide), run_bind, run_attempt]
    cases hget : (r.tables name)[key]? with
    | some old =>
      have htaken : (t.content w'.cluster).insert (docFor key record) =
          .error (.duplicateKey (.text key)) := by
        unfold Collection.insert
        rw [get?_docFor_idField]
        dsimp only
        rw [hasKey_eq, hrep.taken_eq_true hget]
        rfl
      rw [exec_insertOne_of_error hbuilt.faults htaken]
      exact ⟨rfl, (hbuilt.noted _).logged _ _ _⟩
    | none =>
      have hput := agrees_put hc ht hbuilt (.insertOne t (docFor key record))
        (x := { t.content w'.cluster with
          rows := w'.rows t.database t.collection ++ [rowOf (docFor key record)] })
        (hrep.insert hget hsound)
      rw [exec_insertOne_of_fresh hbuilt.faults (hrep.isFresh hget)]
      exact ⟨rfl, hput⟩

end Context

/-! ## Requests -/

namespace Harness

/-- Some workers are registered with contexts that work under some settings, in a world that agrees
with a reference. -/
structure Matches (h : Harness) (s : Settings) (names : List String) (used : String → Prop)
    (r : Reference) : Prop where
  workers : ∀ name ∈ names, ∃ w active, h.workers.get? name = some w ∧ w.active = some active ∧
    active.context < h.contexts.length
  contexts : ∀ c ∈ h.contexts, c.Serves s
  agrees : h.world.Agrees s used r

variable {h : Harness} {s : Settings} {names : List String} {used : String → Prop}
  {r r' : Reference} {name : String}

lemma Matches.noteContexts (hm : h.Matches s names used r) :
    h.noteContexts.Matches s names used r :=
  ⟨hm.workers, hm.contexts, hm.agrees⟩

/-- A worker operates on a context that works under the settings. -/
lemma Matches.exists_holds (hm : h.Matches s names used r) (hname : name ∈ names) :
    ∃ w active c, h.Holds name w active c ∧ c.Serves s := by
  obtain ⟨w, active, hw, hactive, hlt⟩ := hm.workers name hname
  exact ⟨w, active, _, ⟨hw, hactive, List.getElem?_eq_getElem hlt⟩,
    hm.contexts _ (List.getElem_mem hlt)⟩

/-- An operation of one worker leaves all of them registered. -/
lemma Matches.operated (hm : h.Matches s names used r) {w : Worker} {active : Active}
    {c c' : Context} (hw : h.Holds name w active c) (hc' : c'.Serves s) (b : Batch) {world : World}
    (hworld : world.Agrees s used r') :
    (h.operated name w active c' b world).Matches s names used r' := by
  have hlength : (h.operated name w active c' b world).contexts.length = h.contexts.length :=
    List.length_set
  refine ⟨fun other hother => ?_, fun other hother => ?_, hworld⟩
  · rw [hlength]
    by_cases heq : other = name
    · subst heq
      exact ⟨_, _, get?_operated h other w active c' b world, rfl,
        (List.getElem?_eq_some_iff.mp hw.context).1⟩
    · obtain ⟨w', active', hw', hactive', hlt'⟩ := hm.workers other hother
      refine ⟨w', active', ?_, hactive', hlt'⟩
      exact (Mapping.get?_set _ _ _ _).trans ((if_neg heq).trans hw')
  · rcases List.mem_or_eq_of_mem_set hother with hother | rfl
    · exact hm.contexts other hother
    · exact hc'

/-- What holds of an operation on every context that works under the settings holds of the operation
of a worker. -/
lemma Matches.operate (hm : h.Matches s names used r) (hname : name ∈ names) {α : Type}
    {P : α → Prop} {operation : Context → Batch → StateM World (α × Context × Batch)}
    (hop : ∀ (c : Context) b, c.Operates (fun result => result.2.1) (operation c b))
    (hsim : ∀ c b, c.Serves s → P ((operation c b).run h.world).1.1 ∧
      ((operation c b).run h.world).2.Agrees s used r') :
    ∃ x h', h.operate name operation = (.ok x, h') ∧ P x ∧ h'.Matches s names used r' := by
  obtain ⟨w, active, c, hw, hc⟩ := hm.exists_holds hname
  obtain ⟨hresult, hworld⟩ := hsim c active.batch hc
  exact ⟨_, _, operate_of_holds hw operation, hresult,
    hm.operated hw (hc.operates (hop c active.batch) h.world) _ hworld⟩

/-- The same of an operation that leaves the batch alone. -/
lemma Matches.operateOn (hm : h.Matches s names used r) (hname : name ∈ names) {α : Type}
    {P : α → Prop} {operation : Context → StateM World (α × Context)}
    (hop : ∀ c : Context, c.Operates Prod.snd (operation c))
    (hsim : ∀ c, c.Serves s → P ((operation c).run h.world).1.1 ∧
      ((operation c).run h.world).2.Agrees s used r') :
    ∃ x h', h.operateOn name operation = (.ok x, h') ∧ P x ∧ h'.Matches s names used r' :=
  hm.operate hname (fun c _ => (hop c).andThen fun _ => .pure 0 rfl)
    fun c _ hc => hsim c hc

/-- A request on records is answered as by the reference. -/
lemma Matches.step (hm : h.Matches s names used r) (hs : s.RoutesApart) (hone : s.batchSize = 1)
    {request : Request} (hr : request.Accesses s names)
    (hu : ∀ table, request.table? = some table → used table)
    (hmarkers : request.isUpdate = true → MarkersDiffer (r.markers + 1)) :
    (h.step request).1.map Answer.plain = .ok (r.step s request).1 ∧
      (h.step request).2.Matches s names used (r.step s request).2 := by
  cases request with
  | insert name table key values =>
    obtain ⟨o, h', hop, ho, hm'⟩ := hm.operate hr.1
      (P := fun o : Outcome Unit => o.plain = (r.insert s table key values).1)
      (fun c b => c.operates_insert b table key values)
      fun c b hc => Context.insert_agrees hc hs hone hm.agrees (hu table rfl) b key hr.2
    unfold Harness.step answer outcomeAnswer
    dsimp only
    rw [hop]
    exact ⟨congrArg (fun o => Except.ok (Answer.outcome o)) ho, hm'.noteContexts⟩
  | update name table key values =>
    obtain ⟨o, h', hop, ho, hm'⟩ := hm.operateOn hr.1
      (P := fun o : Outcome Unit => o.plain = (r.update s table key values).1)
      (fun c => c.operates_update table key values)
      fun c hc => Context.update_agrees hc hs hm.agrees (hu table rfl) key hr.2 (hmarkers rfl)
    unfold Harness.step answer outcomeAnswer
    dsimp only
    rw [hop]
    exact ⟨congrArg (fun o => Except.ok (Answer.outcome o)) ho, hm'.noteContexts⟩
  | read name table key fields =>
    obtain ⟨o, h', hop, ho, hm'⟩ := hm.operateOn hr.1
      (P := fun o : Outcome (Mapping Bytes) => o.plain = r.read s table key fields)
      (fun c => c.operates_read table key fields)
      fun c hc => Context.read_agrees hc hs hm.agrees (hu table rfl) key hr.2
    unfold Harness.step answer
    dsimp only
    rw [hop]
    exact ⟨congrArg (fun o => Except.ok (Answer.record o)) ho, hm'.noteContexts⟩
  | delete name table key =>
    obtain ⟨o, h', hop, ho, hm'⟩ := hm.operateOn hr
      (P := fun o : Outcome Unit => o = .ok none)
      (fun c => c.operates_delete table key)
      fun c hc => Context.delete_agrees hc hs hm.agrees (hu table rfl) key
    unfold Harness.step answer outcomeAnswer
    dsimp only
    rw [hop, ho]
    exact ⟨rfl, hm'.noteContexts⟩
  | scan name table start count fields =>
    obtain ⟨o, h', hop, ho, hm'⟩ := hm.operateOn hr.1
      (P := fun o : Outcome (List (Mapping Bytes)) =>
        o.plain = r.scan table start count.toNat fields)
      (fun c => c.operates_scan table start count fields)
      fun c hc => Context.scan_agrees hc hs hm.agrees (hu table rfl) start hr.2.1 hr.2.2
    unfold Harness.step answer
    dsimp only
    rw [hop]
    exact ⟨congrArg (fun o => Except.ok (Answer.records o)) ho, hm'.noteContexts⟩
  | _ => cases hr

/-- A run of requests on records is answered as by the reference. -/
lemma Matches.run (hm : h.Matches s names used r) (hs : s.RoutesApart) (hone : s.batchSize = 1)
    {requests : List Request} (hr : ∀ request ∈ requests, request.Accesses s names)
    (hu : ∀ request ∈ requests, ∀ table, request.table? = some table → used table)
    (hmarkers : MarkersDiffer (r.markers + requests.countP Request.isUpdate)) :
    (h.run requests).1.map (Except.map Answer.plain) = (r.run s requests).1.map .ok := by
  induction requests generalizing h r with
  | nil => rfl
  | cons request rest ih =>
    rw [List.countP_cons] at hmarkers
    have hfirst : request.isUpdate = true → MarkersDiffer (r.markers + 1) := by
      intro hupdate
      rw [if_pos hupdate] at hmarkers
      exact hmarkers.mono (by omega)
    have hrest : MarkersDiffer ((r.step s request).2.markers + rest.countP Request.isUpdate) := by
      rw [Reference.markers_step]
      exact hmarkers.mono (by omega)
    obtain ⟨hanswer, hstep⟩ := hm.step hs hone (hr request List.mem_cons_self)
      (hu request List.mem_cons_self) hfirst
    have hanswers := ih hstep (fun r hmem => hr r (List.mem_cons_of_mem _ hmem))
      (fun r hmem => hu r (List.mem_cons_of_mem _ hmem)) hrest
    rw [run_cons, List.map_cons, hanswer, hanswers]
    rfl

section Launching

variable {cluster : Cluster} {draws : Draws} {provider first : String} {bag : Bag}
  {others : Mapping Bag}

/-- Workers that were launched match the reference without records, as far as tables are empty. -/
lemma Launched.matches (hl : Launched cluster draws [] provider ((first, bag) :: others) h)
    (hs : (Settings.resolve bag).1 = .ok s) :
    h.Matches s (Mapping.keys ((first, bag) :: others))
      (fun table => h.world.rows s.database table = []) { draws := draws } := by
  obtain ⟨c, hshares, hopened⟩ := hl.shares_opened
  have hopens := hl.opens
  obtain rfl : c.settings = s := Reading.ok.inj (hopened.settings.symm.trans hs)
  refine ⟨fun name hname => ?_, fun other hother => ?_,
    ⟨hopens.faults, hopens.draws, hopens.markers, fun table hempty => ?_⟩⟩
  · obtain ⟨bag', hholds⟩ := hshares.holds hname
    exact ⟨_, _, hholds.worker, hholds.registered, (List.getElem?_eq_some_iff.mp hholds.context).1⟩
  · rw [hshares.contexts] at hother
    obtain rfl := List.mem_singleton.mp hother
    exact hopened.serves
  · rw [hempty]
    exact .empty _ _

/-- Workers that write documents one by one, in tables that are empty at first and without faults,
share a key-value map: however their requests interleave, every one is answered as by the reference,
apart from messages. -/
theorem workers_share_key_value_map
    (hl : Launched cluster draws [] provider ((first, bag) :: others) h)
    (hs : (Settings.resolve bag).1 = .ok s) (hone : s.batchSize = 1) (hroutes : s.RoutesApart)
    {requests : List Request}
    (hr : ∀ request ∈ requests, request.Accesses s (Mapping.keys ((first, bag) :: others)))
    (hempty : ∀ request ∈ requests, ∀ table, request.table? = some table →
      h.world.rows s.database table = [])
    (hmarkers : MarkersDiffer (requests.countP Request.isUpdate)) :
    (h.run requests).1.map (Except.map Answer.plain) =
      ((Reference.run s { draws := draws } requests).1).map .ok := by
  refine (hl.matches hs).run hroutes hone hr hempty ?_
  rw [Nat.zero_add]
  exact hmarkers

end Launching

/-- Two workers of a deployment in which every record carries its key again and a location. -/
def routedPair : Harness :=
  ((start {} {} [] "p" [("a", [("mongodb.shardKey", .text "shard"),
    ("mongodb.location", .text "US")]), ("b", [])]).run [.init "a", .init "b"]).2

/-- Two workers insert, change, read and remove the records of a table. -/
def recordLives : List Request :=
  [.insert "a" "t" "2" [], .insert "b" "t" "1" [], .insert "a" "t" "1" [], .update "a" "t" "1" [],
    .read "b" "t" "1" (some ["f"]), .scan "a" "t" "2" 1 none, .delete "a" "t" "1",
    .read "b" "t" "1" none, .update "b" "t" "1" []]

/-- A second insertion under a key fails, and so do a read and an update after the deletion. -/
theorem workers_share_key_value_map_routedPair :
    Launched {} {} [] "p" [("a", [("mongodb.shardKey", .text "shard"),
        ("mongodb.location", .text "US")]), ("b", [])] routedPair ∧
      (routedPair.run recordLives).1.map succeeds =
        [true, true, false, true, true, true, true, false, false] ∧
      ∃ s : Settings, s.shardKey = "shard" ∧ s.location = "US" ∧
        (routedPair.run recordLives).1.map (Except.map Answer.plain) =
          ((Reference.run s { draws := {} } recordLives).1).map .ok := by
  have hl : Launched {} {} [] "p" [("a", [("mongodb.shardKey", .text "shard"),
      ("mongodb.location", .text "US")]), ("b", [])] routedPair := by
    unfold routedPair
    exact launched_of_isOk (show ["a", "b"].Nodup by decide) (by decide +kernel)
  obtain ⟨c, -, hopened⟩ := hl.shares_opened
  have hsettings : (Settings.resolve [("mongodb.shardKey", .text "shard"),
      ("mongodb.location", .text "US")]).1.value?.map (fun s =>
        (s.shardKey, s.location, s.locationField, s.database, s.batchSize)) =
          some ("shard", "US", "location", "ycsb", 1) := by
    decide +kernel
  simp only [hopened.settings, Reading.value?_ok, Option.map_some, Option.some.injEq,
    Prod.mk.injEq] at hsettings
  obtain ⟨hshard, hlocation, hfield, hdatabase, hone⟩ := hsettings
  have hroutes : c.settings.RoutesApart := by
    constructor
    · rw [hshard]
      decide
    · rw [hlocation, hfield]
      decide
    · rw [hshard, hlocation, hfield]
      decide
  have hr : ∀ request ∈ recordLives, request.Accesses c.settings ["a", "b"] := by
    simp [recordLives, Request.Accesses, Mapping.keys]
  have hempty : routedPair.world.rows "ycsb" "t" = [] :=
    List.isEmpty_iff.mp (by decide +kernel)
  have htables : ∀ request ∈ recordLives, ∀ table, request.table? = some table →
      routedPair.world.rows c.settings.database table = [] := by
    rw [hdatabase]
    simp [recordLives, Request.table?, hempty]
  have hmarkers : MarkersDiffer (recordLives.countP Request.isUpdate) :=
    markersDiffer_of_lt (by decide)
  exact ⟨hl, by decide +kernel, c.settings, hshard, hlocation,
    workers_share_key_value_map hl hopened.settings hone hroutes hr htables hmarkers⟩

end Harness

end LoadBinding
