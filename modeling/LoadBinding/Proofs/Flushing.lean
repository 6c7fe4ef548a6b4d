import LoadBinding.Proofs.Queueing

/-!
# Flushing tables apart

A flush writes one buffer after the other, each with a look-up of its table and one call.  Whether
an attempt fails depends on the faults of the deployment and on what its own table holds, so no
attempt prevents or changes another; the outcome of the flush is that of the last attempt that
failed.  What is attempted, and in which order, is told by the queue of the documents that wait.
-/

namespace LoadBinding

open LoadBinding.Text LoadBinding.Action World Batch

/-! ## Attempts -/

/-- How the attempt to write some documents into a table of a database fails in a world, if it does:
the look-up of the table or the write may show a fault, or the table may refuse a document. -/
def World.attemptFailure? (w : World) (database : String) (batch : String × List Document) :
    Option Failure :=
  let fault? := (w.faults.get? (lookUpAddress batch.1)).or (w.faults.get? (writeAddress batch.1))
  let refusal? := ((w.cluster.collection database batch.1).insertMany batch.2).2
  (fault?.map Failure.fault).or (refusal?.map Failure.store)

/-- The calls of an attempt to write some documents into a table of a database: the look-up of the
table and, unless this shows a fault, the write. -/
def Attempts (faults : Faults) (database : String) (batch : String × List Document)
    (calls : List Call) : Prop :=
  ∃ t : Target, t.database = database ∧ t.collection = batch.1 ∧
    calls = .use t ::
      if (faults.get? (lookUpAddress batch.1)).isNone then [.insertMany t batch.2] else []

/-- The outcome of some attempts: success if none has failed, and else the last failure. -/
def Outcome.ofFailures (failures : List Failure) : Outcome Unit :=
  failures.getLast?.elim (.ok none) fun e => .error e.message

lemma World.attemptFailure?_congr {w w' : World} {database : String}
    {batch : String × List Document} (hfaults : w'.faults = w.faults)
    (hcontent : w'.cluster.collection database batch.1 =
      w.cluster.collection database batch.1) :
    w'.attemptFailure? database batch = w.attemptFailure? database batch := by
  unfold World.attemptFailure?
  rw [hfaults, hcontent]

/-- A failure takes the place of the outcome so far. -/
lemma Outcome.ofFailures_append (failures : List Failure) (failure? : Option Failure) :
    (if (ofFailures failure?.toList).isOk then ofFailures failures
      else ofFailures failure?.toList) = ofFailures (failures ++ failure?.toList) := by
  cases failure? with
  | none =>
    rw [Option.toList_none, List.append_nil]
    rfl
  | some e =>
    unfold ofFailures
    rw [Option.toList_some, List.getLast?_concat]
    rfl

namespace Context

variable {c : Context} {s : Settings}

/-- An attempt to write some documents into a table of a database leads from a world to another. -/
structure Attempted (database : String) (batch : String × List Document)
    (failure? : Option Failure) (w w' : World) : Prop where
  failure : failure? = w.attemptFailure? database batch
  calls : ∃ issued, w'.calls = w.calls ++ issued ∧ Attempts w.faults database batch issued
  faults : w'.faults = w.faults
  others : ∀ table ≠ batch.1,
    w'.cluster.collection database table = w.cluster.collection database table

/-- Looking a table up and writing to it is an attempt. -/
lemma attempted_write (hc : c.Serves s) (name : String) (docs : List Document) (w : World) :
    ∃ failure?, Attempted s.database (name, docs) failure? w
        (exec (table c.settings c.selected name >>= fun t => t.insertMany docs) w).2 ∧
      (exec (table c.settings c.selected name >>= fun t => t.insertMany docs) w).1 =
        failure?.elim (.ok ()) .error := by
  obtain ⟨t, ht⟩ := hc.exists_reaches name
  have hdatabase := hc.database_eq ht
  have hcollection := ht.collection_eq
  cases hlookUp : w.faults.get? (lookUpAddress name) with
  | some f =>
    rw [exec_bind_of_error (exec_table_of_fault ht hlookUp)]
    refine ⟨some (.fault f), ⟨?_, ?_, rfl, fun _ _ => Cluster.collection_useDatabase ..⟩, rfl⟩
    · simp [attemptFailure?, hlookUp]
    · exact ⟨[.use t], rfl, t, hdatabase, hcollection, by simp [hlookUp]⟩
  | none =>
    have hcalls : ∃ issued, (w.lookedUp t).calls ++ [Call.insertMany t docs] = w.calls ++ issued ∧
        Attempts w.faults s.database (name, docs) issued :=
      ⟨_, List.append_assoc .., t, hdatabase, hcollection, by simp [hlookUp]⟩
    have hlookedUp (table : String) : (w.lookedUp t).cluster.collection s.database table =
        w.cluster.collection s.database table := by
      simp [lookedUp]
    have hfault : (w.lookedUp t).faults.get? (Call.insertMany t docs).address =
        w.faults.get? (writeAddress name) := by
      rw [← hcollection]
      rfl
    rw [exec_bind_of_ok (exec_table_of_no_fault ht hlookUp)]
    cases hwrite : w.faults.get? (writeAddress name) with
    | some f =>
      rw [exec_insertMany_of_fault (hfault.trans hwrite)]
      refine ⟨some (.fault f), ⟨?_, hcalls, rfl, fun table _ => hlookedUp table⟩, rfl⟩
      simp [attemptFailure?, hlookUp, hwrite]
    | none =>
      have hcontent : t.content (w.lookedUp t).cluster =
          w.cluster.collection s.database name := by
        rw [content_lookedUp, Target.content, hdatabase, hcollection]
      rw [exec_insertMany_of_no_fault (hfault.trans hwrite), hcontent]
      refine ⟨((w.cluster.collection s.database name).insertMany docs).2.map Failure.store,
        ⟨?_, hcalls, rfl, fun table hne => ?_⟩, ?_⟩
      · simp [attemptFailure?, hlookUp, hwrite]
      · have hput := Cluster.collection_setCollection (w.lookedUp t).cluster t.database
          t.collection ((w.cluster.collection s.database name).insertMany docs).1
          s.database table
        rw [if_neg fun h => hne (h.2.trans hcollection), hlookedUp] at hput
        exact hput
      · cases ((w.cluster.collection s.database name).insertMany docs).2 <;> rfl

/-- A flush of one buffer attempts to write it. -/
lemma attempted_flushTable (hc : c.Serves s) (name : String) (docs : List Document) (w : World) :
    ∃ failure?, Attempted s.database (name, docs) failure? w ((c.flushTable name docs).run w).2 ∧
      ((c.flushTable name docs).run w).1.1 = .ofFailures failure?.toList := by
  obtain ⟨failure?, hattempted, hresult⟩ := attempted_write hc name docs w
  refine ⟨failure?, ?_⟩
  unfold flushTable
  rw [next_eq]
  dsimp only
  rw [settings_advance, run_bind, run_attempt]
  cases failure? with
  | none =>
    rw [hresult]
    exact ⟨⟨hattempted.failure, hattempted.calls, hattempted.faults, hattempted.others⟩, rfl⟩
  | some e =>
    rw [hresult]
    exact ⟨⟨hattempted.failure, hattempted.calls, hattempted.faults, hattempted.others⟩, rfl⟩

/-- A flush attempts to write each of its buffers once, one after the other. -/
lemma attempted_flushTables (hc : c.Serves s) (failures : List Failure)
    {drained : List (String × List Document)} (hd : (drained.map Prod.fst).Nodup) (w : World) :
    ((c.flushTables (.ofFailures failures) drained).run w).1.1 =
        .ofFailures (failures ++ drained.filterMap (w.attemptFailure? s.database)) ∧
      ∃ parts, ((c.flushTables (.ofFailures failures) drained).run w).2.calls =
          w.calls ++ parts.flatten ∧
        List.Forall₂ (Attempts w.faults s.database) drained parts := by
  induction drained generalizing c failures w with
  | nil =>
    refine ⟨?_, [], ?_, .nil⟩
    · rw [List.filterMap_nil, List.append_nil]
      rfl
    · rw [List.flatten_nil, List.append_nil]
      rfl
  | cons batch rest ih =>
    obtain ⟨name, docs⟩ := batch
    obtain ⟨hname, hrest⟩ := List.nodup_cons.mp hd
    obtain ⟨failure?, ⟨hfailure, ⟨first, hfirst, hattempts⟩, hfaults, hothers⟩, houtcome⟩ :=
      attempted_flushTable hc name docs w
    have hnext := hc.operates (c.operates_flushTable name docs) w
    -- The later attempts are to other tables, so they find what they would have found before.
    have hsame : rest.filterMap
        (((c.flushTable name docs).run w).2.attemptFailure? s.database) =
          rest.filterMap (w.attemptFailure? s.database) := by
      refine List.filterMap_congr fun batch hbatch => attemptFailure?_congr hfaults ?_
      refine hothers batch.1 ?_
      rintro heq
      exact hname (heq ▸ List.mem_map_of_mem hbatch)
    have houtcomes : (if ((c.flushTable name docs).run w).1.1.isOk then .ofFailures failures
        else ((c.flushTable name docs).run w).1.1) =
          Outcome.ofFailures (failures ++ failure?.toList) := by
      rw [houtcome]
      exact Outcome.ofFailures_append ..
    obtain ⟨hlast, parts, hparts, hlater⟩ :=
      ih hnext (failures ++ failure?.toList) hrest ((c.flushTable name docs).run w).2
    rw [run_flushTables_cons, houtcomes]
    constructor
    · rw [hlast, hsame, List.append_assoc, List.filterMap_cons, ← hfailure]
      cases failure? <;> rfl
    · refine ⟨first :: parts, ?_, .cons hattempts (hfaults ▸ hlater)⟩
      rw [hparts, hfirst, List.flatten_cons, List.append_assoc]

end Context

/-! ## Flushes of a worker -/

namespace Harness

variable {h : Harness} {name : String} {w : Worker} {active : Active} {q : Queue}

/-- A flush of a worker, for one table or for all, attempts to write what waits for each selected
table of a database. -/
structure FlushesApart (h : Harness) (name : String) (selection : Option String) (q : Queue)
    (database : String) : Prop where
  /-- The attempts are made in the order of the queue, with the look-up and the write of each table
  following those of the table before. -/
  calls : ∃ parts : List (List Call),
    (h.step (.flush name selection)).2.world.calls = h.world.calls ++ parts.flatten ∧
      List.Forall₂ (Attempts h.world.faults database)
        (q.byTable.filter fun batch => isSelected selection batch.1) parts
  /-- The flush succeeds if all attempts do, and otherwise its answer is the last failure. -/
  answer : (h.step (.flush name selection)).1 =
    .ok (.outcome (.ofFailures ((q.byTable.filter fun batch => isSelected selection batch.1)
      |>.filterMap (h.world.attemptFailure? database))))
  /-- The documents of the other tables are still buffered, in their order. -/
  buffered : (h.step (.flush name selection)).2.buffered name =
    q.byTable.filter fun batch => !isSelected selection batch.1

/-- Whatever was requested before, and whatever faults the deployment shows: a registered worker has
buffered the documents that wait, by table and in the order in which the tables began to wait.  A
flush attempts to write each selected table once and in this order, whether or not others fail, and
leaves none of their documents buffered.  It succeeds exactly if all attempts do, and otherwise
reports the last failure. -/
theorem flush_attempts_each_table {cluster : Cluster} {draws : Draws} {faults : Faults}
    {provider : String} {bags : Mapping Bag} {requests : List Request}
    (hrun : ((start cluster draws faults provider bags).run requests).2 = h)
    (hqueue : (start cluster draws faults provider bags).queue name [] requests = q)
    (hw : h.workers.get? name = some w) (ha : w.active = some active)
    (selection : Option String) :
    h.buffered name = q.byTable ∧ q.byTable.keys.Nodup ∧
      ∃ c, h.contexts[active.context]? = some c ∧
        h.FlushesApart name selection q c.settings.database := by
  have hsteady : h.Steady (fun _ => True) Batch.Suits := by
    rw [← hrun]
    exact steady_run endures_suits provider bags trivial fun _ _ _ _ hop => maintains_suits hop
  have hbuffered : h.buffered name = q.byTable := by
    rw [← hrun, ← hqueue]
    refine buffered_run ?_ (buffered_start ..) requests
    exact steady_start provider bags trivial
  have hkeys : q.byTable.keys.Nodup := by
    rw [Queue.keys_byTable]
    exact q.nodup_tables
  obtain ⟨c, hholds, hserves, -⟩ := hsteady.exists_holds hw ha
  have hbuffers : active.batch.buffers = q.byTable := hholds.buffered_eq.symm.trans hbuffered
  have hdue : ((q.byTable.filter fun batch => isSelected selection batch.1).map Prod.fst).Nodup :=
    hkeys.sublist (List.filter_sublist.map Prod.fst)
  obtain ⟨houtcome, parts, hparts, hattempts⟩ :=
    c.attempted_flushTables hserves [] hdue h.world
  have hstep := step_flush hholds selection
  have hflush := c.run_flush hbuffers selection h.world
  rw [drain_eq hbuffers] at hflush
  refine ⟨hbuffered, hkeys, c, hholds.context, ⟨parts, ?_, hattempts⟩, ?_, ?_⟩
  · rw [hstep, hflush]
    exact hparts
  · rw [hstep, hflush]
    exact congrArg (fun o => Except.ok (Answer.outcome o)) houtcome
  · rw [hstep]
    refine (buffered_operated ((c.flush active.batch selection).run h.world).1.2.1 _
      ((c.flush active.batch selection).run h.world).2).trans ?_
    rw [if_pos rfl, hflush]

/-- Documents are buffered for `a` and `b`, those for `a` are flushed, and further ones are buffered
for `a` and `c`; then `b` cannot be looked up any more, and `a` cannot be written to. -/
def waitingRequests : List Request :=
  [.init "w", .insert "w" "a" "1" [], .insert "w" "b" "2" [], .flush "w" (some "a"),
    .insert "w" "a" "3" [], .insert "w" "c" "4" [],
    .setFaults [("use:b", ⟨.unreachable, "b is gone"⟩), ("insert_many:a", ⟨.refused, "a is full"⟩)]]

/-- A worker that writes in batches of four, before any request. -/
def batchingWorker : Harness :=
  start {} {} [] "p" [("w", [("batchsize", .text "4")])]

/-- The buffers of `b`, `a` and `c` are attempted in this order.  Two attempts fail; the failure of
`a` is reported, since it is the last, and the documents of `c` are written nevertheless. -/
theorem flush_attempts_each_table_twoFailing :
    (batchingWorker.queue "w" [] waitingRequests).byTable.keys = ["b", "a", "c"] ∧
      ((batchingWorker.run waitingRequests).2.step (.flush "w" none)).2.buffered "w" = [] ∧
      (∃ outcome, ((batchingWorker.run waitingRequests).2.step (.flush "w" none)).1 =
          .ok (.outcome outcome) ∧
        outcome.status = .error ∧ outcome.message = some "a is full") ∧
      (((batchingWorker.run waitingRequests).2.step (.flush "w" none)).2.world.rows
        "ycsb" "c").length = 1 := by
  have hsome : (((batchingWorker.run waitingRequests).2.workers.get? "w").bind
      Worker.active).isSome = true := by
    decide +kernel
  obtain ⟨active, hactive⟩ := Option.isSome_iff_exists.mp hsome
  obtain ⟨w, hw, ha⟩ := Option.bind_eq_some_iff.mp hactive
  have hdatabase : ∀ c ∈ (batchingWorker.run waitingRequests).2.contexts,
      c.settings.database = "ycsb" := by
    decide +kernel
  obtain ⟨-, -, c, hc, hflush⟩ := flush_attempts_each_table
    (h := (batchingWorker.run waitingRequests).2)
    (q := batchingWorker.queue "w" [] waitingRequests) rfl rfl hw ha none
  have hanswer := hflush.answer
  rw [hdatabase c (List.mem_of_getElem? hc)] at hanswer
  refine ⟨by decide +kernel, ?_, ⟨_, hanswer, by decide +kernel, by decide +kernel⟩,
    by decide +kernel⟩
  rw [hflush.buffered]
  exact List.filter_eq_nil_iff.mpr fun batch _ => by simp [isSelected]

end Harness

end LoadBinding
