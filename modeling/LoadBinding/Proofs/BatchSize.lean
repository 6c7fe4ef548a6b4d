import LoadBinding.Proofs.Ledgers

/-!
# The size of a batch does not matter

A run of insertions, flushes and clean-ups stores the same records whatever the size of a batch, and
answers the same, as long as the deployment shows no fault and every insertion has a key of its own.

Both follow from the ledger of the run, which does not mention batches.  `Harness.Follows` says that
a harness agrees with a ledger: what is written to a table together with what its workers have
buffered is what the ledger has, up to order, and in order when there is a single worker.
-/

namespace LoadBinding

open LoadBinding.Text LoadBinding.Action World Batch Collection

/-! ## Harnesses and ledgers -/

/-- The documents that a worker has buffered for a table. -/
def Worker.pending (w : Worker) (table : String) : List Document :=
  match w.active with
  | none => []
  | some active => active.batch.buffer table

/-- The documents that some workers have buffered for a table. -/
def pending (workers : Mapping Worker) (table : String) : List Document :=
  workers.flatMap fun pair => pair.2.pending table

/-- What is written to a table and what is still buffered for it make up what was inserted, in order
when there is a single worker. -/
structure Books (workers : Mapping Worker) (table : String) (written inserted : List Document) :
    Prop where
  perm : (written ++ pending workers table).Perm inserted
  eq_of_single : workers.length = 1 → written ++ pending workers table = inserted

/-- An operation of one worker, by the books of its table. -/
lemma Books.operate {workers : Mapping Worker} {table name : String}
    {written inserted moved built : List Document} {w w' : Worker}
    (h : Books workers table written inserted) (hw : workers.get? name = some w)
    (hbooks : moved ++ w'.pending table = w.pending table ++ built) :
    Books (workers.set name w') table (written ++ moved) (inserted ++ built) := by
  obtain ⟨before, after, hworkers, hset⟩ := Mapping.exists_split hw
  have hpending (u : Worker) : pending (before ++ (name, u) :: after) table =
      pending before table ++ (u.pending table ++ pending after table) := by
    simp [pending]
  have hold : pending workers table =
      pending before table ++ (w.pending table ++ pending after table) := by
    rw [hworkers, hpending]
  constructor
  · rw [hset, hpending]
    have hmoved : (written ++ moved ++ (pending before table ++ (w'.pending table ++
        pending after table))).Perm (written ++ pending workers table ++ built) := by
      have hfront : (moved ++ pending before table).Perm (pending before table ++ moved) :=
        List.perm_append_comm
      have hback : (built ++ pending after table).Perm (pending after table ++ built) :=
        List.perm_append_comm
      have hleft := (hfront.append_right (w'.pending table ++ pending after table)).append_left
        written
      have hright := ((hback.append_left (w.pending table)).append_left
        (pending before table)).append_left written
      have hmiddle : moved ++ (w'.pending table ++ pending after table) =
          w.pending table ++ (built ++ pending after table) := by
        rw [← List.append_assoc, hbooks, List.append_assoc]
      rw [hold]
      simp only [List.append_assoc] at hleft hright ⊢
      rw [hmiddle] at hleft
      exact hleft.trans hright
    exact hmoved.trans (h.perm.append_right built)
  · intro hsingle
    -- The worker is the only one, so nothing stands before or after it.
    rw [hset, List.length_append, List.length_cons] at hsingle
    obtain rfl : before = [] := List.eq_nil_of_length_eq_zero (by omega)
    obtain rfl : after = [] := List.eq_nil_of_length_eq_zero (by omega)
    have hworkers' : workers.length = 1 := by rw [hworkers]; rfl
    have hinserted := h.eq_of_single hworkers'
    rw [hold] at hinserted
    rw [hset, hpending, ← hinserted]
    simp only [pending, List.flatMap_nil, List.nil_append, List.append_nil]
    rw [List.append_assoc, hbooks, List.append_assoc]

namespace Harness

/-- A harness agrees with a ledger: the same workers are registered, the same draws have been taken,
and the books of every table are balanced. -/
structure Follows (h : Harness) (s : Settings) (n : ℕ) (base : String → String → List Row)
    (l : Ledger) : Prop where
  faults : h.world.faults = []
  draws : h.world.draws = l.draws
  workers : h.workers.mapValues (fun w => w.active.isSome) = l.workers
  contexts : ∀ c ∈ h.contexts, c.Serves s
  batches : ∀ pair ∈ h.workers, ∀ active, pair.2.active = some active →
    active.context < h.contexts.length ∧ active.batch.Fits n
  others : ∀ database table, database ≠ s.database →
    h.world.rows database table = base database table
  books : ∀ table, ∃ written,
    h.world.rows s.database table = base s.database table ++ written.map rowOf ∧
      Books h.workers table written (l.documents table)

variable {h : Harness} {s : Settings} {n : ℕ} {base : String → String → List Row} {l : Ledger}
  {name : String} {w : Worker} {active : Active} {c : Context}

/-- A worker that the ledger has registered holds a context. -/
lemma Follows.exists_holds (hf : h.Follows s n base l) (hr : l.workers.get? name = some true) :
    ∃ w active c, h.Holds name w active c ∧ c.Serves s ∧ active.batch.Fits n := by
  rw [← hf.workers, Mapping.get?_mapValues, Option.map_eq_some_iff] at hr
  obtain ⟨w, hw, hactive⟩ := hr
  obtain ⟨active, hactive⟩ := Option.isSome_iff_exists.mp hactive
  obtain ⟨hlt, hfits⟩ := hf.batches _ (Mapping.mem_of_get? hw) active hactive
  have hc := List.getElem?_eq_getElem hlt
  exact ⟨w, active, _, ⟨hw, hactive, hc⟩, hf.contexts _ (List.getElem_mem hlt), hfits⟩

/-- A worker that the ledger has not registered does nothing. -/
lemma Follows.not_holds (hf : h.Follows s n base l) (hr : l.workers.get? name ≠ some true)
    (w : Worker) (active : Active) (c : Context) : ¬ h.Holds name w active c := by
  intro hw
  refine hr ?_
  rw [← hf.workers, Mapping.get?_mapValues, hw.worker, Option.map_some, hw.registered]
  rfl

lemma Follows.noteContexts (hf : h.Follows s n base l) : h.noteContexts.Follows s n base l :=
  ⟨hf.faults, hf.draws, hf.workers, hf.contexts, hf.batches, hf.others, hf.books⟩

/-! ### What one request does -/

/-- A harness follows its ledger through an operation that stores what was buffered and built. -/
lemma Follows.operated (hf : h.Follows s n base l) (hw : h.Holds name w active c) {c' : Context}
    (hc' : c'.Serves s) {b' : Batch} (hb' : b'.Fits n) {built : String → List Document}
    {world : World} {draws : Draws} (hdraws : world.draws = draws)
    (hstores : Stores s.database active.batch b' built h.world world) :
    (h.operated name w active c' b' world).Follows s n base
      { l with draws := draws, documents := fun table => l.documents table ++ built table } := by
  obtain ⟨writes, hwrites, hbooks⟩ := hstores.exists_writes
  have hlt : active.context < h.contexts.length := (List.getElem?_eq_some_iff.mp hw.context).1
  have hregistered : (h.workers.mapValues fun w => w.active.isSome).get? name = some true := by
    rw [Mapping.get?_mapValues, hw.worker, Option.map_some, hw.registered]
    rfl
  refine ⟨hwrites.faults.trans hf.faults, hdraws, ?_, ?_, ?_, ?_, fun table => ?_⟩
  · refine (Mapping.mapValues_set _ _ _ _).trans ?_
    exact (Mapping.set_of_get? hregistered).trans hf.workers
  · intro other hother
    rcases List.mem_or_eq_of_mem_set hother with hother | rfl
    · exact hf.contexts other hother
    · exact hc'
  · intro pair hpair other hother
    have hlength : (h.operated name w active c' b' world).contexts.length = h.contexts.length :=
      List.length_set
    rw [hlength]
    rcases Mapping.mem_set hpair with rfl | hpair
    · obtain rfl := Option.some.inj hother
      exact ⟨hlt, hb'⟩
    · exact hf.batches pair hpair other hother
  · intro database table hne
    refine (hwrites.rows database table).trans ?_
    rw [if_neg hne, List.append_nil]
    exact hf.others database table hne
  · obtain ⟨written, hrows, hwritten⟩ := hf.books table
    refine ⟨written ++ docsOf writes table, ?_, hwritten.operate hw.worker ?_⟩
    · refine (hwrites.rows s.database table).trans ?_
      rw [if_pos rfl, hrows, List.map_append, List.append_assoc]
    · have hpending : w.pending table = active.batch.buffer table := by
        unfold Worker.pending
        rw [hw.registered]
      rw [hpending]
      exact hbooks table

/-- What is buffered, and what is still to be inserted, can be inserted behind what is written. -/
lemma Follows.insertable (hf : h.Follows s n base l) (hw : h.Holds name w active c) {table : String}
    {built : List Document} (hi : Insertable (base s.database table) (l.documents table ++ built)) :
    Insertable (h.world.rows s.database table) (active.batch.buffer table ++ built) := by
  obtain ⟨written, hrows, hwritten⟩ := hf.books table
  obtain ⟨before, after, hworkers, -⟩ := Mapping.exists_split hw.worker
  have hpending : (active.batch.buffer table).Sublist (pending h.workers table) := by
    have hown : w.pending table = active.batch.buffer table := by
      unfold Worker.pending
      rw [hw.registered]
    unfold pending
    rw [hworkers, List.flatMap_append, List.flatMap_cons, hown]
    exact (List.sublist_append_left _ _).trans (List.sublist_append_right _ _)
  have hsub : (written ++ active.batch.buffer table ++ built).Subperm
      (l.documents table ++ built) :=
    ((hpending.append_left written).append_right built).subperm.trans
      (hwritten.perm.append_right built).subperm
  rw [hrows]
  rw [List.append_assoc] at hsub
  exact (hi.subperm hsub).append_right

/-- A flush follows the ledger, which it leaves as it is. -/
lemma Follows.flush (hf : h.Follows s n base l) (hw : h.Holds name w active c) (hc : c.Serves s)
    (hfits : active.batch.Fits n) (selection : Option String)
    (hi : ∀ table, Insertable (base s.database table) (l.documents table)) :
    ((c.flush active.batch selection).run h.world).1.1 = .ok none ∧
      (h.operated name w active ((c.flush active.batch selection).run h.world).1.2.1
        ((c.flush active.batch selection).run h.world).1.2.2
        ((c.flush active.batch selection).run h.world).2).Follows s n base l := by
  have hbuffered (table : String) :
      Insertable (h.world.rows s.database table) (active.batch.buffer table) := by
    have hnothing := hi table
    rw [← List.append_nil (l.documents table)] at hnothing
    have hrows := hf.insertable hw hnothing
    rwa [List.append_nil] at hrows
  obtain ⟨houtcome, hfits', hdraws, hstores⟩ :=
    Context.flush_stores hc hfits hf.faults selection hbuffered
  have hc' := hc.operates (c.operates_flush active.batch selection) h.world
  have hoperated := hf.operated hw hc' hfits' (hdraws.trans hf.draws) hstores
  simp only [List.append_nil] at hoperated
  exact ⟨houtcome, hoperated⟩

/-- An insertion follows the ledger, which answers the same. -/
lemma Follows.insert (hf : h.Follows s n base l) (hn : s.batchSize = n)
    (hw : h.Holds name w active c) (hc : c.Serves s) (hfits : active.batch.Fits n)
    (table key : String) (values : Mapping Bytes)
    (hi : Insertable (base s.database table) (l.documents table ++ s.stored key values l.draws)) :
    ((c.insert active.batch table key values).run h.world).1.1 =
        s.insertOutcome key values l.draws ∧
      (h.operated name w active ((c.insert active.batch table key values).run h.world).1.2.1
        ((c.insert active.batch table key values).run h.world).1.2.2
        ((c.insert active.batch table key values).run h.world).2).Follows s n base
          { l with
            draws := (s.documentOf key values l.draws).2
            documents := fun t =>
              l.documents t ++ if t = table then s.stored key values l.draws else [] } := by
  have hinsertable := hf.insertable hw hi
  rw [← hf.draws] at hinsertable ⊢
  obtain ⟨houtcome, hfits', hdraws, hstores⟩ :=
    Context.insert_stores hc hn hfits hf.faults table key values hinsertable
  have hc' := hc.operates (c.operates_insert active.batch table key values) h.world
  exact ⟨houtcome, hf.operated hw hc' hfits' hdraws hstores⟩

/-- Before a worker is unregistered, what it has buffered is written. -/
lemma Follows.flushed (hf : h.Follows s n base l) (hw : h.Holds name w active c) (hc : c.Serves s)
    (hfits : active.batch.Fits n)
    (hi : ∀ table, Insertable (base s.database table) (l.documents table)) :
    (h.flushed name active.batch).Follows s n base l ∧
      ∃ w', (h.flushed name active.batch).workers.get? name = some w' ∧
        ∀ table, w'.pending table = [] := by
  unfold Harness.flushed
  cases hcount : active.batch.count == 0 with
  | true =>
    rw [if_pos rfl]
    refine ⟨hf, w, hw.worker, fun table => ?_⟩
    unfold Worker.pending
    rw [hw.registered]
    exact active.batch.buffer_of_count_eq_zero (by simpa using hcount) table
  | false =>
    rw [if_neg (by decide), operate_of_holds hw]
    refine ⟨(hf.flush hw hc hfits none hi).2, _, get?_operated h name w active _ _ _, ?_⟩
    exact c.buffer_flush_none active.batch h.world

/-- A worker without anything buffered is unregistered. -/
lemma Follows.retired (hf : h.Follows s n base l) (hw : h.workers.get? name = some w)
    (hempty : ∀ table, w.pending table = []) (w' : Worker) :
    (h.retired name w').Follows s n base { l with workers := l.workers.set name false } := by
  refine ⟨hf.faults, hf.draws, ?_, hf.contexts, ?_, hf.others, fun table => ?_⟩
  · refine (Mapping.mapValues_set _ _ _ _).trans ?_
    rw [hf.workers]
    rfl
  · intro pair hpair other hother
    rcases Mapping.mem_set hpair with rfl | hpair
    · cases hother
    · exact hf.batches pair hpair other hother
  · obtain ⟨written, hrows, hwritten⟩ := hf.books table
    have hbooks : [] ++ ({ w' with active := none } : Worker).pending table =
        w.pending table ++ [] := by
      rw [hempty]
      rfl
    have hretired := hwritten.operate hw hbooks
    rw [List.append_nil, List.append_nil] at hretired
    exact ⟨written, hrows, hretired⟩

/-- Closing connections changes no row. -/
lemma rows_of_closes {world world' : World} (hc : Closes world world') (database table : String) :
    world'.rows database table = world.rows database table := by
  unfold World.rows Cluster.collection Cluster.database
  rw [hc.databases]

/-- Taking back a registration changes nothing that a ledger notes. -/
lemma Follows.release (hf : h.Follows s n base l) (provider : String) :
    (h.release provider).Follows s n base l := by
  have hcloses := closes_release h provider
  have hrows := rows_of_closes hcloses
  have hworkers := workers_release h provider
  obtain ⟨hserves, hlength⟩ : (∀ c ∈ (h.release provider).contexts, c.Serves s) ∧
      (h.release provider).contexts.length = h.contexts.length := by
    rcases contexts_release h provider with hsame | ⟨number, c, hc, hclosed⟩
    · rw [hsame]
      exact ⟨hf.contexts, rfl⟩
    · rw [hclosed]
      refine ⟨fun other hother => ?_, List.length_set⟩
      rcases List.mem_or_eq_of_mem_set hother with hother | rfl
      · exact hf.contexts other hother
      · exact (hf.contexts c (List.mem_of_getElem? hc)).close h.world
  refine ⟨hcloses.faults.trans hf.faults, hcloses.draws.trans hf.draws, ?_, hserves, ?_, ?_, ?_⟩
  · rw [hworkers]
    exact hf.workers
  · rw [hworkers, hlength]
    exact hf.batches
  · intro database table hne
    rw [hrows]
    exact hf.others database table hne
  · intro table
    rw [hrows, hworkers]
    exact hf.books table

/-- A clean-up follows the ledger. -/
lemma Follows.cleanUp (hf : h.Follows s n base l) (hw : h.workers.get? name = some w)
    (hi : ∀ table, Insertable (base s.database table) (l.documents table)) :
    (h.cleanUpWorker name w).Follows s n base
      { l with workers := l.workers.set name false } := by
  cases hactive : w.active with
  | none =>
    have hidle : l.workers.get? name = some false := by
      rw [← hf.workers, Mapping.get?_mapValues, hw, Option.map_some, hactive]
      rfl
    rw [cleanUpWorker_of_idle hactive, Mapping.set_of_get? hidle]
    exact hf
  | some active =>
    obtain ⟨hlt, hfits⟩ := hf.batches _ (Mapping.mem_of_get? hw) active hactive
    have hholds : h.Holds name w active h.contexts[active.context] :=
      ⟨hw, hactive, List.getElem?_eq_getElem hlt⟩
    obtain ⟨hflushed, w', hw', hempty⟩ :=
      hf.flushed hholds (hf.contexts _ (List.getElem_mem hlt)) hfits hi
    rw [cleanUpWorker_of_active hactive]
    exact (hflushed.retired hw' hempty w).release w.provider

/-! ### What a run does -/

/-- A harness follows its ledger through every insertion, flush and clean-up, and answers as it. -/
lemma Follows.step (hf : h.Follows s n base l) (hn : s.batchSize = n)
    (hlocation : s.location.isEmpty = false → s.locationField ≠ idField) {request : Request}
    {rest : List Request} (hfresh : l.Fresh (base s.database) (request :: rest))
    (hr : request.writes = true) :
    (h.step request).1 = (l.step s request).1 ∧
      (h.step request).2.Follows s n base (l.step s request).2 := by
  have hi := (hfresh.step hlocation).insertable
  cases request with
  | insert name table key values =>
    by_cases hregistered : l.workers.get? name = some true
    · obtain ⟨w, active, c, hw, hc, hfits⟩ := hf.exists_holds hregistered
      rw [Ledger.step, if_pos hregistered] at hi ⊢
      have hinsertable := hi table
      dsimp only at hinsertable
      rw [if_pos rfl] at hinsertable
      obtain ⟨houtcome, hfollows⟩ := hf.insert hn hw hc hfits table key values hinsertable
      rw [step_insert hw, houtcome]
      exact ⟨rfl, hfollows.noteContexts⟩
    · rw [Ledger.step, if_neg hregistered, step_insert_of_not_holds (hf.not_holds hregistered)]
      exact ⟨rfl, hf.noteContexts⟩
  | flush name selection =>
    by_cases hregistered : l.workers.get? name = some true
    · obtain ⟨w, active, c, hw, hc, hfits⟩ := hf.exists_holds hregistered
      rw [Ledger.step, if_pos hregistered] at hi ⊢
      obtain ⟨houtcome, hfollows⟩ := hf.flush hw hc hfits selection hi
      rw [step_flush hw, houtcome]
      exact ⟨rfl, hfollows.noteContexts⟩
    · rw [Ledger.step, if_neg hregistered, step_flush_of_not_holds (hf.not_holds hregistered)]
      exact ⟨rfl, hf.noteContexts⟩
  | cleanUp name =>
    have hlookUp : l.workers.get? name = (h.workers.get? name).map fun w => w.active.isSome := by
      rw [← hf.workers, Mapping.get?_mapValues]
    cases hw : h.workers.get? name with
    | none =>
      rw [hw, Option.map_none] at hlookUp
      rw [Ledger.step, hlookUp]
      unfold Harness.step answer
      dsimp only
      rw [hw]
      exact ⟨rfl, hf.noteContexts⟩
    | some w =>
      rw [hw, Option.map_some] at hlookUp
      rw [Ledger.step, hlookUp] at hi ⊢
      rw [step_cleanUp hw]
      exact ⟨rfl, (hf.cleanUp hw hi).noteContexts⟩
  | _ => cases hr

/-- A harness follows its ledger through every run of insertions, flushes and clean-ups. -/
lemma Follows.run (hf : h.Follows s n base l) (hn : s.batchSize = n)
    (hlocation : s.location.isEmpty = false → s.locationField ≠ idField)
    {requests : List Request} (hfresh : l.Fresh (base s.database) requests)
    (hr : ∀ request ∈ requests, request.writes = true) :
    (h.run requests).1 = (l.run s requests).1 ∧
      (h.run requests).2.Follows s n base (l.run s requests).2 := by
  induction requests generalizing h l with
  | nil => exact ⟨rfl, hf⟩
  | cons request rest ih =>
    obtain ⟨hanswer, hstep⟩ := hf.step hn hlocation hfresh (hr request List.mem_cons_self)
    obtain ⟨hanswers, hrun⟩ := ih hstep (hfresh.step hlocation)
      fun r hmem => hr r (List.mem_cons_of_mem _ hmem)
    rw [run_cons]
    refine ⟨?_, hrun⟩
    rw [hanswer, hanswers]
    rfl

/-- Once no worker is registered, nothing is buffered. -/
lemma Follows.pending_eq_nil (hf : h.Follows s n base l)
    (hidle : ∀ pair ∈ l.workers, pair.2 = false) (table : String) :
    pending h.workers table = [] := by
  refine List.flatMap_eq_nil_iff.mpr fun pair hpair => ?_
  have hnone := hidle (pair.1, pair.2.active.isSome)
    (hf.workers ▸ List.mem_map_of_mem hpair)
  unfold Worker.pending
  rw [Option.isSome_eq_false_iff, Option.isNone_iff_eq_none] at hnone
  rw [hnone]

/-! ## Runs with batches of different sizes -/

/-- The ledger of workers that have just been registered. -/
def Ledger.start (draws : Draws) (names : List String) : Ledger where
  draws := draws
  workers := names.map fun name => (name, true)

/-- A run of insertions, flushes and clean-ups that ends with every worker cleaned up, and in which
every insertion has a key of its own, which its table does not have yet. -/
structure Inserts (h : Harness) (s : Settings) (names : List String) (requests : List Request) :
    Prop where
  writes : ∀ request ∈ requests, request.writes = true
  keyed : ∀ request ∈ requests, request.replacesKey = false
  cleaned : ∀ name ∈ names, Request.cleanUp name ∈ requests
  nodup : ∀ table, (insertedKeys table requests).Nodup
  free : ∀ table, ∀ key ∈ insertedKeys table requests,
    taken (h.world.rows s.database table) (.text key) = false

section Launching

variable {cluster : Cluster} {draws : Draws} {provider first : String} {bag : Bag}
  {others : Mapping Bag} {requests : List Request}

/-- Workers that were launched follow the ledger on which nothing is noted. -/
lemma Launched.follows (hl : Launched cluster draws [] provider ((first, bag) :: others) h)
    (hs : (Settings.resolve bag).1 = .ok s) (hn : s.batchSize = n) :
    h.Follows s n h.world.rows
      (Ledger.start draws (Mapping.keys ((first, bag) :: others))) := by
  obtain ⟨c, hshares, hopened⟩ := hl.shares_opened
  have hopens := hl.opens
  obtain rfl : c.settings = s := Reading.ok.inj (hopened.settings.symm.trans hs)
  have hpos : 0 < n := by
    have hsize := Settings.one_le_batchSize hs
    omega
  have hmember {pair : String × Worker} (hpair : pair ∈ h.workers) :
      ∃ bag', pair.2 = freshWorker provider c bag' := by
    rw [hshares.workers] at hpair
    obtain ⟨entry, -, rfl⟩ := List.mem_map.mp hpair
    exact ⟨entry.2, rfl⟩
  refine ⟨hopens.faults, hopens.draws, ?_, ?_, ?_, fun _ _ _ => rfl, fun table => ⟨[], ?_, ?_⟩⟩
  · rw [hshares.workers]
    simp [Ledger.start, Mapping.mapValues, Mapping.keys, freshWorker]
  · intro other hother
    rw [hshares.contexts] at hother
    obtain rfl := List.mem_singleton.mp hother
    exact hopened.serves
  · intro pair hpair active hactive
    obtain ⟨bag', hfresh⟩ := hmember hpair
    rw [hfresh] at hactive
    obtain rfl := Option.some.inj hactive
    rw [hshares.contexts]
    exact ⟨Nat.zero_lt_one, hn, fun _ => hpos⟩
  · exact (List.append_nil _).symm
  · have hnothing : pending h.workers table = [] := by
      refine List.flatMap_eq_nil_iff.mpr fun pair hpair => ?_
      obtain ⟨bag', hfresh⟩ := hmember hpair
      rw [hfresh]
      rfl
    refine ⟨?_, fun _ => ?_⟩
    · rw [hnothing]
      exact .refl _
    · rw [hnothing]
      rfl

/-- After a run in which every worker is cleaned up, exactly what the ledger notes is written. -/
lemma Launched.rows_run (hl : Launched cluster draws [] provider ((first, bag) :: others) h)
    (hs : (Settings.resolve bag).1 = .ok s)
    (hlocation : s.location.isEmpty = false → s.locationField ≠ idField)
    (hr : h.Inserts s (Mapping.keys ((first, bag) :: others)) requests) :
    (h.run requests).1 =
        ((Ledger.start draws (Mapping.keys ((first, bag) :: others))).run s requests).1 ∧
      (∀ database table, database ≠ s.database →
        (h.run requests).2.world.rows database table = h.world.rows database table) ∧
      ∀ table, ∃ written,
        (h.run requests).2.world.rows s.database table =
          h.world.rows s.database table ++ written.map rowOf ∧
        written.Perm (((Ledger.start draws (Mapping.keys ((first, bag) :: others))).run s
          requests).2.documents table) ∧
        (others = [] → written = ((Ledger.start draws
          (Mapping.keys ((first, bag) :: others))).run s requests).2.documents table) := by
  obtain ⟨n, hn⟩ := Int.eq_ofNat_of_zero_le
    (Int.le_of_lt (Int.lt_of_lt_of_le Int.zero_lt_one (Settings.one_le_batchSize hs)))
  set names := Mapping.keys ((first, bag) :: others) with hnames
  have hkeys : Mapping.keys (Ledger.start draws names).workers = names := by
    simp [Ledger.start, Mapping.keys, Function.comp_def]
  have hfresh : (Ledger.start draws names).Fresh (h.world.rows s.database) requests :=
    ⟨fun _ => .nil, fun table => (hr.nodup table).map fun _ _ h => Value.text.inj h,
      hr.free, hr.keyed⟩
  obtain ⟨hanswers, hrun⟩ := (hl.follows hs hn).run hn hlocation hfresh hr.writes
  have hkeys' := (Ledger.keys_run s (Ledger.start draws names) requests).trans hkeys
  have hidle : ∀ pair ∈ ((Ledger.start draws names).run s requests).2.workers,
      pair.2 = false := by
    intro pair hpair
    have hname : pair.1 ∈ names := hkeys' ▸ List.mem_map_of_mem hpair
    have hget := Ledger.get?_run_of_cleanUp (s := s) (hkeys.symm ▸ hname)
      (hr.cleaned pair.1 hname)
    have hnodup : (Mapping.keys ((Ledger.start draws names).run s requests).2.workers).Nodup :=
      hkeys'.symm ▸ hl.nodup
    rw [Mapping.get?_of_mem hnodup hpair] at hget
    exact Option.some.inj hget
  refine ⟨hanswers, hrun.others, fun table => ?_⟩
  obtain ⟨written, hrows, hbooks⟩ := hrun.books table
  have hpending := hrun.pending_eq_nil hidle table
  refine ⟨written, hrows, ?_, fun hsingle => ?_⟩
  · have hperm := hbooks.perm
    rwa [hpending, List.append_nil] at hperm
  · have hlength : (h.run requests).2.workers.length = 1 := by
      calc (h.run requests).2.workers.length
        _ = ((Ledger.start draws names).run s requests).2.workers.length := by
            rw [← hrun.workers, Mapping.length_mapValues]
        _ = names.length := by
            rw [← congrArg List.length hkeys', Mapping.keys, List.length_map]
        _ = 1 := by
            rw [hnames, hsingle]
            rfl
    have heq := hbooks.eq_of_single hlength
    rwa [hpending, List.append_nil] at heq

/-- Whatever the size of a batch, workers that insert documents with keys of their own, flush at any
time and are cleaned up in the end get the same answers, and the same rows are stored in every
table; those of a single worker are stored in the same order. -/
theorem insertions_independent_of_batchSize {bag' : Bag} {others' : Mapping Bag} {h' : Harness}
    (hl : Launched cluster draws [] provider ((first, bag) :: others) h)
    (hl' : Launched cluster draws [] provider ((first, bag') :: others') h')
    (hbags : Settings.AgreeBut "batchsize" "batch_size" bag bag')
    (hnames : others'.keys = others.keys)
    (hs : (Settings.resolve bag).1 = .ok s)
    (hlocation : s.location.isEmpty = false → s.locationField ≠ idField)
    (hr : h.Inserts s (Mapping.keys ((first, bag) :: others)) requests) :
    (h.run requests).1 = (h'.run requests).1 ∧
      (∀ database table, ((h.run requests).2.world.rows database table).Perm
        ((h'.run requests).2.world.rows database table)) ∧
      (others = [] → ∀ database table, (h.run requests).2.world.rows database table =
        (h'.run requests).2.world.rows database table) := by
  obtain ⟨c, -, hmade⟩ := hl.shares
  obtain ⟨c', -, hmade'⟩ := hl'.shares
  have htidy := tidy_start cluster draws []
  obtain ⟨hworld, hsettings⟩ := world_create_of_agree hbags htidy hmade hmade'
  obtain rfl : c.settings = s :=
    Reading.ok.inj ((opened_of_create htidy hmade).settings.symm.trans hs)
  have hs' := (opened_of_create htidy hmade').settings
  rw [hsettings] at hs'
  have hkeys : Mapping.keys ((first, bag') :: others') = Mapping.keys ((first, bag) :: others) :=
    congrArg (first :: ·) hnames
  have hr' : h'.Inserts { c.settings with batchSize := c'.settings.batchSize }
      (Mapping.keys ((first, bag') :: others')) requests :=
    ⟨hr.writes, hr.keyed, hkeys ▸ hr.cleaned, hr.nodup, hworld ▸ hr.free⟩
  obtain ⟨hanswers, helsewhere, hrows⟩ := hl.rows_run hs hlocation hr
  obtain ⟨hanswers', helsewhere', hrows'⟩ := hl'.rows_run hs' hlocation hr'
  -- Both runs follow one ledger, which does not know the size of a batch.
  rw [hkeys] at hanswers' hrows'
  rw [Ledger.run_withBatchSize] at hanswers' hrows'
  rw [hworld] at helsewhere' hrows'
  have hother (database table : String) (hne : database ≠ c.settings.database) :
      (h.run requests).2.world.rows database table =
        (h'.run requests).2.world.rows database table :=
    (helsewhere database table hne).trans (helsewhere' database table hne).symm
  refine ⟨hanswers.trans hanswers'.symm, fun database table => ?_, fun hsingle database table => ?_⟩
  · by_cases hd : database = c.settings.database
    · subst hd
      obtain ⟨written, hwritten, hperm, -⟩ := hrows table
      obtain ⟨written', hwritten', hperm', -⟩ := hrows' table
      rw [hwritten, hwritten']
      exact ((hperm.trans hperm'.symm).map rowOf).append_left _
    · rw [hother database table hd]
  · by_cases hd : database = c.settings.database
    · subst hd
      have hsingle' : others' = [] := by
        rw [hsingle] at hnames
        exact List.map_eq_nil_iff.mp hnames
      obtain ⟨written, hwritten, -, heq⟩ := hrows table
      obtain ⟨written', hwritten', -, heq'⟩ := hrows' table
      rw [hwritten, hwritten', heq hsingle, heq' hsingle']
    · exact hother database table hd

end Launching

/-- The keys of some rows, as far as they are texts. -/
def keyTexts (rows : List Row) : List String :=
  rows.filterMap fun row =>
    match row.key with
    | .text key => some key
    | _ => none

/-- Two workers that write some number of documents together. -/
def worksTogether (size : String) : Harness :=
  ((start {} {} [] "p" [("a", [("batchsize", .text size)]), ("b", [])]).run
    [.init "a", .init "b"]).2

/-- Two workers insert into a table, flush and are cleaned up. -/
def turnsOfTwo : List Request :=
  [.insert "a" "t" "1" [], .insert "b" "t" "2" [], .flush "b" none, .insert "a" "t" "3" [],
    .cleanUp "b", .cleanUp "a"]

/-- With batches of three documents the rows stand in another order than with single documents. -/
theorem insertions_independent_of_batchSize_worksTogether :
    Launched {} {} [] "p" [("a", [("batchsize", .text "3")]), ("b", [])] (worksTogether "3") ∧
      Launched {} {} [] "p" [("a", [("batchsize", .text "1")]), ("b", [])] (worksTogether "1") ∧
      keyTexts (((worksTogether "3").run turnsOfTwo).2.world.rows "ycsb" "t") = ["2", "1", "3"] ∧
      keyTexts (((worksTogether "1").run turnsOfTwo).2.world.rows "ycsb" "t") = ["1", "2", "3"] ∧
      ((worksTogether "3").run turnsOfTwo).1 = ((worksTogether "1").run turnsOfTwo).1 ∧
      (((worksTogether "3").run turnsOfTwo).2.world.rows "ycsb" "t").Perm
        (((worksTogether "1").run turnsOfTwo).2.world.rows "ycsb" "t") := by
  have hl (size : String) (ha : ((start {} {} [] "p"
      [("a", [("batchsize", .text size)]), ("b", [])]).run
        [.init "a", .init "b"]).1.all Except.isOk = true) :
      Launched {} {} [] "p" [("a", [("batchsize", .text size)]), ("b", [])]
        (worksTogether size) := by
    unfold worksTogether
    exact launched_of_isOk (show ["a", "b"].Nodup by decide) ha
  have hthree := hl "3" (by decide +kernel)
  have hone := hl "1" (by decide +kernel)
  obtain ⟨c, -, hopened⟩ := hthree.shares_opened
  have hsettings : (Settings.resolve [("batchsize", .text "3")]).1.value?.map
      (fun s => (s.database, s.location)) = some ("ycsb", "") := by decide +kernel
  rw [hopened.settings] at hsettings
  obtain ⟨hdatabase, hlocation⟩ := Prod.mk.inj (Option.some.inj hsettings)
  have hkeys (table : String) :
      insertedKeys table turnsOfTwo = if "t" = table then ["1", "2", "3"] else [] := by
    by_cases ht : "t" = table
    · subst ht
      decide
    · simp [insertedKeys, turnsOfTwo, Request.insertedKey?, ht]
  have hr : (worksTogether "3").Inserts c.settings ["a", "b"] turnsOfTwo := by
    refine ⟨by decide, by decide, by simp [turnsOfTwo], fun table => ?_, fun table key hkey => ?_⟩
    · rw [hkeys]
      split <;> simp
    · rw [hkeys] at hkey
      split at hkey
      · subst table
        rw [hdatabase]
        have hempty : (worksTogether "3").world.rows "ycsb" "t" = [] :=
          List.isEmpty_iff.mp (by decide +kernel)
        rw [hempty]
        rfl
      · cases hkey
  have h := insertions_independent_of_batchSize hthree hone
    (Settings.agreeBut_cons "batchsize" "batch_size" [] _ _) rfl
    hopened.settings (fun hsome => by rw [hlocation] at hsome; cases hsome) hr
  exact ⟨hthree, hone, by decide +kernel, by decide +kernel, h.1, h.2.1 "ycsb" "t"⟩

/-- A worker of a run whose location is written over the key of every record. -/
def keyedByLocation (size : String) : Harness :=
  ((start {} {} [] "p" [("a", [("batchsize", .text size), ("mongodb.location", .text "US"),
    ("mongodb.locationField", .text "_id")])]).run [.init "a"]).2

/-- A worker inserts two records and is cleaned up. -/
def twoInsertions : List Request :=
  [.insert "a" "t" "1" [], .insert "a" "t" "2" [], .cleanUp "a"]

/-- When the location takes the place of the key, all documents have one key: single insertions say
so from the second on, and batches only when they are written. -/
theorem insertions_depend_on_batchSize_keyedByLocation :
    Launched {} {} [] "p" [("a", [("batchsize", .text "3"), ("mongodb.location", .text "US"),
      ("mongodb.locationField", .text "_id")])] (keyedByLocation "3") ∧
      Launched {} {} [] "p" [("a", [("batchsize", .text "1"), ("mongodb.location", .text "US"),
        ("mongodb.locationField", .text "_id")])] (keyedByLocation "1") ∧
      (∃ s, (Settings.resolve [("batchsize", .text "3"), ("mongodb.location", .text "US"),
        ("mongodb.locationField", .text "_id")]).1 = .ok s ∧
          (keyedByLocation "3").Inserts s ["a"] twoInsertions) ∧
      ((keyedByLocation "3").run twoInsertions).1.map succeeds = [true, true, true] ∧
      ((keyedByLocation "1").run twoInsertions).1.map succeeds = [true, false, true] ∧
      ((keyedByLocation "3").run twoInsertions).1 ≠
        ((keyedByLocation "1").run twoInsertions).1 := by
  have hl (size : String) (ha : ((start {} {} [] "p" [("a", [("batchsize", .text size),
      ("mongodb.location", .text "US"), ("mongodb.locationField", .text "_id")])]).run
        [.init "a"]).1.all Except.isOk = true) :
      Launched {} {} [] "p" [("a", [("batchsize", .text size), ("mongodb.location", .text "US"),
        ("mongodb.locationField", .text "_id")])] (keyedByLocation size) := by
    unfold keyedByLocation
    exact launched_of_isOk (show ["a"].Nodup by decide) ha
  have hlaunched := hl "3" (by decide +kernel)
  have hlaunched' := hl "1" (by decide +kernel)
  have hthree : ((keyedByLocation "3").run twoInsertions).1.map succeeds = [true, true, true] := by
    decide +kernel
  have hone : ((keyedByLocation "1").run twoInsertions).1.map succeeds = [true, false, true] := by
    decide +kernel
  refine ⟨hlaunched, hlaunched', ?_, hthree, hone, fun heq => ?_⟩
  · obtain ⟨c, -, hopened⟩ := hlaunched.shares_opened
    have hkeys (table : String) :
        insertedKeys table twoInsertions = if "t" = table then ["1", "2"] else [] := by
      by_cases ht : "t" = table
      · subst ht
        decide
      · simp [insertedKeys, twoInsertions, Request.insertedKey?, ht]
    have hdatabase : (Settings.resolve [("batchsize", .text "3"),
        ("mongodb.location", .text "US"), ("mongodb.locationField", .text "_id")]).1.value?.map
        Settings.database = some "ycsb" := by decide +kernel
    rw [hopened.settings] at hdatabase
    replace hdatabase := Option.some.inj hdatabase
    have hempty : (keyedByLocation "3").world.rows "ycsb" "t" = [] :=
      List.isEmpty_iff.mp (by decide +kernel)
    refine ⟨c.settings, hopened.settings, by decide, by decide, by simp [twoInsertions],
      fun table => ?_, fun table key hkey => ?_⟩
    · rw [hkeys]
      split <;> simp
    · rw [hkeys] at hkey
      split at hkey
      · subst table
        rw [hdatabase, hempty]
        rfl
      · cases hkey
  · rw [heq, hone] at hthree
    cases hthree

end Harness

end LoadBinding
