import LoadBinding.Proofs.Buffering
import LoadBinding.Proofs.Reachable

/-!
# What operations answer

An operation on records never raises, never tries again and never fails in silence.  Whatever the
deployment shows, it answers with an outcome of success or of failure; it is one of failure exactly
if an error was logged; and the operation reads or changes documents with one call at most, a flush
with one call for each table with buffered documents.

Two relations carry the proof.  `World.Asks data` holds between two worlds if nothing was logged and
`data` are the calls on documents, and `World.Reports data status` if the log tells of the status.
Everything that may fail runs under `attempt` and asks; what follows reports.
-/

namespace LoadBinding

open LoadBinding.Text LoadBinding.Action World

variable {α β : Type}

namespace Call

/-- Whether a call reads or changes documents. -/
def isData : Call → Bool
  | insertOne _ _ => true
  | insertMany _ _ => true
  | findOne _ _ _ => true
  | find _ _ _ => true
  | updateOne _ _ _ => true
  | deleteMany _ _ => true
  | _ => false

/-- The calls that read or change documents. -/
def data (calls : List Call) : List Call :=
  calls.filter isData

@[simp] lemma data_append (first second : List Call) :
    data (first ++ second) = data first ++ data second :=
  List.filter_append _ _

/-- A single call on documents at most. -/
lemma length_data_singleton (call : Call) : (data [call]).length ≤ 1 :=
  List.length_filter_le _ _

end Call

open Call Batch

/-! ## Asking and reporting -/

namespace World

/-- Between two worlds nothing was logged, and some calls were made on documents. -/
structure Asks (data : List Call) (w w' : World) : Prop where
  calls : ∃ issued, w'.calls = w.calls ++ issued ∧ Call.data issued = data
  entries : w'.entries = w.entries

/-- Between two worlds some calls were made on documents, and what was logged tells how an operation
ended: an error if it failed, and none if it succeeded. -/
structure Reports (data : List Call) (status : Status) (w w' : World) : Prop where
  calls : ∃ issued, w'.calls = w.calls ++ issued ∧ Call.data issued = data
  answers : status = .ok ∨ status = .error
  entries : ∃ logged, w'.entries = w.entries ++ logged ∧
    (status = .error ↔ ∃ entry ∈ logged, entry.level = .error)

variable {data data' : List Call} {w w' w'' : World} {status status' : Status}

/-- The calls of a sequence are those of its parts, one after the other. -/
lemma Asks.trans (h : Asks data w w') (h' : Asks data' w' w'') : Asks (data ++ data') w w'' := by
  obtain ⟨i, hi, di⟩ := h.calls
  obtain ⟨j, hj, dj⟩ := h'.calls
  refine ⟨⟨i ++ j, by rw [hj, hi, List.append_assoc], ?_⟩, h'.entries.trans h.entries⟩
  rw [data_append, di, dj]

instance : IsPreorder World (Asks []) where
  refl _ := ⟨⟨[], (List.append_nil _).symm, rfl⟩, rfl⟩
  trans _ _ _ h h' := h.trans h'

/-- A call that is recorded is the only one made. -/
lemma Asks.noted (w : World) (call : Call) : Asks (Call.data [call]) w (w.noted call) :=
  ⟨⟨[call], rfl, rfl⟩, rfl⟩

/-- Without an error in the log the operation has succeeded. -/
lemma Asks.reports (h : Asks data w w') : Reports data .ok w w' :=
  ⟨h.calls, .inl rfl, [], by rw [h.entries, List.append_nil], by simp⟩

/-- What is logged after the calls is all that is logged. -/
lemma Asks.logged (h : Asks data w w') (entry : Log.Entry)
    (hstatus : status = .ok ∨ status = .error)
    (hentry : status = .error ↔ entry.level = .error) :
    Reports data status w { w' with entries := w'.entries ++ [entry] } :=
  ⟨h.calls, hstatus, [entry], by rw [h.entries], by simpa using hentry⟩

/-- A failure is told by the one error that is logged for it. -/
lemma Asks.failed (h : Asks data w w') (text : String) (e : Failure) :
    Reports data ((Context.failed (α := α) text e).run w').1.status w
      ((Context.failed (α := α) text e).run w').2 :=
  h.logged ⟨.error, Context.recordLog, s!"{text}: '{e.message}'"⟩ (.inr rfl) (iff_of_true rfl rfl)

lemma Asks.complained (h : Asks data w w') (text : String) :
    Reports data ((Context.complained (α := α) text).run w').1.status w
      ((Context.complained (α := α) text).run w').2 :=
  h.logged ⟨.error, Context.recordLog, text⟩ (.inr rfl) (iff_of_true rfl rfl)

/-- A sequence fails with the status of its last failure, and has logged an error just when a part
has failed. -/
lemma Reports.trans (h : Reports data status w w') (h' : Reports data' status' w' w'') :
    Reports (data ++ data') (if status' = .ok then status else status') w w'' := by
  obtain ⟨i, hi, di⟩ := h.calls
  obtain ⟨j, hj, dj⟩ := h'.calls
  obtain ⟨logged, hl, herror⟩ := h.entries
  obtain ⟨logged', hl', herror'⟩ := h'.entries
  refine ⟨⟨i ++ j, by rw [hj, hi, List.append_assoc], by rw [data_append, di, dj]⟩, ?_,
    logged ++ logged', by rw [hl', hl, List.append_assoc], ?_⟩
  · split
    · exact h.answers
    · exact h'.answers
  · have happend : (∃ entry ∈ logged ++ logged', entry.level = .error) ↔
        (∃ entry ∈ logged, entry.level = .error) ∨ ∃ entry ∈ logged', entry.level = .error := by
      simp only [List.mem_append, or_and_right, exists_or]
    rw [happend, ← herror, ← herror']
    rcases h'.answers with rfl | rfl <;> simp

/-- Between two worlds at most one call was made on documents, and nothing was logged. -/
def AsksOnce (w w' : World) : Prop :=
  ∃ data, data.length ≤ 1 ∧ Asks data w w'

/-- Between two worlds at most one call was made on documents, and the log tells how an operation
ended. -/
def ReportsOnce (status : Status) (w w' : World) : Prop :=
  ∃ data, data.length ≤ 1 ∧ Reports data status w w'

lemma Asks.once (h : Asks [] w w') : AsksOnce w w' :=
  ⟨[], Nat.zero_le 1, h⟩

lemma Asks.trans_once (h : Asks [] w w') (h' : AsksOnce w' w'') : AsksOnce w w'' := by
  obtain ⟨data, hlength, hasks⟩ := h'
  exact ⟨data, hlength, h.trans hasks⟩

lemma AsksOnce.trans (h : AsksOnce w w') (h' : Asks [] w' w'') : AsksOnce w w'' := by
  obtain ⟨data, hlength, hasks⟩ := h
  exact ⟨data, hlength, by simpa using hasks.trans h'⟩

/-- Without a failure, one call at most is made and no error is logged. -/
lemma AsksOnce.reports (h : AsksOnce w w') : ReportsOnce .ok w w' := by
  obtain ⟨data, hlength, hasks⟩ := h
  exact ⟨data, hlength, hasks.reports⟩

lemma AsksOnce.failed (h : AsksOnce w w') (text : String) (e : Failure) :
    ReportsOnce ((Context.failed (α := α) text e).run w').1.status w
      ((Context.failed (α := α) text e).run w').2 := by
  obtain ⟨data, hlength, hasks⟩ := h
  exact ⟨data, hlength, hasks.failed text e⟩

lemma AsksOnce.complained (h : AsksOnce w w') (text : String) :
    ReportsOnce ((Context.complained (α := α) text).run w').1.status w
      ((Context.complained (α := α) text).run w').2 := by
  obtain ⟨data, hlength, hasks⟩ := h
  exact ⟨data, hlength, hasks.complained text⟩

end World

/-! ## Calls -/

lemma asks_record {call : Call} (h : call.isData = false) :
    Keeps (Asks []) (attempt (record call)) := by
  intro w
  have hdata : Call.data [call] = [] := by simp [Call.data, h]
  rw [run_attempt, exec_record]
  exact hdata ▸ Asks.noted w call

lemma asks_nextMarker : Keeps (Asks []) (attempt nextMarker) :=
  fun _ => ⟨⟨[], (List.append_nil _).symm, rfl⟩, rfl⟩

lemma asks_put (t : Target) (x : Collection) : Keeps (Asks []) (attempt (t.put x)) :=
  fun _ => ⟨⟨[], (List.append_nil _).symm, rfl⟩, rfl⟩

/-- A call and what comes after it without another call on documents. -/
lemma asksOnce_record (call : Call) {f : Unit → Action α}
    (hf : ∀ x, Keeps (Asks []) (attempt (f x))) (w : World) :
    AsksOnce w (exec (record call >>= f) w).2 := by
  have hnoted : AsksOnce w (w.noted call) := ⟨_, length_data_singleton call, .noted w call⟩
  rw [exec_bind, exec_record]
  cases w.faults.get? call.address with
  | some e => exact hnoted
  | none => exact hnoted.trans (hf () _)

namespace Target

variable (t : Target) (f : Filter) (p : Option Projection) (w : World)

lemma asksOnce_insertOne (doc : Document) : AsksOnce w (exec (t.insertOne doc) w).2 :=
  asksOnce_record _ (fun _ => keeps_attempt_bind keeps_attempt_get fun _ =>
    keeps_attempt_bind (keeps_attempt_ofStore _) fun _ => asks_put t _) w

lemma asks_insertMany (docs : List Document) :
    Asks [.insertMany t docs] w (exec (t.insertMany docs) w).2 := by
  refine ⟨⟨[.insertMany t docs], calls_exec_insertMany t docs w, rfl⟩, ?_⟩
  unfold Target.insertMany
  rw [exec_bind, exec_record]
  cases w.faults.get? (Call.insertMany t docs).address with
  | some e => rfl
  | none =>
    dsimp only
    rw [exec_bind_of_ok (exec_get _)]
    cases (t.content (w.noted (.insertMany t docs)).cluster).insertMany docs with
    | mk x refusal => cases refusal <;> rfl

lemma asksOnce_findOne : AsksOnce w (exec (t.findOne f p) w).2 :=
  asksOnce_record _ (fun _ => keeps_attempt_bind keeps_attempt_get fun _ =>
    keeps_attempt_ofStore _) w

lemma asksOnce_updateOne (changes : Document) : AsksOnce w (exec (t.updateOne f changes) w).2 :=
  asksOnce_record _ (fun _ => keeps_attempt_bind keeps_attempt_get fun _ =>
    keeps_attempt_bind (keeps_attempt_ofStore _) fun _ =>
      keeps_attempt_bind (asks_put t _) fun _ => keeps_attempt_pure _) w

lemma asksOnce_deleteMany : AsksOnce w (exec (t.deleteMany f) w).2 :=
  asksOnce_record _ (fun _ => keeps_attempt_bind keeps_attempt_get fun _ =>
    keeps_attempt_bind (keeps_attempt_ofStore _) fun _ => asks_put t _) w

/-- After the look-up a scan only works on its cursor. -/
lemma asksOnce_scan (count : ℤ) : AsksOnce w (exec (t.scan f p count) w).2 := by
  have hfind : AsksOnce w (w.noted (.find t f p)) := ⟨_, length_data_singleton _, .noted w _⟩
  have hcursor : ∀ call : Call, call.isCursor = true →
      Keeps (Asks []) (attempt (record call)) := by
    intro call hcall
    refine asks_record ?_
    cases call with
    | sort => rfl
    | limit _ => rfl
    | iterate => rfl
    | closeCursor => rfl
    | _ => cases hcall
  have hasks := rel_exec_scan hcursor t f p count w
  rw [world_exec_find] at hasks
  exact hfind.trans hasks

end Target

/-! ## Operations -/

namespace Context

variable {c : Context} {s : Settings}

/-- Looking a table up reads and changes no documents. -/
lemma asks_table (hc : c.Serves s) (name : String) :
    Keeps (Asks []) (attempt (table c.settings c.selected name)) := by
  intro w
  obtain ⟨t, ht⟩ := hc.exists_reaches name
  rw [run_attempt]
  cases hf : w.faults.get? (lookUpAddress name) with
  | some f =>
    rw [exec_table_of_fault ht hf]
    exact ⟨⟨[.use t], rfl, rfl⟩, rfl⟩
  | none =>
    rw [exec_table_of_no_fault ht hf]
    exact ⟨⟨[.use t], rfl, rfl⟩, rfl⟩

lemma asks_prepareFields (hc : c.Serves s) (excluded : String → Bool) (doc : Document)
    (values : List (String × Bytes)) :
    Keeps (Asks []) (attempt (c.prepareFields excluded doc values)) := by
  intro w
  rw [run_attempt, exec_prepareFields hc]
  exact ⟨⟨[], (List.append_nil _).symm, rfl⟩, rfl⟩

lemma asks_document (hc : c.Serves s) (key : String) (values : Mapping Bytes) :
    Keeps (Asks []) (attempt (c.document key values)) :=
  keeps_attempt_bind (asks_prepareFields hc _ _ _) fun _ => keeps_attempt_pure _

/-- Building a document reads and changes no documents of the store. -/
lemma asks_build (hc : c.Serves s) (name key : String) (values : Mapping Bytes) :
    Keeps (Asks []) (attempt (c.build name key values)) :=
  keeps_attempt_bind (asks_table hc name) fun _ =>
    keeps_attempt_bind (asks_document hc key values) fun _ => keeps_attempt_pure _

/-- What comes after actions that read and change no documents makes all the calls on documents. -/
lemma asksOnce_bind {a : Action β} {f : β → Action α} (ha : Keeps (Asks []) (attempt a))
    (hf : ∀ x w, AsksOnce w (exec (f x) w).2) (w : World) : AsksOnce w (exec (a >>= f) w).2 := by
  have hasks := ha w
  rw [run_attempt] at hasks
  rw [exec_bind]
  cases hrun : exec a w with
  | mk r w₁ =>
    rw [hrun] at hasks
    cases r with
    | error e => exact hasks.once
    | ok x => exact hasks.trans_once (hf x w₁)

/-- What comes after an attempt may rely on what the attempt leaves behind. -/
lemma reports_attempt {γ : Type} {a : Action α}
    {k : Except Failure α → StateM World (Outcome β × γ)} {w w₀ : World} {P : World → Prop}
    (ha : P (exec a w₀).2)
    (hk : ∀ r w', P w' → ReportsOnce ((k r).run w').1.1.status w ((k r).run w').2) :
    ReportsOnce ((attempt a >>= k).run w₀).1.1.status w ((attempt a >>= k).run w₀).2 :=
  hk _ _ ha

lemma reports_read (hc : c.Serves s) (name key : String) (fields : Option (List String))
    (w : World) :
    ReportsOnce ((c.read name key fields).run w).1.1.status w
      ((c.read name key fields).run w).2 := by
  unfold read
  rw [next_eq]
  refine reports_attempt (asksOnce_bind (asks_table hc name) (fun t => t.asksOnce_findOne _ _) w)
    fun r w' hasks => ?_
  rcases r with e | _ | _ | _
  · exact hasks.failed _ e
  · exact hasks.complained _
  · exact hasks.complained _
  · exact hasks.reports

lemma reports_scan (hc : c.Serves s) (name start : String) (count : ℤ)
    (fields : Option (List String)) (w : World) :
    ReportsOnce ((c.scan name start count fields).run w).1.1.status w
      ((c.scan name start count fields).run w).2 := by
  unfold scan
  rw [next_eq]
  refine reports_attempt
    (asksOnce_bind (asks_table hc name) (fun t w => t.asksOnce_scan _ _ w count) w)
    fun r w' hasks => ?_
  rcases r with e | _ | _
  · exact hasks.failed _ e
  · exact hasks.complained _
  · exact hasks.reports

lemma reports_update (hc : c.Serves s) (name key : String) (values : Mapping Bytes) (w : World) :
    ReportsOnce ((c.update name key values).run w).1.1.status w
      ((c.update name key values).run w).2 := by
  unfold update
  rw [next_eq]
  refine reports_attempt (asksOnce_bind (asks_table hc name) (fun t => asksOnce_bind
    asks_nextMarker fun marker => asksOnce_bind (asks_prepareFields (hc.advance 1) _ _ _)
      fun changes w => t.asksOnce_updateOne _ w changes) w) fun r w' hasks => ?_
  cases r with
  | error e => exact hasks.failed _ e
  | ok count =>
    dsimp only
    split
    · exact hasks.complained _
    · split
      · exact hasks.complained _
      · exact hasks.reports

lemma reports_delete (hc : c.Serves s) (name key : String) (w : World) :
    ReportsOnce ((c.delete name key).run w).1.1.status w ((c.delete name key).run w).2 := by
  unfold delete
  rw [next_eq]
  refine reports_attempt (asksOnce_bind (asks_table hc name) (fun t => t.asksOnce_deleteMany _) w)
    fun r w' hasks => ?_
  cases r with
  | error e => exact hasks.failed _ e
  | ok _ => exact hasks.reports

lemma reports_insert (hc : c.Serves s) (b : Batch) (name key : String) (values : Mapping Bytes)
    (w : World) :
    ReportsOnce ((c.insert b name key values).run w).1.1.status w
      ((c.insert b name key values).run w).2 := by
  rw [insert_eq]
  refine reports_attempt (asks_build hc name key values w) fun built w' hasks => ?_
  rcases built with e | ⟨t, doc⟩
  · exact hasks.once.failed _ e
  dsimp only
  split
  · refine reports_attempt (hasks.trans_once (t.asksOnce_insertOne w' doc)) fun r w'' hinsert => ?_
    cases r with
    | error e => exact hinsert.failed _ e
    | ok _ => exact hinsert.reports
  · split
    · have hmany (docs : List Document) : AsksOnce w (exec (t.insertMany docs) w').2 :=
        hasks.trans_once ⟨_, le_rfl, t.asks_insertMany w' docs⟩
      refine reports_attempt (hmany _) fun r w'' hinsert => ?_
      cases r with
      | error e => exact hinsert.failed _ e
      | ok _ => exact hinsert.reports
    · exact hasks.once.reports

/-! ### Flushing -/

/-- A flush of one buffer writes it with one call, unless its table cannot be looked up. -/
lemma reports_flushTable (hc : c.Serves s) (name : String) (docs : List Document) (w : World) :
    ∃ t data, data.Sublist [Call.insertMany t docs] ∧ t.collection = name ∧
      Reports data ((c.flushTable name docs).run w).1.1.status w
        ((c.flushTable name docs).run w).2 := by
  have hasks := asks_table hc name w
  obtain ⟨t, ht⟩ := hc.exists_reaches name
  unfold flushTable
  rw [next_eq]
  dsimp only
  rw [settings_advance, run_bind, run_attempt]
  cases hf : w.faults.get? (lookUpAddress name) with
  | some f =>
    rw [run_attempt, exec_table_of_fault ht hf] at hasks
    rw [exec_bind_of_error (exec_table_of_fault ht hf)]
    exact ⟨t, [], by simp, ht.collection_eq, hasks.failed _ _⟩
  | none =>
    rw [run_attempt, exec_table_of_no_fault ht hf] at hasks
    rw [exec_bind_of_ok (exec_table_of_no_fault ht hf)]
    have hwrite := hasks.trans (t.asks_insertMany (w.lookedUp t) docs)
    refine ⟨t, [.insertMany t docs], List.Sublist.refl _, ht.collection_eq, ?_⟩
    cases hrun : exec (t.insertMany docs) (w.lookedUp t) with
    | mk r w₁ =>
      rw [hrun] at hwrite
      cases r with
      | error e => exact hwrite.failed _ e
      | ok _ =>
        have hstatus : Status.ok = .error ↔ Log.Level.debug = .error := by decide
        exact hwrite.logged _ (.inl rfl) hstatus

/-- The status of an outcome that a failure has taken the place of, if there was one. -/
lemma status_unless_ok (outcome written : Outcome Unit) :
    (if written.isOk then outcome else written).status =
      if written.status = .ok then outcome.status else written.status := by
  rw [apply_ite Outcome.status]
  exact if_congr (by simp [Outcome.isOk]) rfl rfl

/-- A flush of some buffers writes each of them with one call at most, and fails if one of them
cannot be written. -/
lemma reports_flushTables (hc : c.Serves s) (outcome : Outcome Unit)
    (drained : List (String × List Document)) {data : List Call} {w₀ w : World}
    (hw : Reports data outcome.status w₀ w) :
    ∃ (written : List (String × List Document)) (more : List Call),
      written.Sublist drained ∧ more.map Call.batch? = written.map some ∧
      Reports (data ++ more) ((c.flushTables outcome drained).run w).1.1.status w₀
        ((c.flushTables outcome drained).run w).2 := by
  induction drained generalizing c outcome data w with
  | nil => exact ⟨[], [], .refl _, rfl, by rw [List.append_nil]; exact hw⟩
  | cons pair rest ih =>
    obtain ⟨name, docs⟩ := pair
    obtain ⟨t, first, hfirst, ht, hreports⟩ := reports_flushTable hc name docs w
    have hnext := hc.operates (c.operates_flushTable name docs) w
    have hboth : Reports (data ++ first)
        (if ((c.flushTable name docs).run w).1.1.isOk then outcome
          else ((c.flushTable name docs).run w).1.1).status w₀
        ((c.flushTable name docs).run w).2 := by
      rw [status_unless_ok]
      exact hw.trans hreports
    obtain ⟨written, more, hsublist, hmore, hrest⟩ := ih hnext _ hboth
    rw [run_flushTables_cons]
    rcases List.sublist_cons_iff.mp hfirst with hnil | ⟨tail, rfl, htail⟩
    · obtain rfl := List.sublist_nil.mp hnil
      rw [List.append_nil] at hrest
      exact ⟨written, more, hsublist.cons _, hmore, hrest⟩
    · obtain rfl := List.sublist_nil.mp htail
      refine ⟨(name, docs) :: written, .insertMany t docs :: more, hsublist.cons_cons _, ?_, ?_⟩
      · rw [List.map_cons, List.map_cons, hmore, Call.batch?, ht]
      · rw [List.append_assoc] at hrest
        exact hrest

/-- What a flush reports, and that it writes each of some buffers with one call. -/
lemma reports_flush (hc : c.Serves s) (b : Batch) (selection : Option String) (w : World) :
    ∃ (written : List (String × List Document)) (data : List Call),
      written.Sublist (b.drain selection).1 ∧
      data.map Call.batch? = written.map some ∧
      Reports data ((c.flush b selection).run w).1.1.status w ((c.flush b selection).run w).2 := by
  unfold flush
  split
  · exact ⟨[], [], List.nil_sublist _, rfl, (refl w : Asks [] w w).reports⟩
  · exact reports_flushTables hc (.ok none) _ (refl w : Asks [] w w).reports

end Context

/-! ## Requests -/

/-- Whether a request is for an operation of some worker on records. -/
def Request.isRecordOperation (name : String) : Request → Bool
  | insert n _ _ _ => n == name
  | update n _ _ _ => n == name
  | read n _ _ _ => n == name
  | delete n _ _ => n == name
  | scan n _ _ _ _ => n == name
  | flush n _ => n == name
  | _ => false

namespace Harness

variable {h : Harness} {name : String} {w : Worker} {active : Active} {c : Context}
  {request : Request} {op : Operation Answer}

/-- A request is answered with an outcome of success or of failure, and of failure exactly if an
error was logged meanwhile; some calls were made on documents. -/
structure Tells (h : Harness) (request : Request) (data : List Call) : Prop where
  answers : ∃ answer status logged,
    (h.step request).1 = .ok answer ∧ answer.status? = some status ∧
    (status = .ok ∨ status = .error) ∧
    (h.step request).2.world.entries = h.world.entries ++ logged ∧
    (status = .error ↔ ∃ entry ∈ logged, entry.level = .error)
  calls : ∃ issued, (h.step request).2.world.calls = h.world.calls ++ issued ∧
    Call.data issued = data

/-- What an operation reports is what the request for it tells. -/
lemma tells_of_reports (hop : request.operation? = some (name, op))
    (hw : h.Holds name w active c) {data : List Call} {status : Status}
    (hstatus : ((op c active.batch).run h.world).1.1.status? = some status)
    (hreports : Reports data status h.world ((op c active.batch).run h.world).2) :
    h.Tells request data := by
  have hstep := step_of_operation hop hw
  obtain ⟨logged, hlogged, herror⟩ := hreports.entries
  obtain ⟨issued, hissued, hdata⟩ := hreports.calls
  constructor
  · exact ⟨_, status, logged, by rw [hstep], hstatus, hreports.answers,
      by rw [hstep]; exact hlogged, herror⟩
  · exact ⟨issued, by rw [hstep]; exact hissued, hdata⟩

/-- Whatever was requested before, and whatever faults the deployment shows: an operation of a
registered worker on records is answered, with an outcome of success or of failure.  It is one of
failure exactly if an error was logged meanwhile.  The operation makes one call on documents at
most; a flush writes some of the buffers of the worker that are not empty, each with one call. -/
theorem record_operations_tell {cluster : Cluster} {draws : Draws} {faults : Faults}
    {provider : String} {bags : Mapping Bag} {requests : List Request}
    (hrun : ((start cluster draws faults provider bags).run requests).2 = h)
    (hw : h.workers.get? name = some w) (ha : w.active = some active)
    (hr : request.isRecordOperation name = true) :
    ∃ data, h.Tells request data ∧
      (request.flushes = false → data.length ≤ 1) ∧
      (request.flushes = true → ∃ written : List (String × List Document),
        data.map batch? = written.map some ∧ (written.map Prod.fst).Nodup ∧
        ∀ pair ∈ written, pair.2 ≠ [] ∧ pair.2 = active.batch.buffer pair.1) := by
  have hsteady : h.Steady (fun _ => True) fun _ _ => True := by
    rw [← hrun]
    exact steady_run endures_true provider bags trivial
      fun _ _ _ _ _ _ _ _ _ _ _ => ⟨trivial, trivial⟩
  obtain ⟨c, hholds, hserves, -⟩ := hsteady.exists_holds hw ha
  cases request with
  | insert _ table key values =>
    obtain rfl := eq_of_beq hr
    obtain ⟨data, hlength, hreports⟩ :=
      c.reports_insert hserves active.batch table key values h.world
    exact ⟨data, tells_of_reports rfl hholds rfl hreports, fun _ => hlength, nofun⟩
  | update _ table key values =>
    obtain rfl := eq_of_beq hr
    obtain ⟨data, hlength, hreports⟩ := c.reports_update hserves table key values h.world
    exact ⟨data, tells_of_reports rfl hholds rfl hreports, fun _ => hlength, nofun⟩
  | read _ table key fields =>
    obtain rfl := eq_of_beq hr
    obtain ⟨data, hlength, hreports⟩ := c.reports_read hserves table key fields h.world
    exact ⟨data, tells_of_reports rfl hholds rfl hreports, fun _ => hlength, nofun⟩
  | delete _ table key =>
    obtain rfl := eq_of_beq hr
    obtain ⟨data, hlength, hreports⟩ := c.reports_delete hserves table key h.world
    exact ⟨data, tells_of_reports rfl hholds rfl hreports, fun _ => hlength, nofun⟩
  | scan _ table first count fields =>
    obtain rfl := eq_of_beq hr
    obtain ⟨data, hlength, hreports⟩ := c.reports_scan hserves table first count fields h.world
    exact ⟨data, tells_of_reports rfl hholds rfl hreports, fun _ => hlength, nofun⟩
  | flush _ selection =>
    obtain rfl := eq_of_beq hr
    obtain ⟨written, data, hsublist, hdata, hreports⟩ :=
      c.reports_flush hserves active.batch selection h.world
    refine ⟨data, tells_of_reports rfl hholds rfl hreports, nofun,
      fun _ => ⟨written, hdata, ?_, fun pair hpair => ?_⟩⟩
    · exact (active.batch.nodup_drain selection).sublist (hsublist.map Prod.fst)
    · exact active.batch.mem_drain selection (hsublist.subset hpair)
  | _ => cases hr

/-- A harness with one worker, which is registered. -/
def withOneWorker : Harness :=
  ((start {} {} [] "p" [("a", [])]).run [.init "a"]).2

/-- Reading a record that there is not logs an error, with one call on documents. -/
theorem record_operations_tell_missingRecord :
    ((withOneWorker.step (.read "a" "t" "k" none)).2.world.entries.drop
        withOneWorker.world.entries.length).map Log.Entry.level = [.error] ∧
      ∃ w active data, withOneWorker.workers.get? "a" = some w ∧ w.active = some active ∧
        withOneWorker.Tells (.read "a" "t" "k" none) data ∧ data.length ≤ 1 := by
  have hsome : ((withOneWorker.workers.get? "a").bind Worker.active).isSome = true := by
    decide +kernel
  obtain ⟨active, hactive⟩ := Option.isSome_iff_exists.mp hsome
  obtain ⟨w, hw, ha⟩ := Option.bind_eq_some_iff.mp hactive
  have hr : (Request.read "a" "t" "k" none).isRecordOperation "a" = true := rfl
  obtain ⟨data, htells, honce, -⟩ := record_operations_tell (h := withOneWorker) rfl hw ha hr
  exact ⟨by decide +kernel, w, active, data, hw, ha, htells, honce rfl⟩

end Harness

end LoadBinding
