import LoadBinding.Proofs.Keeping

/-!
# Operations visit their endpoint

Whatever faults the deployment shows, an operation on records asks the store through the clients of
its context's pool only, and it neither opens nor closes a connection.  It changes nothing of the
context but the number of selections made (`Context.advance`).
-/

namespace LoadBinding

open LoadBinding.Text LoadBinding.Action World

variable {α : Type} {endpoints : List Endpoint}

/-! ## Selecting an endpoint -/

namespace Context

/-- A context after some more selections. -/
def advance (c : Context) (count : ℕ) : Context :=
  { c with pool := { c.pool with selections := c.pool.selections + count } }

/-- The endpoint whose turn it is. -/
def selected (c : Context) : Option Endpoint :=
  c.pool.endpoints[c.pool.selections % c.pool.endpoints.length]?

/-- A selection takes the endpoint whose turn it is, and is counted. -/
lemma next_eq (c : Context) : c.next = (c.selected, c.advance 1) := rfl

@[simp] lemma settings_advance (c : Context) (n : ℕ) : (c.advance n).settings = c.settings := rfl

@[simp] lemma endpoints_advance (c : Context) (n : ℕ) :
    (c.advance n).pool.endpoints = c.pool.endpoints := rfl

/-- The selections of one part of an operation add up with those of the next. -/
@[simp] lemma advance_advance (c : Context) (m n : ℕ) :
    (c.advance m).advance n = c.advance (m + n) := by
  simp [advance, Nat.add_assoc]

/-- The endpoint whose turn it is belongs to the pool. -/
lemma mem_endpoints_of_selected {c : Context} {e : Endpoint} (h : c.selected = some e) :
    e ∈ c.pool.endpoints :=
  List.mem_of_getElem? h

/-- As long as there is an endpoint, a selection finds one. -/
lemma exists_selected {c : Context} (h : c.pool.endpoints ≠ []) : ∃ e, c.selected = some e :=
  ⟨_, List.getElem?_eq_getElem (Nat.mod_lt _ (List.length_pos_iff.mpr h))⟩

end Context

/-! ## Calls -/

instance : CallOrder (Visits endpoints) where
  of_same hc hcluster hf := .of_silent hc (congrArg Cluster.connections hcluster) hf

/-- A change of the stored data is no visit. -/
lemma keeps_visits_modifyCluster {f : Cluster → Cluster}
    (h : ∀ c, (f c).connections = c.connections) :
    Keeps (Visits endpoints) (attempt (modifyCluster f)) :=
  fun w => .of_silent rfl (h w.cluster) rfl

section Target

variable {e : Endpoint} {t : Target}

/-- A call through the client of an endpoint is a visit to it. -/
lemma keeps_visits_record (he : e ∈ endpoints) {call : Call} (hc : call.client? = some e.client) :
    Keeps (Visits endpoints) (attempt (record call)) := by
  intro w
  rw [run_attempt, exec_record]
  exact Visits.of_noted w he hc

lemma keeps_visits_put (t : Target) (x : Collection) :
    Keeps (Visits endpoints) (attempt (t.put x)) :=
  keeps_visits_modifyCluster fun _ => rfl

lemma keeps_visits_use (he : e ∈ endpoints) (database name : String) :
    Keeps (Visits endpoints) (attempt (e.client.use database name)) :=
  Client.keeps_use (keeps_visits_modifyCluster fun _ => rfl) (keeps_visits_record he rfl)
    (keeps_visits_modifyCluster fun _ => rfl)

lemma keeps_visits_insertMany (he : e ∈ endpoints) (ht : t.client = e.client)
    (docs : List Document) : Keeps (Visits endpoints) (attempt (t.insertMany docs)) :=
  Target.keeps_insertMany (keeps_visits_record he (congrArg some ht)) (keeps_visits_put t)

/-- A call on a cursor reads it, and does nothing else. -/
lemma keeps_browses_record {call : Call} (hc : call.isCursor = true) :
    Keeps Browses (attempt (record call)) := by
  intro w
  rw [run_attempt, exec_record]
  exact Browses.of_noted w hc

/-- A look-up changes nothing, whether or not it succeeds. -/
lemma world_exec_find (t : Target) (f : Filter) (p : Option Projection) (w : World) :
    (exec (t.find f p) w).2 = w.noted (.find t f p) := by
  unfold Target.find
  rw [exec_bind, exec_record]
  cases w.faults.get? (Call.find t f p).address with
  | some _ => rfl
  | none =>
    dsimp only
    rw [exec_bind_of_ok (exec_get _)]
    cases (t.content (w.noted (.find t f p)).cluster).find f p <;> rfl

/-- The calls of a scan after the look-up are made on its cursor. -/
lemma keeps_visits_scan (he : e ∈ endpoints) (ht : t.client = e.client) (f : Filter)
    (p : Option Projection) (count : Int) :
    Keeps (Visits endpoints) (attempt (t.scan f p count)) := by
  intro w
  have hclient : (Call.find t f p).client? = some e.client := congrArg some ht
  have hbrowses := Target.rel_exec_scan (fun _ => keeps_browses_record) t f p count w
  rw [world_exec_find] at hbrowses
  exact Visits.of_browses he hclient hbrowses

end Target

/-! ## Operations -/

/-- A look-up that succeeds returns the collection that it was asked for. -/
lemma use_eq_ok {client : Client} {database name : String} {w w' : World} {t : Target}
    (h : exec (client.use database name) w = (.ok t, w')) : t = ⟨client, database, name⟩ := by
  unfold Client.use at h
  obtain ⟨_, _, _, h⟩ := exec_bind_eq_ok h
  obtain ⟨_, _, _, h⟩ := exec_bind_eq_ok h
  obtain ⟨_, _, _, h⟩ := exec_bind_eq_ok h
  cases h
  rfl

namespace Context

/-- What is done with the table of the selected endpoint goes through that endpoint. -/
lemma keeps_visits_withTable (c : Context) (s : Settings) (name : String) {f : Target → Action α}
    (hf : ∀ e ∈ c.pool.endpoints, ∀ t : Target, t.client = e.client →
      Keeps (Visits c.pool.endpoints) (attempt (f t))) :
    Keeps (Visits c.pool.endpoints) (attempt (do
      let t ← Context.table s c.selected name
      f t)) := by
  intro w
  cases hs : c.selected with
  | none => exact keeps_attempt_throw _ w
  | some e =>
    have he := mem_endpoints_of_selected hs
    refine rel_exec_bind (keeps_visits_use he _ _ w) fun t w' ht => ?_
    obtain rfl := use_eq_ok ht
    exact hf e he _ rfl w'

/-- An activity on a context asks the store through the context's endpoints, and leaves of the
context everything as it was but the number of selections.  `contextOf` is the place of the context
in what the activity returns. -/
structure Operates (c : Context) (contextOf : α → Context) (a : StateM World α) : Prop where
  visits : Keeps (Visits c.pool.endpoints) a
  advances : Returns (fun x => ∃ count, contextOf x = c.advance count) a

namespace Operates

variable {β : Type} {c : Context} {contextOf : α → Context}

/-- An operation may end after any number of selections, with the context that counts them. -/
lemma pure {x : α} (count : ℕ) (h : contextOf x = c.advance count) :
    c.Operates contextOf (Pure.pure x) :=
  ⟨keeps_pure x, returns_pure ⟨count, h⟩⟩

/-- An activity that does not select comes before one on the same context. -/
lemma bind {a : StateM World β} {f : β → StateM World α}
    (ha : Keeps (Visits c.pool.endpoints) a) (hf : ∀ x, c.Operates contextOf (f x)) :
    c.Operates contextOf (a >>= f) :=
  ⟨keeps_bind ha fun x => (hf x).visits, returns_bind a fun x => (hf x).advances⟩

/-- A property of what comes first may be used for what comes after. -/
lemma bindReturns {P : β → Prop} {a : StateM World β} {f : β → StateM World α}
    (ha : Keeps (Visits c.pool.endpoints) a) (hP : Returns P a)
    (hf : ∀ x, P x → c.Operates contextOf (f x)) : c.Operates contextOf (a >>= f) := by
  constructor
  · intro w
    rw [run_bind]
    exact IsTrans.trans _ _ _ (ha w) ((hf _ (hP w)).visits _)
  · intro w
    exact (hf _ (hP w)).advances (a.run w).2

/-- What comes after an activity on the context finds the context as the activity leaves it. -/
lemma andThen {a : StateM World β} {before : β → Context} {f : β → StateM World α}
    (ha : c.Operates before a) (hf : ∀ x, (before x).Operates contextOf (f x)) :
    c.Operates contextOf (a >>= f) := by
  constructor
  · intro w
    obtain ⟨count, hc⟩ := ha.advances w
    have hvisits := (hf (a.run w).1).visits (a.run w).2
    rw [hc, endpoints_advance] at hvisits
    rw [run_bind]
    exact IsTrans.trans _ _ _ (ha.visits w) hvisits
  · intro w
    obtain ⟨count, hc⟩ := ha.advances w
    obtain ⟨more, hm⟩ := (hf (a.run w).1).advances (a.run w).2
    refine ⟨count + more, ?_⟩
    rw [run_bind, hm, hc, advance_advance]

/-- A failure is reported with the context as the selections have left it. -/
lemma failed {text : String} {e : Failure} {place : Outcome β → α} (count : ℕ)
    (h : ∀ o, contextOf (place o) = c.advance count) :
    c.Operates contextOf (do return place (← Context.failed text e)) :=
  .bind (keeps_failed text e) fun o => .pure count (h o)

lemma complained {text : String} {place : Outcome β → α} (count : ℕ)
    (h : ∀ o, contextOf (place o) = c.advance count) :
    c.Operates contextOf (do return place (← Context.complained text)) :=
  .bind (keeps_complained text) fun o => .pure count (h o)

end Operates

/-! ### Building a document -/

/-- The preparation of a payload does not depend on the selections. -/
lemma prepareFields_advance (c : Context) (count : ℕ) (excluded : String → Bool) (doc : Document)
    (values : List (String × Bytes)) :
    (c.advance count).prepareFields excluded doc values = c.prepareFields excluded doc values := by
  induction values generalizing doc with
  | nil => rfl
  | cons pair rest ih =>
    obtain ⟨field, data⟩ := pair
    unfold prepareFields
    split
    · exact ih doc
    · exact bind_congr fun v => ih (doc.set field v)

/-- Which document an insertion stores does not depend on the selections. -/
lemma document_advance (c : Context) (count : ℕ) (key : String) (values : Mapping Bytes) :
    (c.advance count).document key values = c.document key values := by
  unfold document
  dsimp only
  rw [prepareFields_advance]
  rfl

/-- The table that an insertion goes to, and the document that it inserts. -/
def build (c : Context) (name key : String) (values : Mapping Bytes) :
    Action (Target × Document) := do
  let target ← table c.settings c.selected name
  let doc ← c.document key values
  return (target, doc)

/-- An insertion builds its document first. -/
lemma insert_eq (c : Context) (b : Batch) (name key : String) (values : Mapping Bytes) :
    c.insert b name key values = (do
      match ← attempt (c.build name key values) with
      | .error e =>
        return (← failed s!"Couldn't build document for key {key}" e, c.advance 1, b)
      | .ok (target, doc) =>
        if c.settings.batchSize == 1 then
          match ← attempt (target.insertOne doc) with
          | .ok () => return (.ok none, c.advance 1, b)
          | .error e => return (← failed s!"Couldn't insert key {key}" e, c.advance 1, b)
        else
          if (b.add name doc).2 then
            match ← attempt (target.insertMany ((b.add name doc).1.buffer name)) with
            | .ok () => return (.ok none, c.advance 1, ((b.add name doc).1.take name).2)
            | .error e =>
              let count := ((b.add name doc).1.buffer name).length
              return (← failed s!"Exception while trying bulk insert with {count} documents" e,
                c.advance 1, ((b.add name doc).1.take name).2)
          else return (.ok none, c.advance 1, (b.add name doc).1)) := by
  unfold insert
  rw [next_eq]
  dsimp only
  rw [document_advance]
  rfl

/-- An insertion visits the selected endpoint to look the table up, and builds the document then. -/
lemma keeps_visits_build (c : Context) (name key : String) (values : Mapping Bytes) :
    Keeps (Visits c.pool.endpoints) (attempt (c.build name key values)) :=
  keeps_visits_withTable c _ name fun _ _ _ _ =>
    keeps_attempt_bind (keeps_document c key values) fun _ => keeps_attempt_pure _

/-- A document is built for the table of the selected endpoint. -/
lemma build_eq_ok {c : Context} {name key : String} {values : Mapping Bytes} {w w' : World}
    {t : Target} {doc : Document} (h : exec (c.build name key values) w = (.ok (t, doc), w')) :
    ∃ e, c.selected = some e ∧ t = ⟨e.client, c.settings.database, name⟩ := by
  unfold build at h
  obtain ⟨t', w₁, htable, h⟩ := exec_bind_eq_ok h
  obtain ⟨doc', w₂, -, h⟩ := exec_bind_eq_ok h
  cases h
  cases hs : c.selected with
  | none =>
    rw [hs] at htable
    cases htable
  | some e =>
    rw [hs] at htable
    exact ⟨e, rfl, use_eq_ok htable⟩

/-- The table of a document that was built belongs to an endpoint of the context. -/
lemma returns_build (c : Context) (name key : String) (values : Mapping Bytes) :
    Returns (fun built => ∀ t doc, built = .ok (t, doc) →
      ∃ e ∈ c.pool.endpoints, t.client = e.client) (attempt (c.build name key values)) := by
  intro w t doc h
  obtain ⟨e, hs, rfl⟩ := build_eq_ok (Prod.ext h rfl :
    exec (c.build name key values) w = (.ok (t, doc), _))
  exact ⟨e, mem_endpoints_of_selected hs, rfl⟩

/-! ### The operations -/

/-- A read makes one selection, whether or not it finds anything. -/
lemma operates_read (c : Context) (name key : String) (fields : Option (List String)) :
    c.Operates Prod.snd (c.read name key fields) := by
  unfold read
  rw [next_eq]
  refine .bind (keeps_visits_withTable c _ name fun e he t ht =>
    Target.keeps_findOne (keeps_visits_record he (congrArg some ht))) ?_
  rintro (f | _ | _ | _)
  · exact .failed 1 fun _ => rfl
  · exact .complained 1 fun _ => rfl
  · exact .complained 1 fun _ => rfl
  · exact .pure 1 rfl

/-- A scan makes one selection, for the look-up and for all that it reads from the cursor. -/
lemma operates_scan (c : Context) (name start : String) (count : Int)
    (fields : Option (List String)) :
    c.Operates Prod.snd (c.scan name start count fields) := by
  unfold scan
  rw [next_eq]
  refine .bind (keeps_visits_withTable c _ name fun e he t ht => keeps_visits_scan he ht _ _ _) ?_
  rintro (f | _ | _)
  · exact .failed 1 fun _ => rfl
  · exact .complained 1 fun _ => rfl
  · exact .pure 1 rfl

/-- An update makes one selection, also where the preparation of its payload fails. -/
lemma operates_update (c : Context) (name key : String) (values : Mapping Bytes) :
    c.Operates Prod.snd (c.update name key values) := by
  unfold update
  rw [next_eq]
  refine .bind (keeps_visits_withTable c _ name fun e he t ht => ?_) fun counted => ?_
  · refine keeps_attempt_bind keeps_nextMarker fun _ => ?_
    refine keeps_attempt_bind (keeps_prepareFields _ _ _ _) fun _ => ?_
    exact Target.keeps_updateOne (keeps_visits_record he (congrArg some ht)) (keeps_visits_put t)
  · cases counted with
    | error e => exact .failed 1 fun _ => rfl
    | ok count =>
      dsimp only
      split
      · exact .complained 1 fun _ => rfl
      · split
        · exact .complained 1 fun _ => rfl
        · exact .pure 1 rfl

/-- A deletion makes one selection. -/
lemma operates_delete (c : Context) (name key : String) :
    c.Operates Prod.snd (c.delete name key) := by
  unfold delete
  rw [next_eq]
  refine .bind (keeps_visits_withTable c _ name fun e he t ht =>
    Target.keeps_deleteMany (keeps_visits_record he (congrArg some ht)) (keeps_visits_put t)) ?_
  rintro (f | _)
  · exact .failed 1 fun _ => rfl
  · exact .pure 1 rfl

/-- An insertion makes one selection, whether it writes its document, writes a full buffer or leaves
the document in the buffer. -/
lemma operates_insert (c : Context) (b : Batch) (name key : String) (values : Mapping Bytes) :
    c.Operates (fun result => result.2.1) (c.insert b name key values) := by
  rw [insert_eq]
  refine .bindReturns (keeps_visits_build c name key values) (returns_build c name key values) ?_
  rintro (f | ⟨t, doc⟩) hbuilt
  · exact .failed 1 fun _ => rfl
  obtain ⟨e, he, ht⟩ := hbuilt t doc rfl
  dsimp only
  split
  · refine .bind (Target.keeps_insertOne (keeps_visits_record he (congrArg some ht))
      (keeps_visits_put t)) ?_
    rintro (f | _)
    · exact .failed 1 fun _ => rfl
    · exact .pure 1 rfl
  · split
    · refine .bind (keeps_visits_insertMany he ht _) ?_
      rintro (f | _)
      · exact .failed 1 fun _ => rfl
      · exact .pure 1 rfl
    · exact .pure 1 rfl

/-- The buffer of one table is written to an endpoint that is selected for it. -/
lemma operates_flushTable (c : Context) (name : String) (docs : List Document) :
    c.Operates Prod.snd (c.flushTable name docs) := by
  unfold flushTable
  rw [next_eq]
  refine .bind
    (keeps_visits_withTable c _ name fun e he t ht => keeps_visits_insertMany he ht docs) ?_
  rintro (f | _)
  · exact .failed 1 fun _ => rfl
  · exact .bind (keeps_log _ _ _) fun _ => .pure 1 rfl

/-- After one buffer a flush goes on with the others. -/
lemma run_flushTables_cons (c : Context) (outcome : Outcome Unit) (name : String)
    (docs : List Document) (rest : List (String × List Document)) (w : World) :
    (c.flushTables outcome ((name, docs) :: rest)).run w =
      (((c.flushTable name docs).run w).1.2.flushTables
        (if ((c.flushTable name docs).run w).1.1.isOk then outcome
          else ((c.flushTable name docs).run w).1.1) rest).run
        ((c.flushTable name docs).run w).2 := rfl

/-- A flush makes a selection for each table: the context that one table leaves is the one that the
next one finds. -/
lemma operates_flushTables (c : Context) (outcome : Outcome Unit)
    (drained : List (String × List Document)) :
    c.Operates Prod.snd (c.flushTables outcome drained) := by
  induction drained generalizing c outcome with
  | nil => exact .pure 0 rfl
  | cons pair rest ih =>
    obtain ⟨name, docs⟩ := pair
    exact (operates_flushTable c name docs).andThen fun result => ih result.2 _

/-- A flush of nothing makes no selection. -/
lemma operates_flush (c : Context) (b : Batch) (name : Option String) :
    c.Operates (fun result => result.2.1) (c.flush b name) := by
  unfold flush
  split
  · exact .pure 0 rfl
  · exact (operates_flushTables c _ _).andThen fun result => .pure 0 rfl

end Context

end LoadBinding
