import LoadBinding.Proofs.Answering
import LoadBinding.Proofs.Documents

/-!
# What failed operations leave behind

In whatever state a run has come to, and whatever faults the deployment shows then, an operation of
a worker that only looks at the data or that fails leaves all documents and all batches as they are.
The exception are batches that are written together: of those the documents are stored up to the
first whose key there is already (`AddsUpToRepeat`), or none at all if the deployment shows a fault.

The store keeps a document under the key that it had when it was inserted.  That this is the key
that it still has is an invariant of every run (`Row.Keyed`): no operation writes the field of the
key of a document that there is.
-/

namespace LoadBinding

open LoadBinding.Text LoadBinding.Action World Batch Collection

/-! ## Keys -/

/-- A row is stored under the key of its document. -/
def Row.Keyed (row : Row) : Prop :=
  row.key = keyOf row.doc

/-- All rows of a cluster are stored under the keys of their documents. -/
def Cluster.Keyed (c : Cluster) : Prop :=
  ∀ database table, ∀ row ∈ (c.collection database table).rows, row.Keyed

/-- The key of a document is a text. -/
def HasTextKey (doc : Document) : Prop :=
  ∃ key, doc.get? idField = some (.text key)

instance (doc : Document) : Decidable (HasTextKey doc) :=
  decidable_of_iff
    ((match doc.get? idField with | some (.text _) => true | _ => false) = true) <| by
    unfold HasTextKey
    split <;> simp_all

namespace Settings

variable {s : Settings}

/-- A document that is built has a text as its key, also if a routing field stands in its place. -/
lemma hasTextKey_documentOf {key : String} {values : Mapping Bytes} {draws : Draws} {doc : Document}
    (hvalues : idField ∉ values.keys) (h : (s.documentOf key values draws).1 = .ok doc) :
    HasTextKey doc := by
  unfold documentOf at h
  dsimp only at h
  cases hprepared : (s.prepareAll (s.routing key).has [(idField, .text key)] draws values).1 with
  | error e =>
    rw [hprepared] at h
    cases h
  | ok prepared =>
    rw [hprepared] at h
    cases h
    rcases prepared.get?_update_cases ((s.routing key).mapValues Value.text) idField with
      hkept | ⟨v, hmem, hnew⟩
    · exact ⟨key, hkept.trans ((get?_prepareAll (.inr hvalues) hprepared).trans rfl)⟩
    · obtain ⟨pair, -, hpair⟩ := List.mem_map.mp hmem
      exact ⟨pair.2, hnew.trans (congrArg some (congrArg Prod.snd hpair).symm)⟩

/-- An update does not change the key of a document. -/
lemma Changes.keyOf_update {values : Mapping Bytes} {changes : Document}
    (h : s.Changes values changes) (hvalues : idField ∉ values.keys) (doc : Document) :
    keyOf (doc.update changes) = keyOf doc := by
  have hnone : changes.get? idField = none := h.get?_eq_none (by decide) (.inr hvalues)
  unfold keyOf
  rw [Mapping.get?_update_of_not_mem (Mapping.not_mem_keys_of_get?_eq_none hnone)]

lemma upholds_keyed (s : Settings) : s.Upholds (fun _ _ => Row.Keyed) HasTextKey where
  built hvalues hdoc := hasTextKey_documentOf hvalues hdoc
  stored _ := rfl
  updated hrow hvalues hchanges := hrow.trans (hchanges.keyOf_update hvalues _).symm

end Settings

/-! ### Making contexts -/

/-- Between two worlds the rows stay under the keys of their documents. -/
def World.KeepsKeys (w w' : World) : Prop :=
  w.AllRows (fun _ _ => Row.Keyed) → w'.AllRows fun _ _ => Row.Keyed

lemma World.SameRows.keepsKeys {w w' : World} (h : SameRows w w') : KeepsKeys w w' :=
  fun hw => hw.of_sameRows h

instance : DataOrder KeepsKeys where
  refl _ := id
  trans _ _ _ h h' hw := h' (h hw)
  of_consults h hw := hw.of_sameRows (DataOrder.of_consults h)

lemma sameRows_createCollection (client : Client) (database name : String) (options : Document) :
    Keeps SameRows (attempt (client.createCollection database name options)) := by
  intro w d table
  rw [run_attempt]
  have hused : (w.inDatabase database).rows d table = w.rows d table :=
    congrArg Collection.rows (Cluster.collection_useDatabase ..)
  rcases exec_createCollection client database name options w with ⟨e, he⟩ | ⟨c, hc, hok⟩
  · rw [he]
    exact hused
  · rw [hok]
    refine Eq.trans (congrArg Collection.rows
      (Cluster.collection_of_createCollection hc d table)) ?_
    refine Eq.trans ?_ hused
    split
    · rename_i heq
      rw [heq.1, heq.2]
      rfl
    · rfl

lemma sameRows_command (client : Client) (name : String) (arguments : List String)
    (options : Document) : Keeps SameRows (attempt (client.command name arguments options)) := by
  intro w d table
  rw [run_attempt]
  have hused : (w.inDatabase Client.adminDatabase).rows d table = w.rows d table :=
    congrArg Collection.rows (Cluster.collection_useDatabase ..)
  rcases exec_command client name arguments options w with ⟨e, he⟩ | ⟨w', hok, -, hcluster⟩
  · rw [he]
    exact hused
  · rw [hok]
    dsimp only
    rw [World.rows, hcluster]
    exact hused

lemma keepsKeys_insertOne (t : Target) (doc : Document) :
    Keeps KeepsKeys (attempt (t.insertOne doc)) := by
  intro w hw
  rw [run_attempt]
  rcases exec_insertOne t doc w with ⟨e, he⟩ | ⟨x, hx, hok⟩
  · rw [he]
    exact hw
  · obtain ⟨-, -, hrows⟩ := insert_eq_ok hx
    rw [hok]
    refine AllRows.put (w := w.noted (.insertOne t doc)) hw fun row hrow => ?_
    rw [hrows] at hrow
    rcases List.mem_append.mp hrow with hrow | hrow
    · exact hw t.database t.collection row hrow
    · rw [List.mem_singleton.mp hrow]
      rfl

/-- A data key is stored under its identifier. -/
lemma keepsKeys_createKey (e : Encryptor) (provider : String) :
    Keeps KeepsKeys (attempt (e.createKey provider)) :=
  Encryptor.keeps_createKey (fun w => (sameRows_record _ w).keepsKeys) fun _ =>
    keepsKeys_insertOne _ _

lemma keepsKeys_prepareCollection (s : Settings) (client : Client) (key : KeyId) :
    Keeps KeepsKeys (attempt (Encryption.prepareCollection s client key)) := by
  have hcreate (options : Document) : Keeps KeepsKeys
      (attempt (client.createCollection s.database s.collection options)) :=
    fun w => (sameRows_createCollection client _ _ options w).keepsKeys
  have hcommand (name : String) (arguments : List String) (options : Document) :
      Keeps KeepsKeys (attempt (client.command name arguments options)) :=
    fun w => (sameRows_command client name arguments options w).keepsKeys
  exact Encryption.keepsData_prepareCollection (hcreate _) (hcreate _)
    (Encryption.keeps_shard (hcommand _ _ _) (hcommand _ _ _))

/-- Making a context may store a data key, under its identifier. -/
lemma keepsKeys_create (bag : Bag) : Keeps KeepsKeys (attempt (Context.create bag)) := by
  have hsetUp (s : Settings) (url : String) : Keeps KeepsKeys (attempt (Encryption.setUp s url)) :=
    Encryption.keepsData_setUp (fun client encryptor _ => Encryption.keepsData_setUpWith
      (keepsKeys_createKey encryptor _) (keepsKeys_prepareCollection s client)) url
  exact keeps_create fun s _ => ⟨hsetUp s, handsOver_of_connect (hsetUp s) fun _ _ _ => id⟩

namespace Harness

lemma endures_keyed : Endures (AllRows fun _ _ => Row.Keyed)
    fun _ b => True ∧ b.AllDocs HasTextKey where
  consults hw h := hw.of_sameRows (DataOrder.of_consults h)
  create bag w := keepsKeys_create bag w
  empty s := ⟨trivial, .create s.batchSize⟩
  flush := Context.maintains_flush (G := fun _ => True)
    (fun s _ {table _} => @Settings.Upholds.stored _ _ _ s.upholds_keyed table _) none

/-- In every state of a run the rows are stored under the keys of their documents, and buffered
documents have texts as their keys. -/
lemma steady_keyed {cluster : Cluster} {draws : Draws} {faults : Faults} {provider : String}
    {bags : Mapping Bag} {requests : List Request} (hcluster : cluster.Keyed)
    (hr : ∀ request ∈ requests, request.SparesKey) :
    ((start cluster draws faults provider bags).run requests).2.Steady
      (AllRows fun _ _ => Row.Keyed) fun _ b => True ∧ b.AllDocs HasTextKey :=
  steady_run endures_keyed provider bags hcluster fun request hrequest _ _ hop =>
    Request.maintains (G := fun _ => True) (fun s _ => s.upholds_keyed) (hr request hrequest) hop

end Harness

/-! ## Up to the first repeat -/

/-- A document has the key of one of some rows, or of a document before it. -/
def Repeats (rows : List Row) (before : List Document) (doc : Document) : Prop :=
  (∃ row ∈ rows, keyOf row.doc = keyOf doc) ∨ ∃ other ∈ before, keyOf other = keyOf doc

/-- Of some documents exactly those are added behind some rows that precede the first repeat. -/
structure AddsUpToRepeat (rows : List Row) (docs added : List Document) : Prop where
  exists_rest : ∃ rest, docs = added ++ rest ∧
    ∀ doc after, rest = doc :: after → Repeats rows added doc
  not_repeats : ∀ before doc after, added = before ++ doc :: after → ¬ Repeats rows before doc

section UpToRepeat

variable {rows : List Row} {docs : List Document}

/-- A row that was added counts as a document before. -/
lemma repeats_append {before : List Document} {doc first : Document} :
    Repeats (rows ++ [rowOf first]) before doc ↔ Repeats rows (first :: before) doc := by
  constructor
  · rintro (⟨row, hrow, hkey⟩ | ⟨other, hother, hkey⟩)
    · rcases List.mem_append.mp hrow with hrow | hrow
      · exact .inl ⟨row, hrow, hkey⟩
      · obtain rfl := List.mem_singleton.mp hrow
        exact .inr ⟨first, List.mem_cons_self, hkey⟩
    · exact .inr ⟨other, List.mem_cons_of_mem _ hother, hkey⟩
  · rintro (⟨row, hrow, hkey⟩ | ⟨other, hother, hkey⟩)
    · exact .inl ⟨row, List.mem_append_left _ hrow, hkey⟩
    · rcases List.mem_cons.mp hother with rfl | hother
      · exact .inl ⟨rowOf other, List.mem_append_right _ (List.mem_singleton_self _), hkey⟩
      · exact .inr ⟨other, hother, hkey⟩

/-- A key is taken exactly if a document of a row has it. -/
lemma taken_eq_true_iff (hrows : ∀ row ∈ rows, row.Keyed) {key : String} :
    taken rows (.text key) = true ↔ ∃ row ∈ rows, keyOf row.doc = .text key := by
  unfold taken
  rw [List.any_eq_true]
  refine exists_congr fun row => and_congr_right fun hrow => ?_
  rw [Value.same_text, hrows row hrow]

/-- The documents that a write admits are those before the first repeat. -/
lemma addsUpToRepeat_admitted (hrows : ∀ row ∈ rows, row.Keyed)
    (hdocs : ∀ doc ∈ docs, HasTextKey doc) : AddsUpToRepeat rows docs (admitted rows docs) := by
  have hnone {rows : List Row} : ∀ before (doc : Document) after,
      ([] : List Document) = before ++ doc :: after → ¬ Repeats rows before doc :=
    fun before doc after heq => by cases before <;> cases heq
  induction docs generalizing rows with
  | nil => exact ⟨⟨[], rfl, nofun⟩, hnone⟩
  | cons doc rest ih =>
    obtain ⟨key, hkey⟩ := hdocs doc List.mem_cons_self
    have hkeyOf := keyOf_eq hkey
    unfold admitted
    cases hfree : taken rows (.text key) with
    | true =>
      -- The first document repeats a key, and nothing is added.
      have hinsert : ({ rows := rows } : Collection).insert doc =
          .error (.duplicateKey (.text key)) := by
        unfold Collection.insert
        rw [hkey]
        dsimp only
        rw [hasKey_eq, hfree]
        rfl
      rw [hinsert]
      refine ⟨⟨doc :: rest, rfl, fun doc' after heq => ?_⟩, hnone⟩
      obtain rfl := (List.cons.inj heq).1
      exact .inl (hkeyOf.symm ▸ (taken_eq_true_iff hrows).mp hfree)
    | false =>
      rw [insert_of_fresh ⟨key, hkey, hfree⟩]
      change AddsUpToRepeat rows (doc :: rest) (doc :: admitted (rows ++ [rowOf doc]) rest)
      have hkeyed : ∀ row ∈ rows ++ [rowOf doc], row.Keyed := by
        intro row hrow
        rcases List.mem_append.mp hrow with hrow | hrow
        · exact hrows row hrow
        · rw [List.mem_singleton.mp hrow]
          rfl
      obtain ⟨⟨others, hothers, hrepeat⟩, hnot⟩ :=
        ih hkeyed fun other hother => hdocs other (List.mem_cons_of_mem _ hother)
      refine ⟨⟨others, congrArg (doc :: ·) hothers, fun doc' after heq => ?_⟩,
        fun before doc' after heq => ?_⟩
      · exact repeats_append.mp (hrepeat doc' after heq)
      · cases before with
        | nil =>
          obtain rfl := (List.cons.inj heq).1
          rintro (hrow | ⟨other, hother, -⟩)
          · rw [hkeyOf, ← taken_eq_true_iff hrows, hfree] at hrow
            cases hrow
          · cases hother
        | cons first before =>
          obtain ⟨rfl, hrest⟩ := List.cons.inj heq
          exact fun hrepeats => hnot before doc' after hrest (repeats_append.mpr hrepeats)

end UpToRepeat

/-! ## Requests -/

namespace Harness

variable {h : Harness} {name : String} {w : Worker} {active : Active} {c : Context}
  {request : Request} {op : Operation Answer}

/-- The batch of a registered worker. -/
def batchOf? (h : Harness) (name : String) : Option Batch :=
  (h.workers.get? name).bind fun w => w.active.map Active.batch

/-- Between two states no document of any table has changed, and no batch of any worker. -/
structure Intact (h h' : Harness) : Prop where
  rows : SameRows h.world h'.world
  batches : ∀ name, h'.batchOf? name = h.batchOf? name

/-- A request is answered with an outcome of failure. -/
def Errs (h : Harness) (request : Request) : Prop :=
  ∃ answer, (h.step request).1 = .ok answer ∧ answer.status? = some .error

/-- Between two states a worker has handed over documents for each table of a database.  They were
added up to the first repeat, or not at all where there is a fault, and no other document has
changed; what was handed over is no longer buffered, and all else is. -/
structure WritesUpToRepeat (h h' : Harness) (name database : String) (b : Batch)
    (handed : String → List Document) : Prop where
  rows : ∃ added : String → List Document,
    (∀ d table, h'.world.rows d table =
      h.world.rows d table ++ if d = database then (added table).map rowOf else []) ∧
    ∀ table, if h.world.isFaulty table then added table = []
      else AddsUpToRepeat (h.world.rows database table) (handed table) (added table)
  batch : ∃ b', h'.batchOf? name = some b' ∧
    ∀ table, b'.buffer table = if (handed table).isEmpty then b.buffer table else []
  others : ∀ other, other ≠ name → h'.batchOf? other = h.batchOf? other

lemma batchOf?_eq (hw : h.Holds name w active c) : h.batchOf? name = some active.batch := by
  rw [batchOf?, hw.worker, Option.bind_some, hw.registered, Option.map_some]

/-- After an operation its worker has the batch that the operation returns, and all others have
theirs. -/
lemma batchOf?_step (hop : request.operation? = some (name, op)) (hw : h.Holds name w active c)
    (other : String) : (h.step request).2.batchOf? other =
      if other = name then some ((op c active.batch).run h.world).1.2.2 else h.batchOf? other := by
  rw [step_of_operation hop hw]
  unfold batchOf? noteContexts operated
  dsimp only
  rw [Mapping.get?_set]
  split <;> rfl

/-- An operation that changes neither rows nor its batch leaves everything intact. -/
lemma intact_of_operation (hop : request.operation? = some (name, op))
    (hw : h.Holds name w active c)
    (hrows : SameRows h.world ((op c active.batch).run h.world).2)
    (hbatch : ((op c active.batch).run h.world).1.2.2 = active.batch) :
    h.Intact (h.step request).2 := by
  refine ⟨?_, fun other => ?_⟩
  · rw [step_of_operation hop hw]
    exact hrows
  · rw [batchOf?_step hop hw, hbatch]
    split
    · rename_i heq
      rw [heq, batchOf?_eq hw]
    · rfl

/-- The status of the outcome of a request that fails. -/
lemma Errs.status (he : h.Errs request) (hop : request.operation? = some (name, op))
    (hw : h.Holds name w active c) :
    ((op c active.batch).run h.world).1.1.status? = some .error := by
  obtain ⟨answer, hanswer, hstatus⟩ := he
  rw [step_of_operation hop hw] at hanswer
  rwa [← Except.ok.inj hanswer] at hstatus

/-- An operation that writes the documents that it hands over. -/
lemma writesUpToRepeat_of_operation (hop : request.operation? = some (name, op))
    (hw : h.Holds name w active c) {database : String} {writes : List (String × List Document)}
    {handed : String → List Document} (hkeys : h.world.AllRows fun _ _ => Row.Keyed)
    (hdocs : ∀ table, ∀ doc ∈ handed table, HasTextKey doc)
    (hwrites : Writes database writes h.world ((op c active.batch).run h.world).2)
    (hwritten : ∀ table, docsOf writes table = h.world.written database table (handed table))
    (hbatch : ∀ table, ((op c active.batch).run h.world).1.2.2.buffer table =
      if (handed table).isEmpty then active.batch.buffer table else []) :
    h.WritesUpToRepeat (h.step request).2 name database active.batch handed := by
  refine ⟨⟨fun table => docsOf writes table, fun d table => ?_, fun table => ?_⟩,
    ⟨_, (batchOf?_step hop hw name).trans (if_pos rfl), hbatch⟩, fun other hother => ?_⟩
  · rw [step_of_operation hop hw]
    exact hwrites.rows d table
  · dsimp only
    rw [hwritten, written]
    split
    · rfl
    · exact addsUpToRepeat_admitted (hkeys database table) (hdocs table)
  · rw [batchOf?_step hop hw, if_neg hother]

/-- What becomes of the data when operations of a worker fail, with the context and the batch of the
worker. -/
structure FailsSafely (h : Harness) (name : String) (c : Context) (b : Batch) : Prop where
  /-- A read changes nothing. -/
  read : ∀ table key fields, h.Intact (h.step (.read name table key fields)).2
  /-- A scan changes nothing. -/
  scan : ∀ table start count fields, h.Intact (h.step (.scan name table start count fields)).2
  /-- An update that fails changes nothing. -/
  update : ∀ table key values, h.Errs (.update name table key values) →
    h.Intact (h.step (.update name table key values)).2
  /-- A deletion that fails changes nothing. -/
  delete : ∀ table key, h.Errs (.delete name table key) →
    h.Intact (h.step (.delete name table key)).2
  /-- An insertion of a single document that fails changes nothing. -/
  insert : ∀ table key values, c.settings.batchSize = 1 → h.Errs (.insert name table key values) →
    h.Intact (h.step (.insert name table key values)).2
  /-- An insertion that cannot build its document changes nothing. -/
  build : ∀ table key values, h.builtBy table (.insert name table key values) = [] →
    h.Intact (h.step (.insert name table key values)).2
  /-- An insertion that fills its buffer writes the buffer up to the first repeat. -/
  fill : ∀ table key values doc, idField ∉ values.keys → c.settings.batchSize ≠ 1 →
    h.builtBy table (.insert name table key values) = [doc] → (b.add table doc).2 = true →
    h.WritesUpToRepeat (h.step (.insert name table key values)).2 name c.settings.database b
      fun t => if t = table then b.buffer table ++ [doc] else []
  /-- A flush writes each buffer up to the first repeat. -/
  flush : ∀ selection,
    h.WritesUpToRepeat (h.step (.flush name selection)).2 name c.settings.database b
      (b.selected selection)

section Failing

variable (hw : h.Holds name w active c) (hc : c.Serves c.settings)
include hw hc

lemma intact_update_of_errs {table key : String} {values : Mapping Bytes}
    (he : h.Errs (.update name table key values)) :
    h.Intact (h.step (.update name table key values)).2 := by
  have hstatus := he.status rfl hw
  rcases c.update_cases hc table key values h.world with ⟨-, hsame⟩ | ⟨_, -, -, hok, -⟩
  · exact intact_of_operation rfl hw hsame rfl
  · cases hok.symm.trans (Option.some.inj hstatus)

lemma intact_delete_of_errs {table key : String} (he : h.Errs (.delete name table key)) :
    h.Intact (h.step (.delete name table key)).2 := by
  obtain ⟨t, ht⟩ := hc.exists_reaches table
  have hstatus := he.status rfl hw
  rcases c.delete_cases hc ht key h.world with ⟨-, hsame⟩ | ⟨_, -, hok, -⟩
  · exact intact_of_operation rfl hw hsame rfl
  · cases hok.symm.trans (Option.some.inj hstatus)

variable {table key : String} {values : Mapping Bytes}

/-- A single document that is not stored leaves everything as it was. -/
lemma intact_insert_of_errs (hone : c.settings.batchSize = 1)
    (he : h.Errs (.insert name table key values)) :
    h.Intact (h.step (.insert name table key values)).2 := by
  have hstatus := he.status rfl hw
  cases c.inserts hc active.batch table key values h.world with
  | unbuilt _ batch rows => exact intact_of_operation rfl hw rows batch
  | refused _ _ batch rows => exact intact_of_operation rfl hw rows batch
  | stored _ _ _ _ _ _ _ hok => cases hok.symm.trans (Option.some.inj hstatus)
  | buffered _ _ hsize => exact absurd hone hsize
  | full _ _ hsize => exact absurd hone hsize

lemma intact_insert_of_unbuilt (hnone : h.builtBy table (.insert name table key values) = []) :
    h.Intact (h.step (.insert name table key values)).2 := by
  rw [builtBy_insert hw, if_pos rfl] at hnone
  cases c.inserts hc active.batch table key values h.world with
  | unbuilt _ batch rows => exact intact_of_operation rfl hw rows batch
  | refused _ _ batch rows => exact intact_of_operation rfl hw rows batch
  | stored _ _ _ _ built => cases hnone.symm.trans built
  | buffered _ built => cases hnone.symm.trans built
  | full _ built => cases hnone.symm.trans built

variable (hkeys : h.world.AllRows fun _ _ => Row.Keyed) (hdocs : active.batch.AllDocs HasTextKey)
include hkeys hdocs

/-- The document that fills a buffer is handed over with the others. -/
lemma writesUpToRepeat_insert {doc : Document} (hvalues : idField ∉ values.keys)
    (hsize : c.settings.batchSize ≠ 1)
    (hbuilt : h.builtBy table (.insert name table key values) = [doc])
    (hfull : (active.batch.add table doc).2 = true) :
    h.WritesUpToRepeat (h.step (.insert name table key values)).2 name c.settings.database
      active.batch fun t => if t = table then active.batch.buffer table ++ [doc] else [] := by
  rw [builtBy_insert hw, if_pos rfl] at hbuilt
  obtain ⟨_, hdoc⟩ := Context.documentOf_of_mem_builtIn hc (hbuilt ▸ List.mem_singleton_self doc)
  have hkey := Settings.hasTextKey_documentOf hvalues hdoc
  cases c.inserts hc active.batch table key values h.world with
  | unbuilt built => cases hbuilt.symm.trans built
  | refused hone => exact absurd hone hsize
  | stored _ _ _ _ _ hone => exact absurd hone hsize
  | buffered _ built _ hnot =>
    obtain rfl := List.singleton_inj.mp (hbuilt.symm.trans built)
    cases hfull.symm.trans hnot
  | full _ built _ _ batch writes =>
    obtain rfl := List.singleton_inj.mp (hbuilt.symm.trans built)
    refine writesUpToRepeat_of_operation rfl hw hkeys (fun t doc' hdoc' => ?_) writes
      (fun t => ?_) fun t => ?_
    · split at hdoc'
      · rcases List.mem_append.mp hdoc' with hold | hnew
        · exact hdocs table doc' hold
        · exact List.mem_singleton.mp hnew ▸ hkey
      · cases hdoc'
    · rw [docsOf_singleton]
      by_cases heq : t = table
      · rw [if_pos heq.symm, if_pos heq, heq]
      · rw [if_neg (Ne.symm heq), if_neg heq, written_nil]
    · refine (congrArg (Batch.buffer · t) batch).trans ?_
      rw [buffer_take, buffer_add]
      by_cases heq : t = table
      · simp [heq]
      · simp [heq]

lemma writesUpToRepeat_flush (selection : Option String) :
    h.WritesUpToRepeat (h.step (.flush name selection)).2 name c.settings.database active.batch
      (active.batch.selected selection) := by
  obtain ⟨hbuffer, hwrites⟩ := c.writes_flush hc active.batch selection h.world
  have hselected := active.batch.docsOf_drain selection
  refine writesUpToRepeat_of_operation rfl hw hkeys (fun t doc hdoc => ?_) hwrites
    (fun t => ?_) fun t => ?_
  · exact (hdocs.drain selection).1 t doc (hselected t ▸ hdoc)
  · rw [Context.docsOf_written h.world _ _ (active.batch.nodup_drain selection), hselected]
  · refine (hbuffer t).trans ?_
    exact active.batch.buffer_drain selection t

end Failing

/-- Whatever was requested before, and whatever faults the deployment shows: if no payload names the
field of the key, operations of a registered worker that fail leave the data intact, but for batches
that are written up to the first repeat. -/
theorem failures_leave_data_intact {cluster : Cluster} {draws : Draws} {faults : Faults}
    {provider : String} {bags : Mapping Bag} {requests : List Request}
    (hrun : ((start cluster draws faults provider bags).run requests).2 = h)
    (hcluster : cluster.Keyed) (hr : ∀ request ∈ requests, request.SparesKey)
    (hw : h.workers.get? name = some w) (ha : w.active = some active) :
    ∃ c, h.Holds name w active c ∧ h.FailsSafely name c active.batch := by
  have hsteady : h.Steady (AllRows fun _ _ => Row.Keyed) fun _ b => True ∧ b.AllDocs HasTextKey :=
    hrun ▸ steady_keyed hcluster hr
  obtain ⟨c, hholds, hserves, -, hdocs⟩ := hsteady.exists_holds hw ha
  exact ⟨c, hholds,
    { read := fun table key fields =>
        intact_of_operation rfl hholds (c.sameRows_read table key fields h.world) rfl
      scan := fun table start count fields =>
        intact_of_operation rfl hholds (c.sameRows_scan table start count fields h.world) rfl
      update := fun _ _ _ => intact_update_of_errs hholds hserves
      delete := fun _ _ => intact_delete_of_errs hholds hserves
      insert := fun _ _ _ => intact_insert_of_errs hholds hserves
      build := fun _ _ _ => intact_insert_of_unbuilt hholds hserves
      fill := fun _ _ _ _ => writesUpToRepeat_insert hholds hserves hsteady.world hdocs
      flush := writesUpToRepeat_flush hholds hserves hsteady.world hdocs }⟩

/-- A deployment with one record. -/
def oneRecord : Cluster :=
  ({} : Cluster).setCollection "ycsb" "t" { rows := [rowOf [(idField, .text "2")]] }

lemma keyed_oneRecord : oneRecord.Keyed := by
  intro database table row hrow
  unfold oneRecord at hrow
  rw [Cluster.collection_setCollection] at hrow
  split at hrow
  · rw [List.mem_singleton.mp hrow]
    rfl
  · cases hrow

/-- A worker that has buffered the first of two documents. -/
def halfFull : Harness :=
  ((start oneRecord {} [] "p" [("a", [("batchsize", .text "2")])]).run
    [.init "a", .insert "a" "t" "1" []]).2

/-- The second document repeats the key of the record, and only the first one is added. -/
theorem failures_leave_data_intact_halfFull :
    oneRecord.Keyed ∧
      (∀ request ∈ [Request.init "a", .insert "a" "t" "1" []], request.SparesKey) ∧
      (halfFull.step (.insert "a" "t" "2" [])).1.toOption.bind Answer.status? = some .error ∧
      ((halfFull.step (.insert "a" "t" "2" [])).2.world.rows "ycsb" "t").length = 2 ∧
      ∃ w active c, halfFull.workers.get? "a" = some w ∧ w.active = some active ∧
        halfFull.Holds "a" w active c ∧ halfFull.FailsSafely "a" c active.batch := by
  have hr : ∀ request ∈ [Request.init "a", .insert "a" "t" "1" []], request.SparesKey := by
    simp [Request.SparesKey, Mapping.keys]
  have hsome : ((halfFull.workers.get? "a").bind Worker.active).isSome = true := by
    decide +kernel
  obtain ⟨active, hactive⟩ := Option.isSome_iff_exists.mp hsome
  obtain ⟨w, hw, ha⟩ := Option.bind_eq_some_iff.mp hactive
  obtain ⟨c, hholds, hsafe⟩ :=
    failures_leave_data_intact (h := halfFull) rfl keyed_oneRecord hr hw ha
  exact ⟨keyed_oneRecord, hr, by decide +kernel, by decide +kernel, w, active, c, hw, ha, hholds,
    hsafe⟩

end Harness

end LoadBinding
