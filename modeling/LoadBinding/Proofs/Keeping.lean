import LoadBinding.Proofs.Traces

/-!
# What activities keep

A call keeps a relation between worlds as soon as the recording of the call keeps it and the change
of the cluster behind it does (`Client.keeps_*`, `Target.keeps_*`).  So a relation is taken through
the calls on records by two facts of its own.

Between its calls an activity logs and takes identifiers, and an operation on records also draws
random numbers and takes update markers.  The relations that do not notice the former are instances
of `QuietOrder`, and those that do not notice the latter either are instances of `CallOrder`.

The set-up of the encryption is taken through in the same way: it keeps a quiet relation that its
calls keep (`Encryption.keeps_setUpWith`).
-/

namespace LoadBinding

open LoadBinding.Text LoadBinding.Action

variable {R : World → World → Prop}

/-! ## Calls -/

section Calls

variable [IsPreorder World R]

namespace Client

variable {client : Client} {database name : String}

/-- A look-up of a collection is recorded between two changes of the cluster. -/
lemma keeps_use (hdatabase : Keeps R (attempt (client.useDatabase database)))
    (hrecord : Keeps R (attempt (record (.use ⟨client, database, name⟩))))
    (hcollection : Keeps R (attempt (modifyCluster (·.useCollection database name)))) :
    Keeps R (attempt (client.use database name)) := by
  unfold Client.use
  refine keeps_attempt_bind hdatabase fun _ => ?_
  refine keeps_attempt_bind hrecord fun _ => ?_
  exact keeps_attempt_bind hcollection fun _ => keeps_attempt_pure _

/-- A list of collections is read off the cluster, once the call is recorded. -/
lemma keeps_listCollections (hdatabase : Keeps R (attempt (client.useDatabase database)))
    (hrecord : Keeps R (attempt (record (.listCollections database)))) :
    Keeps R (attempt (client.listCollections database)) := by
  unfold Client.listCollections
  refine keeps_attempt_bind hdatabase fun _ => ?_
  refine keeps_attempt_bind hrecord fun _ => ?_
  exact keeps_attempt_bind keeps_attempt_get fun _ => keeps_attempt_pure _

end Client

namespace Target

variable {t : Target} {doc changes : Document} {docs : List Document} {f : Filter}
  {p : Option Projection}

/-- A document whose key is taken is refused before the collection is replaced. -/
lemma keeps_insertOne (hrecord : Keeps R (attempt (record (.insertOne t doc))))
    (hput : ∀ x, Keeps R (attempt (t.put x))) : Keeps R (attempt (t.insertOne doc)) := by
  unfold Target.insertOne
  refine keeps_attempt_bind hrecord fun _ => ?_
  refine keeps_attempt_bind keeps_attempt_get fun _ => ?_
  exact keeps_attempt_bind (keeps_attempt_ofStore _) hput

/-- Of several documents those before the first refusal are stored, and then the call fails. -/
lemma keeps_insertMany (hrecord : Keeps R (attempt (record (.insertMany t docs))))
    (hput : ∀ x, Keeps R (attempt (t.put x))) : Keeps R (attempt (t.insertMany docs)) := by
  unfold Target.insertMany
  refine keeps_attempt_bind hrecord fun _ => ?_
  refine keeps_attempt_bind keeps_attempt_get fun _ => ?_
  refine keeps_attempt_bind (hput _) fun _ => ?_
  split
  · exact keeps_attempt_pure _
  · exact keeps_attempt_throw _

/-- A read of one document changes nothing behind the record of the call. -/
lemma keeps_findOne (hrecord : Keeps R (attempt (record (.findOne t f p)))) :
    Keeps R (attempt (t.findOne f p)) := by
  unfold Target.findOne
  refine keeps_attempt_bind hrecord fun _ => ?_
  exact keeps_attempt_bind keeps_attempt_get fun _ => keeps_attempt_ofStore _

/-- A read of several documents changes nothing behind the record of the call. -/
lemma keeps_find (hrecord : Keeps R (attempt (record (.find t f p)))) :
    Keeps R (attempt (t.find f p)) := by
  unfold Target.find
  refine keeps_attempt_bind hrecord fun _ => ?_
  exact keeps_attempt_bind keeps_attempt_get fun _ => keeps_attempt_ofStore _

/-- After its look-up a scan only makes calls on the cursor, and closes it in any case. -/
lemma rel_exec_scan
    (hcursor : ∀ call : Call, call.isCursor = true → Keeps R (attempt (record call)))
    (t : Target) (f : Filter) (p : Option Projection) (count : ℤ) (w : World) :
    R (exec (t.find f p) w).2 (exec (t.scan f p count) w).2 := by
  unfold Target.scan
  rw [exec_bind]
  cases exec (t.find f p) w with
  | mk r w₁ =>
    cases r with
    | error _ => exact refl w₁
    | ok found =>
      refine keeps_attempt_bind (hcursor _ rfl) (fun _ => ?_) w₁
      refine keeps_attempt_bind (hcursor _ rfl) fun _ => ?_
      refine keeps_attempt_bind (keeps_attempt_outcome (hcursor _ rfl)) fun iteration => ?_
      refine keeps_attempt_bind (hcursor _ rfl) fun _ => ?_
      cases iteration with
      | ok _ => exact keeps_attempt_pure _
      | error _ => exact keeps_attempt_throw _

/-- A scan is a look-up with calls on its cursor. -/
lemma keeps_scan (hrecord : Keeps R (attempt (record (.find t f p))))
    (hcursor : ∀ call : Call, call.isCursor = true → Keeps R (attempt (record call)))
    (count : ℤ) : Keeps R (attempt (t.scan f p count)) :=
  fun w => IsTrans.trans _ _ _ (keeps_find hrecord w) (rel_exec_scan hcursor t f p count w)

/-- An update replaces the collection, even by one that is the same. -/
lemma keeps_updateOne (hrecord : Keeps R (attempt (record (.updateOne t f changes))))
    (hput : ∀ x, Keeps R (attempt (t.put x))) : Keeps R (attempt (t.updateOne f changes)) := by
  unfold Target.updateOne
  refine keeps_attempt_bind hrecord fun _ => ?_
  refine keeps_attempt_bind keeps_attempt_get fun _ => ?_
  refine keeps_attempt_bind (keeps_attempt_ofStore _) fun _ => ?_
  exact keeps_attempt_bind (hput _) fun _ => keeps_attempt_pure _

/-- A deletion replaces the collection by what is left of it. -/
lemma keeps_deleteMany (hrecord : Keeps R (attempt (record (.deleteMany t f))))
    (hput : ∀ x, Keeps R (attempt (t.put x))) : Keeps R (attempt (t.deleteMany f)) := by
  unfold Target.deleteMany
  refine keeps_attempt_bind hrecord fun _ => ?_
  refine keeps_attempt_bind keeps_attempt_get fun _ => ?_
  exact keeps_attempt_bind (keeps_attempt_ofStore _) hput

/-- Counting documents changes nothing behind the record of the call. -/
lemma keeps_countDocuments (hrecord : Keeps R (attempt (record (.countDocuments t)))) :
    Keeps R (attempt t.countDocuments) := by
  unfold Target.countDocuments
  refine keeps_attempt_bind hrecord fun _ => ?_
  exact keeps_attempt_bind keeps_attempt_get fun _ => keeps_attempt_pure _

end Target

end Calls

/-! ## Between calls -/

/-- A preorder on worlds that does not notice what is logged, nor which identifiers are taken. -/
class QuietOrder (R : World → World → Prop) : Prop extends IsPreorder World R where
  of_quiet : ∀ {w w' : World}, w'.calls = w.calls → w'.cluster = w.cluster →
    w'.faults = w.faults → w'.draws = w.draws → w'.markers = w.markers → R w w'

instance (priority := low) [ConnectionOrder R] : QuietOrder R where
  of_quiet hc hcluster hf hd hm :=
    ConnectionOrder.of_silent hc (congrArg Cluster.connections hcluster) hf hd hm

/-- A preorder on worlds that does not notice what is drawn either, nor which update markers are
taken. -/
class CallOrder (R : World → World → Prop) : Prop extends IsPreorder World R where
  of_same : ∀ {w w' : World}, w'.calls = w.calls → w'.cluster = w.cluster →
    w'.faults = w.faults → R w w'

instance (priority := low) [CallOrder R] : QuietOrder R where
  of_quiet hc hcluster hf _ _ := CallOrder.of_same hc hcluster hf

section Quiet

variable {α : Type} [QuietOrder R]

lemma keeps_log (level : Log.Level) (source text : String) : Keeps R (log level source text) :=
  fun _ => QuietOrder.of_quiet rfl rfl rfl rfl rfl

lemma keeps_logAll (entries : List Log.Entry) : Keeps R (logAll entries) :=
  fun _ => QuietOrder.of_quiet rfl rfl rfl rfl rfl

lemma keeps_nextIdentifier : Keeps R (attempt nextIdentifier) :=
  fun _ => QuietOrder.of_quiet rfl rfl rfl rfl rfl

/-- The run is ended after it has been logged why. -/
lemma keeps_fatal (heading : String) (inner : Option String) :
    Keeps R (attempt (fatal heading inner : Action α)) :=
  keeps_attempt_bind (keeps_attempt_liftM (keeps_log _ _ _)) fun _ => keeps_attempt_throw _

/-- A failure is told after it has been logged. -/
lemma keeps_failed (text : String) (e : Failure) :
    Keeps R (Context.failed text e : StateM World (Outcome α)) :=
  keeps_bind (keeps_log _ _ _) fun _ => keeps_pure _

/-- A complaint is told after it has been logged. -/
lemma keeps_complained (text : String) :
    Keeps R (Context.complained text : StateM World (Outcome α)) :=
  keeps_bind (keeps_log _ _ _) fun _ => keeps_pure _

/-- A row is verified without a call. -/
lemma keeps_verify (v : RowVerifier) (key : String) (cells : Mapping Cell) :
    Keeps R (v.verify key cells) := by
  unfold RowVerifier.verify
  split
  · exact keeps_pure _
  · split
    · exact keeps_pure _
    · exact keeps_bind (keeps_logAll _) fun _ => keeps_pure _

/-- Settings are resolved from a bag without a call. -/
lemma keeps_resolve (bag : Bag) : Keeps R (attempt (Context.resolve bag)) := by
  unfold Context.resolve
  dsimp only
  refine keeps_attempt_bind (keeps_attempt_liftM (keeps_logAll _)) fun _ => ?_
  split
  · exact keeps_attempt_pure _
  · exact keeps_attempt_throw _

end Quiet

section Drawing

variable [CallOrder R]

lemma keeps_nextMarker : Keeps R (attempt nextMarker) :=
  fun _ => CallOrder.of_same rfl rfl rfl

/-- The preparation of a payload draws random numbers and makes no call. -/
lemma keeps_prepareField (c : Context) (field : String) (data : Bytes) :
    Keeps R (attempt (c.prepareField field data)) := by
  unfold Context.prepareField Action.prepare
  refine keeps_attempt_bind keeps_attempt_get fun w => ?_
  dsimp only
  refine keeps_attempt_bind (fun _ => CallOrder.of_same rfl rfl rfl) fun _ => ?_
  split
  · exact keeps_attempt_pure _
  · exact keeps_attempt_throw _

/-- The payloads of a record are prepared one after the other. -/
lemma keeps_prepareFields (c : Context) (excluded : String → Bool) (doc : Document)
    (values : List (String × Bytes)) :
    Keeps R (attempt (c.prepareFields excluded doc values)) := by
  induction values generalizing doc with
  | nil => exact keeps_attempt_pure doc
  | cons pair rest ih =>
    obtain ⟨field, data⟩ := pair
    unfold Context.prepareFields
    split
    · exact ih doc
    · exact keeps_attempt_bind (keeps_prepareField c field data) fun v => ih (doc.set field v)

/-- A document is put together without a call. -/
lemma keeps_document (c : Context) (key : String) (values : Mapping Bytes) :
    Keeps R (attempt (c.document key values)) :=
  keeps_attempt_bind (keeps_prepareFields _ _ _ _) fun _ => keeps_attempt_pure _

end Drawing

/-! ## The set-up of the encryption -/

section SetUp

variable [QuietOrder R]

/-- An encryptor looks its key vault up once it is recorded. -/
lemma Encryptor.keeps_create {client : Client} {keyVault : String} {standardIds : Bool}
    (hrecord : Keeps R (attempt (record (.openEncryption keyVault keyProviders standardIds))))
    (huse : ∀ database name, Keeps R (attempt (client.use database name))) :
    Keeps R (attempt (Encryptor.create client keyVault standardIds)) :=
  keeps_attempt_bind hrecord fun _ =>
    keeps_attempt_bind (huse _ _) fun _ => keeps_attempt_pure _

/-- A data key takes an identifier before it is stored. -/
lemma Encryptor.keeps_createKey {e : Encryptor} {provider : String}
    (hrecord : Keeps R (attempt (record (.createKey provider))))
    (hinsert : ∀ doc, Keeps R (attempt (e.vault.insertOne doc))) :
    Keeps R (attempt (e.createKey provider)) := by
  unfold Encryptor.createKey
  refine keeps_attempt_bind hrecord fun _ => ?_
  refine keeps_attempt_bind keeps_nextIdentifier fun _ => ?_
  exact keeps_attempt_bind (hinsert _) fun _ => keeps_attempt_pure _

namespace KeyVault

variable {v : KeyVault}

/-- A data key is looked for, and created if there is none. -/
lemma keeps_findOrCreate (hfind : Keeps R (attempt (v.keys.findOne [] none)))
    (hcreate : Keeps R (attempt (v.encryptor.createKey localProvider))) :
    Keeps R (attempt v.findOrCreate) := by
  unfold KeyVault.findOrCreate
  refine keeps_attempt_bind hfind fun found => ?_
  cases found with
  | none => exact keeps_attempt_bind hcreate fun _ => keeps_attempt_pure _
  | some doc =>
    dsimp only
    split
    · exact keeps_attempt_pure _
    · exact keeps_attempt_throw _

/-- A data key that is known already is not looked for again. -/
lemma keeps_getOrCreate (h : Keeps R (attempt v.findOrCreate)) : Keeps R v.getOrCreate := by
  unfold KeyVault.getOrCreate
  split
  · exact keeps_pure _
  · refine keeps_bind h fun found => ?_
    split
    · exact keeps_pure _
    · dsimp only
      split
      · exact keeps_pure _
      · split
        · exact keeps_bind (keeps_log _ _ _) fun _ => keeps_pure _
        · exact keeps_bind (keeps_log _ _ _) fun _ => keeps_pure _

end KeyVault

namespace Encryption

variable {s : Settings} {client : Client} {key : KeyId}

/-- What prepares the collection of some settings, once the data key is known. -/
def prepareCollection (s : Settings) (client : Client) (key : KeyId) : Action Document :=
  if s.encryptionMode == .queryable then setUpQueryable s client key
  else setUpLegacy s client key

/-- Where the creation is refused, the documents of the collection are counted. -/
lemma keeps_createValidated
    (hcreate : Keeps R (attempt (client.createCollection s.database s.collection
      [("validator", .document (Schema.remoteSchema key s.encryptedFields s.encoding))])))
    (huse : Keeps R (attempt (client.use s.database s.collection)))
    (hcount : ∀ t : Target, Keeps R (attempt t.countDocuments)) :
    Keeps R (attempt (createValidated s client key)) := by
  unfold createValidated
  refine keeps_attempt_bind (keeps_attempt_outcome hcreate) fun made => ?_
  cases made with
  | ok _ => exact keeps_attempt_pure _
  | error e =>
    dsimp only
    split
    · refine keeps_attempt_bind huse fun target => ?_
      refine keeps_attempt_bind (hcount target) fun count => ?_
      split
      · exact keeps_fatal _ _
      · exact keeps_attempt_liftM (keeps_log _ _ _)
    · exact keeps_attempt_throw _

/-- Legacy encryption creates the collection at most. -/
lemma keeps_setUpLegacy
    (hcreate : Keeps R (attempt (client.createCollection s.database s.collection
      [("validator", .document (Schema.remoteSchema key s.encryptedFields s.encoding))])))
    (huse : Keeps R (attempt (client.use s.database s.collection)))
    (hcount : ∀ t : Target, Keeps R (attempt t.countDocuments)) :
    Keeps R (attempt (setUpLegacy s client key)) := by
  have hlog (text : String) : Keeps R (attempt (liftM (log .info logSource text) : Action Unit)) :=
    keeps_attempt_liftM (keeps_log _ _ _)
  unfold setUpLegacy
  dsimp only
  split
  · exact keeps_attempt_bind (keeps_createValidated hcreate huse hcount) fun _ =>
      keeps_attempt_bind (hlog _) fun _ => keeps_attempt_pure _
  · exact keeps_attempt_bind (hlog _) fun _ => keeps_attempt_pure _

/-- A collection is sharded by two commands. -/
lemma keeps_shard
    (henable : Keeps R (attempt (client.command "enableSharding" [s.database] [])))
    (hcollection : Keeps R (attempt (client.command "shardCollection" [s.dataNamespace]
      [("key", .document [(idField, .text "hashed")])]))) :
    Keeps R (attempt (shard s client)) := by
  unfold shard
  refine keeps_attempt_bind henable fun _ => ?_
  refine keeps_attempt_bind hcollection fun _ => ?_
  exact keeps_attempt_liftM (keeps_log _ _ _)

/-- Queryable encryption creates the collection and shards it at most, unless it exists. -/
lemma keeps_setUpQueryable (hlist : Keeps R (attempt (client.listCollections s.database)))
    (hcreate : Keeps R (attempt (client.createCollection s.database s.collection
      [("encryptedFields", .document (Schema.queryableFields key s.encryptedFields s.encoding
        s.contentionFactors))])))
    (hshard : Keeps R (attempt (shard s client))) :
    Keeps R (attempt (setUpQueryable s client key)) := by
  have hlog (level : Log.Level) (text : String) : Keeps R (attempt
      (liftM (log level logSource text) : Action Unit)) :=
    keeps_attempt_liftM (keeps_log _ _ _)
  have hqueryable : Keeps R (attempt (createQueryable s client key)) := by
    unfold createQueryable
    dsimp only
    refine keeps_attempt_bind hcreate fun _ => keeps_attempt_bind (hlog _ _) fun _ => ?_
    split
    · exact keeps_attempt_bind hshard fun _ => keeps_attempt_pure _
    · exact keeps_attempt_pure _
  unfold setUpQueryable
  refine keeps_attempt_bind hlist fun listed => ?_
  split
  · exact keeps_attempt_bind (hlog _ _) fun _ => keeps_attempt_pure _
  · exact keeps_attempt_bind hqueryable fun _ => keeps_attempt_pure _

/-- The collection is prepared for one of the two modes. -/
lemma keeps_prepareCollection (huse : Keeps R (attempt (client.use s.database s.collection)))
    (hcount : ∀ t : Target, Keeps R (attempt t.countDocuments))
    (hlist : Keeps R (attempt (client.listCollections s.database)))
    (hlegacy : Keeps R (attempt (client.createCollection s.database s.collection
      [("validator", .document (Schema.remoteSchema key s.encryptedFields s.encoding))])))
    (hqueryable : Keeps R (attempt (client.createCollection s.database s.collection
      [("encryptedFields", .document (Schema.queryableFields key s.encryptedFields s.encoding
        s.contentionFactors))])))
    (hshard : Keeps R (attempt (shard s client))) :
    Keeps R (attempt (prepareCollection s client key)) := by
  unfold prepareCollection
  split
  · exact keeps_setUpQueryable hlist hqueryable hshard
  · exact keeps_setUpLegacy hlegacy huse hcount

/-- The work of the set-up with its client takes the data key and prepares the collection. -/
lemma keeps_setUpWith {encryptor : Encryptor}
    (huse : Keeps R (attempt (client.use s.database Settings.keyVaultCollection)))
    (hfind : ∀ keys : Target, Keeps R (attempt (keys.findOne [] none)))
    (hkey : Keeps R (attempt (encryptor.createKey localProvider)))
    (hprepare : ∀ key, Keeps R (attempt (prepareCollection s client key))) :
    Keeps R (attempt (setUpWith s client encryptor)) := by
  unfold setUpWith
  refine keeps_attempt_bind huse fun keys => ?_
  refine keeps_attempt_bind (keeps_attempt_lift (KeyVault.keeps_getOrCreate
    (KeyVault.keeps_findOrCreate (hfind _) hkey))) fun found => ?_
  obtain ⟨key?, v⟩ := found
  cases key? with
  | error e => exact keeps_attempt_throw _
  | ok key => exact hprepare key

end Encryption

end SetUp

end LoadBinding
