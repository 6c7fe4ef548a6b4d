import LoadBinding.Proofs.DataKey
import LoadBinding.Proofs.SettingUp

/-!
# Legacy encryption with a schema in the store

When legacy encryption is set up and the store is to enforce the schema too, the set-up creates the
collection with the schema as its validator.  Whether that succeeds decides what becomes of the
set-up, and of the run: a collection that is created is as good as one that is refused but already
holds documents, a refusal without documents ends the run, and any other failure is passed on.

`World.creationFailure?` says how the creation would fail in a world, and `creationVerdict` what the
set-up makes of it.  What happens before, in the key vault, leaves the collection alone
(`World.LeavesAlone`), so the verdict can be read off the world in which the set-up begins.
-/

namespace LoadBinding

open LoadBinding.Action World

/-! ## Another collection -/

/-- The collections that a database lists are the same after another one is replaced. -/
lemma Cluster.mem_listed_setCollection {c : Cluster} {database database' name name' : String}
    (hother : (database', name') ≠ (database, name)) (x : Collection) :
    name ∈ ((c.setCollection database' name' x).database database).listed ↔
      name ∈ (c.database database).listed := by
  unfold setCollection
  dsimp only
  rw [database_setDatabase]
  split
  · rename_i hdatabase
    subst hdatabase
    have hname : name ≠ name' := fun heq => hother (by rw [heq])
    rw [Database.mem_listed, Database.mem_listed]
    constructor
    · rintro ⟨y, hy, hlisted⟩
      refine ⟨y, (Mapping.mem_set hy).resolve_left ?_, hlisted⟩
      rintro heq
      exact hname (Prod.mk.inj heq).1
    · rintro ⟨y, hy, hlisted⟩
      exact ⟨y, Mapping.mem_set_of_ne hy hname, hlisted⟩
  · rfl

namespace World

/-- Between two worlds nothing has happened to a collection, nor to what decides whether it can be
created. -/
structure LeavesAlone (database name : String) (w w' : World) : Prop where
  faults : w'.faults = w.faults
  collection : w'.cluster.collection database name = w.cluster.collection database name
  listed : name ∈ (w'.cluster.database database).listed ↔
    name ∈ (w.cluster.database database).listed

variable {database name : String} {w w' w'' : World}

lemma LeavesAlone.trans (h : LeavesAlone database name w w')
    (h' : LeavesAlone database name w' w'') : LeavesAlone database name w w'' :=
  ⟨h'.faults.trans h.faults, h'.collection.trans h.collection, h'.listed.trans h.listed⟩

/-- A change of the world that leaves the databases alone. -/
lemma LeavesAlone.of_databases (hf : w'.faults = w.faults)
    (hd : w'.cluster.databases = w.cluster.databases) : LeavesAlone database name w w' := by
  refine ⟨hf, ?_, ?_⟩
  · simp only [Cluster.collection, Cluster.database, hd]
  · simp only [Cluster.database, hd]

/-- Another collection is replaced. -/
lemma leavesAlone_put {t : Target} (hother : (t.database, t.collection) ≠ (database, name))
    (x : Collection) : LeavesAlone database name w (w.put t x) := by
  refine ⟨rfl, ?_, Cluster.mem_listed_setCollection hother x⟩
  have hread := w.cluster.collection_setCollection t.database t.collection x database name
  rw [if_neg] at hread
  · exact hread
  · rintro ⟨hdatabase, hname⟩
    exact hother (by rw [hdatabase, hname])

/-- Another collection is looked up. -/
lemma leavesAlone_lookedUp {t : Target} (hother : (t.database, t.collection) ≠ (database, name)) :
    LeavesAlone database name w (w.lookedUp t) := by
  refine ⟨rfl, by simp [lookedUp], ?_⟩
  refine (Cluster.mem_listed_setCollection hother _).trans ?_
  rw [Cluster.database_useDatabase]

/-- How the creation of a collection fails in a world, if it does: it shows a fault, or finds the
collection listed. -/
def creationFailure? (w : World) (database name : String) : Option Failure :=
  let listed := (w.cluster.database database).listed.contains name
  ((w.faults.get? (creationAddress name)).map Failure.fault).or
    (if listed then some (.store (.collectionExists name)) else none)

lemma LeavesAlone.creationFailure?_eq (h : LeavesAlone database name w w') :
    w'.creationFailure? database name = w.creationFailure? database name := by
  have hlisted : (w'.cluster.database database).listed.contains name =
      (w.cluster.database database).listed.contains name := by
    simpa using h.listed
  unfold creationFailure?
  rw [h.faults, hlisted]

end World

section Creating

variable (w : World)

/-- A collection is created unless there is a reason why it cannot be. -/
lemma World.fst_exec_createCollection (client : Client) (database name : String)
    (options : Document) : (exec (client.createCollection database name options) w).1 =
      (w.creationFailure? database name).elim (.ok ()) .error := by
  have huse : exec (client.useDatabase database) w = (.ok (), w.inDatabase database) :=
    exec_modifyCluster _ _
  unfold creationFailure? Client.createCollection
  rw [exec_bind_of_ok huse]
  cases hf : w.faults.get? (creationAddress name) with
  | some f =>
    have hrecord : exec (record (.createCollection database name options))
        (w.inDatabase database) = (.error (.fault f), _) := exec_record_of_fault hf
    rw [exec_bind_of_error hrecord]
    rfl
  | none =>
    have hrecord : exec (record (.createCollection database name options))
        (w.inDatabase database) = (.ok (), _) := exec_record_of_no_fault hf
    rw [exec_bind_of_ok hrecord, exec_bind_of_ok (exec_get _), World.noted_cluster]
    unfold inDatabase Cluster.createCollection
    dsimp only
    rw [Cluster.database_useDatabase]
    cases (w.cluster.database database).listed.contains name <;> rfl

variable {w}

/-- A collection that cannot be created is left as it is. -/
lemma exec_createCollection_of_failure {database name : String} {e : Failure}
    (h : w.creationFailure? database name = some e) (client : Client) (options : Document) :
    exec (client.createCollection database name options) w =
      (.error e, (w.inDatabase database).noted (.createCollection database name options)) := by
  have hresult := w.fst_exec_createCollection client database name options
  rw [h] at hresult
  rcases exec_createCollection client database name options w with ⟨e', he⟩ | ⟨_, -, hok⟩
  · rw [he] at hresult
    cases hresult
    exact he
  · rw [hok] at hresult
    cases hresult

/-- A collection that can be created is given its options, and keeps its documents. -/
lemma exec_createCollection_of_success {database name : String}
    (h : w.creationFailure? database name = none) (client : Client) (options : Document) :
    ∃ cluster, cluster.collection database name =
        { w.cluster.collection database name with options := options } ∧
      exec (client.createCollection database name options) w =
        (.ok (), { (w.inDatabase database).noted (.createCollection database name options) with
          cluster := cluster }) := by
  have hresult := w.fst_exec_createCollection client database name options
  rw [h] at hresult
  rcases exec_createCollection client database name options w with
    ⟨e, he⟩ | ⟨cluster, hcreate, hok⟩
  · rw [he] at hresult
    cases hresult
  · refine ⟨cluster, ?_, hok⟩
    rw [Cluster.collection_of_createCollection hcreate, if_pos ⟨rfl, rfl⟩,
      Cluster.collection_useDatabase]

end Creating

/-! ## The data key -/

/-- A document of a key vault from which a data key can be taken: its identifier is universally
unique, and so has sixteen bytes. -/
def IsDataKey (doc : Document) : Prop :=
  ∃ key : KeyId, KeyId.ofValue? (Collection.keyOf doc) = some key ∧ key.bytes.length = 16

section DataKey

variable {w : World} {database name : String}

/-- The key vault is another collection. -/
lemma vaultTarget_ne (hname : name ≠ Settings.keyVaultCollection) (client : Client)
    (database : String) : ((vaultTarget client database).database,
      (vaultTarget client database).collection) ≠ (database, name) := by
  rintro heq
  exact hname (Prod.mk.inj heq).2.symm

/-- A data key is created in a key vault that is empty. -/
lemma exec_createKey_of_isCalm (hw : w.IsCalm) (client : Client) (database : String)
    (hempty : w.rows database Settings.keyVaultCollection = [])
    (hname : name ≠ Settings.keyVaultCollection) :
    ∃ key w', exec (Encryptor.createKey ⟨vaultTarget client database⟩ localProvider) w =
        (.ok key, w') ∧ key.bytes.length = 16 ∧ LeavesAlone database name w w' := by
  let w₁ : World :=
    { w.noted (.createKey localProvider) with identifiers := w.identifiers + 1 }
  let key : KeyId := ⟨(List.range 16).map fun i => UInt8.ofNat (w₁.identifiers / 256 ^ (15 - i))⟩
  let t := vaultTarget client database
  have hidentifier : exec nextIdentifier (w.noted (.createKey localProvider)) =
      (.ok key.bytes, w₁) := rfl
  have hinsert := insert_row (x := t.content w₁.cluster) hempty key
  have hcalm : w₁.IsCalm := hw.of_faults rfl
  refine ⟨key, (w₁.noted (.insertOne t key.row.doc)).put t
    { t.content w₁.cluster with rows := [key.row] }, ?_, by simp [key], ?_⟩
  · rw [createKey_eq, exec_bind_of_ok (exec_record_of_isCalm hw rfl), exec_bind_of_ok hidentifier]
    exact exec_bind_of_ok (exec_insertOne_of_isCalm hcalm hinsert) _
  · have hnoted : LeavesAlone database name w (w₁.noted (.insertOne t key.row.doc)) :=
      .of_databases rfl rfl
    exact hnoted.trans (leavesAlone_put (vaultTarget_ne hname client database) _)

/-- A data key is found in a key vault that holds only data keys, or created in it. -/
lemma exec_findOrCreate_of_isCalm (hw : w.IsCalm) (client : Client)
    (hkeys : ∀ row ∈ w.rows database Settings.keyVaultCollection, IsDataKey row.doc)
    (hname : name ≠ Settings.keyVaultCollection) {v : KeyVault}
    (hv : v.keys = vaultTarget client database)
    (hencryptor : v.encryptor = ⟨vaultTarget client database⟩) :
    ∃ key isNew w', exec v.findOrCreate w = (.ok (key, isNew), w') ∧ key.bytes.length = 16 ∧
      LeavesAlone database name w w' := by
  have hfind := exec_findOne_of_isCalm hw (vaultTarget client database)
  have hrows : ((vaultTarget client database).content w.cluster).rows =
      w.rows database Settings.keyVaultCollection := rfl
  have hnoted : LeavesAlone database name w
      (w.noted (.findOne (vaultTarget client database) [] none)) := .of_databases rfl rfl
  rw [hrows] at hfind
  unfold KeyVault.findOrCreate
  rw [hv, hencryptor, exec_bind_of_ok hfind]
  cases hvault : w.rows database Settings.keyVaultCollection with
  | nil =>
    have hcalm : (w.noted (.findOne (vaultTarget client database) [] none)).IsCalm :=
      hw.of_faults rfl
    obtain ⟨key, w', hcreate, hlength, halone⟩ :=
      exec_createKey_of_isCalm hcalm client database hvault hname
    exact ⟨key, true, w', exec_bind_of_ok hcreate _, hlength, hnoted.trans halone⟩
  | cons row rest =>
    obtain ⟨key, hkey, hlength⟩ := hkeys row (hvault ▸ List.mem_cons_self)
    refine ⟨key, false, _, ?_, hlength, hnoted⟩
    dsimp only [List.head?_cons, Option.map_some]
    rw [hkey]
    rfl

/-- The data key that the set-up is given. -/
lemma run_getOrCreate_of_isCalm (hw : w.IsCalm) (client : Client)
    (hkeys : ∀ row ∈ w.rows database Settings.keyVaultCollection, IsDataKey row.doc)
    (hname : name ≠ Settings.keyVaultCollection) {v : KeyVault} (hknown : v.known = none)
    (hv : v.keys = vaultTarget client database)
    (hencryptor : v.encryptor = ⟨vaultTarget client database⟩) :
    ∃ key v' w', v.getOrCreate.run w = ((.ok key, v'), w') ∧ LeavesAlone database name w w' := by
  obtain ⟨key, isNew, w', hfind, hlength, halone⟩ :=
    exec_findOrCreate_of_isCalm hw client hkeys hname hv hencryptor
  unfold KeyVault.getOrCreate
  rw [hknown]
  dsimp only
  rw [run_bind, run_attempt, hfind]
  dsimp only
  rw [hlength, if_neg (by decide)]
  cases isNew with
  | true => exact ⟨key, _, _, rfl, halone.trans (.of_databases rfl rfl)⟩
  | false => exact ⟨key, _, _, rfl, halone.trans (.of_databases rfl rfl)⟩

end DataKey

/-! ## The collection -/

/-- What becomes of the creation of a collection with documents, for a failure that it shows: only a
refusal is put up with, and only if there are documents. -/
def creationVerdict (failure? : Option Failure) (rows : List Row) : Except Failure Unit :=
  failure?.elim (.ok ()) fun e =>
    if e.isCreationRefusal then if rows.isEmpty then .error (.exit 1) else .ok () else .error e

section Verdict

variable {failure? : Option Failure} {rows : List Row}

lemma creationVerdict_eq_ok :
    creationVerdict failure? rows = .ok () ↔
      ∀ e ∈ failure?, e.isCreationRefusal = true ∧ rows ≠ [] := by
  cases failure? with
  | none => simp [creationVerdict]
  | some e =>
    cases hrefusal : e.isCreationRefusal <;> cases rows <;> simp [creationVerdict, hrefusal]

lemma creationVerdict_eq_exit (h : ∀ e ∈ failure?, e ≠ .exit 1) :
    creationVerdict failure? rows = .error (.exit 1) ↔
      ∃ e ∈ failure?, e.isCreationRefusal = true ∧ rows = [] := by
  cases failure? with
  | none => simp [creationVerdict]
  | some e =>
    have hexit : e ≠ .exit 1 := h e rfl
    cases hrefusal : e.isCreationRefusal <;> cases rows <;> simp [creationVerdict, hrefusal, hexit]

lemma creationVerdict_eq_error {e : Failure} (he : e ∈ failure?)
    (hrefusal : e.isCreationRefusal = false) : creationVerdict failure? rows = .error e := by
  obtain rfl := Option.mem_def.mp he
  simp [creationVerdict, hrefusal]

/-- The creation of a collection does not fail by ending the run. -/
lemma ne_exit_of_mem_creationFailure? {w : World} {database name : String} {e : Failure}
    (h : e ∈ w.creationFailure? database name) (code : ℕ) : e ≠ .exit code := by
  rintro rfl
  simp [creationFailure?] at h

end Verdict

namespace Encryption

variable {s : Settings} {w : World}

/-- The options of a collection whose documents are validated against a schema. -/
def validatorOptions (schema : Document) : Document :=
  [("validator", .document [("$jsonSchema", .document schema)])]

/-- The options of a client that encrypts the collection of some settings under a schema. -/
def schemaOptions (s : Settings) (schema : Document) : Document :=
  options s "schema_map" (.document [(s.dataNamespace, .document schema)])

/-- The schema of legacy encryption with some key. -/
def schemaOf (s : Settings) (key : KeyId) : Document :=
  Schema.legacySchema key s.encryptedFields s.encoding

/-- Creating the collection with its validator either gives it the validator or leaves it as it
is. -/
lemma createValidated_of_isCalm (hw : w.IsCalm) (s : Settings) (client : Client) (key : KeyId) :
    (exec (createValidated s client key) w).1 =
        creationVerdict (w.creationFailure? s.database s.collection)
          (w.rows s.database s.collection) ∧
      (exec (createValidated s client key) w).2.cluster.collection s.database s.collection =
        if (w.creationFailure? s.database s.collection).isNone then
          { w.cluster.collection s.database s.collection with
            options := validatorOptions (schemaOf s key) }
        else w.cluster.collection s.database s.collection := by
  have hoptions : [("validator", Value.document (Schema.remoteSchema key s.encryptedFields
      s.encoding))] = validatorOptions (schemaOf s key) := rfl
  unfold createValidated
  dsimp only
  rw [hoptions, exec_bind_of_ok (exec_outcome _ w)]
  cases hfailure : w.creationFailure? s.database s.collection with
  | none =>
    obtain ⟨cluster, hcollection, hcreate⟩ :=
      exec_createCollection_of_success hfailure client (validatorOptions (schemaOf s key))
    rw [hcreate]
    exact ⟨rfl, hcollection⟩
  | some e =>
    rw [exec_createCollection_of_failure hfailure]
    dsimp only [creationVerdict, Option.elim_some, Option.isNone_some]
    set w₁ := (w.inDatabase s.database).noted (.createCollection s.database s.collection
      (validatorOptions (schemaOf s key)))
    have hsame : w₁.cluster.collection s.database s.collection =
        w.cluster.collection s.database s.collection := Cluster.collection_useDatabase ..
    cases e.isCreationRefusal with
    | false => exact ⟨rfl, hsame⟩
    | true =>
      have hcalm : w₁.IsCalm := hw.of_faults rfl
      have hcalm' : (w₁.lookedUp ⟨client, s.database, s.collection⟩).IsCalm := hw.of_faults rfl
      rw [if_pos rfl, if_pos rfl, exec_bind_of_ok (exec_use_of_isCalm hcalm ..),
        exec_bind_of_ok (exec_countDocuments_of_isCalm hcalm' _), rows_lookedUp]
      have hrows : w₁.rows s.database s.collection = w.rows s.database s.collection :=
        congrArg Collection.rows hsame
      have hlookedUp : (w₁.lookedUp ⟨client, s.database, s.collection⟩).cluster.collection
          s.database s.collection = w.cluster.collection s.database s.collection := by
        rw [← hsame]
        simp [lookedUp]
      rw [hrows]
      cases w.rows s.database s.collection with
      | nil => exact ⟨rfl, hlookedUp⟩
      | cons row rest => exact ⟨rfl, hlookedUp⟩

/-- With its schema in the store, legacy encryption is set up unless the creation of the collection
is a reason not to. -/
lemma setUpLegacy_of_isCalm (hw : w.IsCalm) (hremote : s.remoteSchema = true) (client : Client)
    (key : KeyId) :
    (exec (setUpLegacy s client key) w).1 =
        (creationVerdict (w.creationFailure? s.database s.collection)
          (w.rows s.database s.collection)).map (fun _ => schemaOptions s (schemaOf s key)) ∧
      (exec (setUpLegacy s client key) w).2.cluster.collection s.database s.collection =
        if (w.creationFailure? s.database s.collection).isNone then
          { w.cluster.collection s.database s.collection with
            options := validatorOptions (schemaOf s key) }
        else w.cluster.collection s.database s.collection := by
  obtain ⟨hresult, hcollection⟩ := createValidated_of_isCalm hw s client key
  unfold setUpLegacy
  rw [hremote]
  dsimp only
  rw [if_pos rfl, exec_bind]
  cases hvalidated : exec (createValidated s client key) w with
  | mk r w' =>
    rw [hvalidated] at hresult hcollection
    rw [← hresult, ← hcollection]
    cases r with
    | ok _ => exact ⟨rfl, rfl⟩
    | error e => exact ⟨rfl, rfl⟩

/-- With its client, the set-up of legacy encryption gets a data key and prepares the collection,
which it has left alone so far. -/
lemma exec_setUpWith_of_isCalm (hw : w.IsCalm) (hmode : s.encryptionMode = .legacy)
    (hcollection : s.collection ≠ Settings.keyVaultCollection)
    (hkeys : ∀ row ∈ w.rows s.database Settings.keyVaultCollection, IsDataKey row.doc)
    (client : Client) :
    ∃ key w₁, World.LeavesAlone s.database s.collection w w₁ ∧
      exec (setUpWith s client ⟨vaultTarget client s.database⟩) w =
        exec (setUpLegacy s client key) w₁ := by
  have hother := vaultTarget_ne hcollection client s.database
  have hused : (w.lookedUp (vaultTarget client s.database)).IsCalm := hw.of_faults rfl
  have hkeys' : ∀ row ∈ (w.lookedUp (vaultTarget client s.database)).rows s.database
      Settings.keyVaultCollection, IsDataKey row.doc := by
    rwa [rows_lookedUp]
  obtain ⟨key, v, w₁, hrun, halone⟩ := run_getOrCreate_of_isCalm hused client hkeys' hcollection
    (v := keyVault s client ⟨vaultTarget client s.database⟩) rfl rfl rfl
  refine ⟨key, w₁, (leavesAlone_lookedUp hother).trans halone, ?_⟩
  have hlift : exec (ExceptT.lift
      (keyVault s client ⟨vaultTarget client s.database⟩).getOrCreate)
        (w.lookedUp (vaultTarget client s.database)) = (.ok (.ok key, v), w₁) := by
    rw [← run_attempt]
    exact congrArg (fun pair => (Except.ok pair.1, pair.2)) hrun
  unfold setUpWith
  rw [exec_bind_of_ok (exec_use_of_isCalm hw _ _ _)]
  unfold keyVault at hlift
  dsimp only
  rw [exec_bind_of_ok hlift]
  dsimp only
  rw [hmode]
  rfl

section SetUp

variable (hmode : s.encryptionMode = .legacy) (hremote : s.remoteSchema = true)
  (hcollection : s.collection ≠ Settings.keyVaultCollection) (hpoint : '.' ∉ s.database.toList)
  (hkeys : ∀ row ∈ w.rows s.database Settings.keyVaultCollection, IsDataKey row.doc)

include hmode hremote hcollection hpoint hkeys

/-- The set-up ends with what becomes of the creation of the collection, and with the collection
that this leaves behind. -/
lemma setUp_of_isCalm (hw : w.IsCalm) (url : String) :
    ∃ key, (exec (setUp s url) w).1 =
        (creationVerdict (w.creationFailure? s.database s.collection)
          (w.rows s.database s.collection)).map (fun _ => schemaOptions s (schemaOf s key)) ∧
      (exec (setUp s url) w).2.cluster.collection s.database s.collection =
        if (w.creationFailure? s.database s.collection).isNone then
          { w.cluster.collection s.database s.collection with
            options := validatorOptions (schemaOf s key) }
        else w.cluster.collection s.database s.collection := by
  have henabled : s.encryptionMode.isEnabled = true := by
    rw [hmode]
    rfl
  set client := w.cluster.nextClient (Url.withScheme url)
  have hvault := vault_eq_vaultTarget hpoint client
  have hother : ((vault s client).database, (vault s client).collection) ≠
      (s.database, s.collection) := by
    rw [hvault]
    exact vaultTarget_ne hcollection client s.database
  have hopened : World.LeavesAlone s.database s.collection w (opened s url w) := by
    have hconnected : World.LeavesAlone s.database s.collection w
        ((w.connected (Url.withScheme url) (clientOptions s)).noted
          (.openEncryption s.keyVaultNamespace keyProviders true)) := .of_databases rfl rfl
    exact hconnected.trans (leavesAlone_lookedUp hother)
  have hkeys' : ∀ row ∈ (opened s url w).rows s.database Settings.keyVaultCollection,
      IsDataKey row.doc := by
    unfold opened withEncryptor
    rwa [rows_lookedUp]
  obtain ⟨key, w₁, halone, hwith⟩ :=
    exec_setUpWith_of_isCalm (hw.of_faults hopened.faults) hmode hcollection hkeys' client
  have hready := hopened.trans halone
  have hbefore : w₁.rows s.database s.collection = w.rows s.database s.collection :=
    congrArg Collection.rows hready.collection
  have hlegacy := setUpLegacy_of_isCalm (hw.of_faults hready.faults) hremote client key
  rw [hready.creationFailure?_eq, hbefore, hready.collection, ← hwith, ← hvault] at hlegacy
  rw [exec_setUp_of_isCalm henabled hw url rfl rfl]
  exact ⟨key, hlegacy⟩

end SetUp

/-- What a set-up of legacy encryption does for an endpoint, between two worlds and with some
result, if the store is to enforce the schema too. -/
structure DecidedByCreation (s : Settings) (url : String) (w : World) (r : Except Failure Document)
    (w' : World) : Prop where
  /-- It succeeds if the collection is created, or is refused but holds documents. -/
  returns : (∃ options, r = .ok options) ↔
    ∀ e ∈ w.creationFailure? s.database s.collection,
      e.isCreationRefusal = true ∧ w.rows s.database s.collection ≠ []
  /-- It ends the run if the collection is refused and holds no documents. -/
  exits : r = .error (.exit 1) ↔
    ∃ e ∈ w.creationFailure? s.database s.collection,
      e.isCreationRefusal = true ∧ w.rows s.database s.collection = []
  /-- Any other failure to create the collection is passed on. -/
  fails : ∀ e ∈ w.creationFailure? s.database s.collection,
    e.isCreationRefusal = false → r = .error e
  rows : w'.rows s.database s.collection = w.rows s.database s.collection
  /-- The client is told the same schema as the store, and the store only if the collection is
  created. -/
  schema : ∃ key, (∀ options, r = .ok options → options = schemaOptions s (schemaOf s key)) ∧
    (w'.cluster.collection s.database s.collection).options =
      if (w.creationFailure? s.database s.collection).isNone then
        validatorOptions (schemaOf s key)
      else (w.cluster.collection s.database s.collection).options
  closes : ClosesBoth s url w w'

/-- In a deployment whose key vault holds nothing but data keys and which shows no fault except when
the collection is created, this alone decides what becomes of a set-up of legacy encryption that has
the store enforce the schema.  Its client and its encryptor are closed in any case. -/
theorem setUp_decided_by_creation (hmode : s.encryptionMode = .legacy)
    (hremote : s.remoteSchema = true) (hcollection : s.collection ≠ Settings.keyVaultCollection)
    (hpoint : '.' ∉ s.database.toList)
    (hkeys : ∀ row ∈ w.rows s.database Settings.keyVaultCollection, IsDataKey row.doc)
    (hfaults : ∀ address f, w.faults.get? address = some f →
      address = creationAddress s.collection) (url : String) :
    DecidedByCreation s url w (exec (setUp s url) w).1 (exec (setUp s url) w).2 := by
  have hw : w.IsCalm := isCalm_of_address hfaults
  have henabled : s.encryptionMode.isEnabled = true := by
    rw [hmode]
    rfl
  obtain ⟨key, hresult, hafter⟩ := setUp_of_isCalm hmode hremote hcollection hpoint hkeys hw url
  have hmap {verdict : Except Failure Unit} {options options' : Document}
      (h : verdict.map (fun _ => options) = .ok options') : options' = options := by
    cases verdict <;> cases h
    rfl
  rw [hresult]
  constructor
  · rw [← creationVerdict_eq_ok]
    cases creationVerdict (w.creationFailure? s.database s.collection)
      (w.rows s.database s.collection) <;> simp [Except.map]
  · rw [← creationVerdict_eq_exit fun e he => ne_exit_of_mem_creationFailure? he 1]
    cases creationVerdict (w.creationFailure? s.database s.collection)
      (w.rows s.database s.collection) <;> simp [Except.map]
  · intro e he hrefusal
    rw [creationVerdict_eq_error he hrefusal]
    rfl
  · refine (congrArg Collection.rows hafter).trans ?_
    split <;> rfl
  · refine ⟨key, fun options hoptions => hmap hoptions, ?_⟩
    refine (congrArg Collection.options hafter).trans ?_
    split <;> rfl
  · exact closesBoth_setUp henabled hw url

/-- Settings of legacy encryption with its schema in the store. -/
def remoteSettings : Settings :=
  { useLegacy := true, remoteSchema := true }

/-- A deployment in which the collection holds a document, as it does after a load phase. -/
def loadedWorld : World :=
  { cluster := { databases := [("ycsb",
      { collections := [("usertable", { rows := [⟨.text "1", [(idField, .text "1")]⟩] })] })] } }

/-- An empty deployment that refuses to create the collection. -/
def refusingWorld : World :=
  { faults := [("create_collection:usertable", ⟨.refused, "not authorized"⟩)] }

/-- A collection that holds documents is refused and put up with; where there are none, a refusal
ends the run. -/
theorem setUp_decided_by_creation_loadedAndRefusing :
    (∃ options, (exec (setUp remoteSettings "localhost") loadedWorld).1 = .ok options) ∧
      (exec (setUp remoteSettings "localhost") refusingWorld).1 = .error (.exit 1) := by
  have hpoint : '.' ∉ remoteSettings.database.toList := by decide
  have hempty : loadedWorld.rows remoteSettings.database Settings.keyVaultCollection = [] := rfl
  have hloaded := setUp_decided_by_creation (s := remoteSettings) (w := loadedWorld) rfl rfl
    (by decide) hpoint (by rw [hempty]; exact nofun) nofun "localhost"
  have hfaults : ∀ address f, refusingWorld.faults.get? address = some f →
      address = creationAddress remoteSettings.collection := by
    intro address f hf
    have hmem : (address, f) ∈ refusingWorld.faults := Mapping.mem_of_get? hf
    exact (Prod.mk.inj (List.mem_singleton.mp hmem)).1
  have hrefusing := setUp_decided_by_creation (s := remoteSettings) (w := refusingWorld) rfl rfl
    (by decide) hpoint nofun hfaults "localhost"
  constructor
  · refine hloaded.returns.mpr fun e he => ?_
    obtain rfl : Failure.store (.collectionExists "usertable") = e := Option.some.inj he
    exact ⟨rfl, List.cons_ne_nil _ _⟩
  · exact hrefusing.exits.mpr ⟨_, rfl, rfl, rfl⟩

end Encryption

end LoadBinding
