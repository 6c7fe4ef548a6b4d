import LoadBinding.Proofs.Calls
import LoadBinding.Proofs.Closing

/-!
# Activities that only consult the store

Most of what the set-up of a run asks of the store leaves the data as they are: it connects and
closes clients, looks collections up, lists and counts.  `World.Consults` relates the world before
such an activity to the world after it.  The calls of such an activity are plain: none of them is an
administrative command, none creates a data key, and none hands over the identifier of one.

What is left are the calls that a statement about the set-up is about.  A relation between worlds
that only these calls could break is a `DataOrder`; creating a context keeps it as soon as setting
up the encryption does, and handing the options of the encryption to the first client
(`keeps_create`).
-/

namespace LoadBinding

open LoadBinding.Action World

/-! ## Plain calls -/

namespace Value

/-- The items of a list; any other value is its own only item. -/
def items : Value → List Value
  | .array vs => vs
  | v => [v]

mutual

/-- The identifiers of data keys in a value: what its documents hold under `keyId`, alone or in a
list. -/
def keyIds : Value → List Value
  | .array vs => keyIdsOfItems vs
  | .document fields => keyIdsOfFields fields
  | _ => []

/-- The identifiers of data keys in the items of a list. -/
def keyIdsOfItems : List Value → List Value
  | [] => []
  | v :: vs => keyIds v ++ keyIdsOfItems vs

/-- The identifiers of data keys in the fields of a document. -/
def keyIdsOfFields : List (String × Value) → List Value
  | [] => []
  | (name, v) :: rest => (if name == "keyId" then v.items else keyIds v) ++ keyIdsOfFields rest

end

lemma mem_keyIdsOfItems {vs : List Value} {id : Value} :
    id ∈ keyIdsOfItems vs ↔ ∃ v ∈ vs, id ∈ v.keyIds := by
  induction vs with
  | nil => simp [keyIdsOfItems]
  | cons v rest ih => simp [keyIdsOfItems, ih]

lemma mem_keyIdsOfFields {fields : Document} {id : Value} :
    id ∈ keyIdsOfFields fields ↔
      ∃ field ∈ fields, id ∈ if field.1 == "keyId" then field.2.items else field.2.keyIds := by
  induction fields with
  | nil => simp [keyIdsOfFields]
  | cons field rest ih => simp [keyIdsOfFields, ih]

/-- Texts hold no identifiers. -/
lemma keyIds_texts (texts : List String) : keyIds (.array (texts.map text)) = [] := by
  rw [keyIds, List.eq_nil_iff_forall_not_mem]
  intro id hid
  obtain ⟨v, hv, hid⟩ := mem_keyIdsOfItems.mp hid
  obtain ⟨s, -, rfl⟩ := List.mem_map.mp hv
  simp [keyIds] at hid

end Value

namespace Call

/-- The administrative command that a call sends. -/
def command? : Call → Option Command
  | command name arguments options => some ⟨Client.adminDatabase, name :: arguments, options⟩
  | _ => none

/-- Whether a call creates a data key. -/
def isCreateKey : Call → Bool
  | createKey _ => true
  | _ => false

/-- The identifiers of data keys that are handed over with a call. -/
def keyIds (call : Call) : List Value :=
  call.arguments.flatMap Value.keyIds

/-- A call that has nothing to do with administration or with data keys. -/
structure IsPlain (call : Call) : Prop where
  command : call.command? = none
  createKey : call.isCreateKey = false
  keyIds : call.keyIds = []

end Call

/-! ## Unchanged data -/

/-- The names that a database lists belong to collections with documents, or were created. -/
lemma Database.mem_listed {d : Database} {name : String} :
    name ∈ d.listed ↔ ∃ x, (name, x) ∈ d.collections ∧ (x.rows ≠ [] ∨ name ∈ d.created) := by
  simp [listed, Mapping.keys]

namespace Cluster

/-- A collection exists: it holds documents or was created, and is listed. -/
def Lists (c : Cluster) (database name : String) : Prop :=
  name ∈ (c.database database).listed

/-- A collection does not exist: it neither holds documents nor was created. -/
def Lacks (c : Cluster) (database name : String) : Prop :=
  name ∉ (c.database database).created ∧ ¬ c.Lists database name

variable {c c' c'' : Cluster} {database name : String}

/-- A collection exists once it has been created. -/
lemma lists_createCollection {options : Document}
    (h : c.createCollection database name options = .ok c') : c'.Lists database name := by
  obtain ⟨-, rfl⟩ := createCollection_eq_ok h
  have hget := Mapping.get?_set (c.database database).collections name
    { c.collection database name with options := options } name
  rw [if_pos rfl] at hget
  rw [Lists, database_setDatabase, if_pos rfl]
  exact Database.mem_listed.mpr ⟨_, Mapping.mem_of_get? hget, .inr (by simp)⟩

section Writing

variable {database' name' : String} {x : Collection}

/-- A collection that exists goes on to do so when another one is replaced. -/
lemma Lists.setCollection (h : c.Lists database name)
    (hx : (database', name') = (database, name) → x = c.collection database name) :
    (c.setCollection database' name' x).Lists database name := by
  unfold Lists Cluster.setCollection at *
  dsimp only
  rw [database_setDatabase]
  split
  · rename_i hd
    subst hd
    obtain ⟨y, hy, hlisted⟩ := Database.mem_listed.mp h
    by_cases hn : name' = name
    · subst hn
      -- The collection is replaced by itself.
      obtain ⟨y', hget⟩ := Mapping.exists_get?_of_mem_keys (List.mem_map_of_mem hy)
      obtain rfl : x = y' := by
        rw [hx rfl, Cluster.collection, Database.collection, hget]
        rfl
      rw [Mapping.set_of_get? hget]
      exact h
    · exact Database.mem_listed.mpr ⟨y, Mapping.mem_set_of_ne hy (Ne.symm hn), hlisted⟩
  · exact h

/-- A collection that does not exist is not brought into being when another one is replaced. -/
lemma Lacks.setCollection (h : c.Lacks database name)
    (hx : (database', name') = (database, name) → x = c.collection database name) :
    (c.setCollection database' name' x).Lacks database name := by
  unfold Lacks Lists Cluster.setCollection at *
  dsimp only
  rw [database_setDatabase]
  split
  · rename_i hd
    subst hd
    refine ⟨h.1, fun hm => h.2 ?_⟩
    obtain ⟨y, hy, hlisted⟩ := Database.mem_listed.mp hm
    rcases Mapping.mem_set hy with heq | hold
    · obtain ⟨rfl, rfl⟩ := Prod.mk.inj heq
      have hrows : y.rows ≠ [] := hlisted.resolve_right h.1
      rw [hx rfl] at hrows
      unfold Cluster.collection Database.collection at hrows
      cases hget : (c.database database).collections.get? name with
      | none =>
        rw [hget] at hrows
        exact absurd rfl hrows
      | some z =>
        rw [hget] at hrows
        exact Database.mem_listed.mpr ⟨z, Mapping.mem_of_get? hget, .inl hrows⟩
    · exact Database.mem_listed.mpr ⟨y, hold, hlisted⟩
  · exact h

end Writing

/-- Between two clusters neither the commands nor the collections have changed, as far as they
hold anything. -/
structure SameData (c c' : Cluster) : Prop where
  commands : c'.commands = c.commands
  collection : ∀ database name, c'.collection database name = c.collection database name
  lists : ∀ database name, c.Lists database name → c'.Lists database name
  lacks : ∀ database name, c.Lacks database name → c'.Lacks database name

namespace SameData

lemma refl (c : Cluster) : SameData c c :=
  ⟨rfl, fun _ _ => rfl, fun _ _ h => h, fun _ _ h => h⟩

lemma trans (h : SameData c c') (h' : SameData c' c'') : SameData c c'' :=
  ⟨h'.commands.trans h.commands, fun d n => (h'.collection d n).trans (h.collection d n),
    fun d n hl => h'.lists d n (h.lists d n hl), fun d n hl => h'.lacks d n (h.lacks d n hl)⟩

lemma of_database (hc : c'.commands = c.commands)
    (hd : ∀ database, c'.database database = c.database database) : SameData c c' := by
  refine ⟨hc, fun d n => by simp only [Cluster.collection, hd], fun d n => ?_, fun d n => ?_⟩
  · simp only [Lists, hd, imp_self]
  · simp only [Lacks, Lists, hd, imp_self]

lemma useDatabase (c : Cluster) (database : String) : SameData c (c.useDatabase database) :=
  of_database rfl fun _ => c.database_useDatabase database _

lemma useCollection (c : Cluster) (database name : String) :
    SameData c (c.useCollection database name) := by
  have hself : ∀ d n, (database, name) = (d, n) →
      c.collection database name = c.collection d n := by
    rintro d n ⟨⟩
    rfl
  exact ⟨rfl, fun d n => collection_useCollection _ _ _ d n,
    fun d n h => h.setCollection (hself d n), fun d n h => h.setCollection (hself d n)⟩

end SameData

end Cluster

/-! ## Consulting the store -/

/-- Between two worlds the data have not changed, and only plain calls were made. -/
structure World.Consults (w w' : World) : Prop where
  calls : ∃ issued, w'.calls = w.calls ++ issued ∧ ∀ call ∈ issued, call.IsPlain
  data : w.cluster.SameData w'.cluster

instance : IsPreorder World World.Consults where
  refl w := ⟨⟨[], by simp, by simp⟩, .refl w.cluster⟩
  trans := by
    rintro w w' w'' ⟨⟨i, hi, pi⟩, hd⟩ ⟨⟨j, hj, pj⟩, hd'⟩
    refine ⟨⟨i ++ j, by rw [hj, hi, List.append_assoc], fun call hcall => ?_⟩, hd.trans hd'⟩
    rcases List.mem_append.mp hcall with h | h
    · exact pi call h
    · exact pj call h

/-- Whatever closing a provider asks of the store, it only consults it. -/
lemma World.Closes.consults {w w' : World} (h : w.Closes w') : w.Consults w' := by
  obtain ⟨issued, hi, hc⟩ := h.calls
  refine ⟨⟨issued, hi, fun call hcall => ?_⟩, .of_database h.commands fun database => ?_⟩
  · have hclose := hc call hcall
    cases call <;> first | exact ⟨rfl, rfl, rfl⟩ | cases hclose
  · simp only [Cluster.database, h.databases]

section Calls

instance : CallOrder Consults where
  of_same hc hcluster _ := ⟨⟨[], by simp [hc], by simp⟩, by rw [hcluster]; exact .refl _⟩

lemma consults_modifyCluster {f : Cluster → Cluster} (h : ∀ c : Cluster, c.SameData (f c)) :
    Keeps Consults (attempt (modifyCluster f)) :=
  fun w => ⟨⟨[], (List.append_nil _).symm, by simp⟩, h w.cluster⟩

lemma consults_record {call : Call} (h : call.IsPlain) :
    Keeps Consults (attempt (record call)) := by
  intro w
  rw [run_attempt, exec_record]
  exact ⟨⟨[call], rfl, by simpa using h⟩, .refl w.cluster⟩

lemma consults_useDatabase (client : Client) (database : String) :
    Keeps Consults (attempt (client.useDatabase database)) :=
  consults_modifyCluster fun c => .useDatabase c database

lemma consults_use (client : Client) (database name : String) :
    Keeps Consults (attempt (client.use database name)) :=
  Client.keeps_use (consults_useDatabase _ _) (consults_record ⟨rfl, rfl, rfl⟩)
    (consults_modifyCluster fun c => .useCollection c database name)

lemma consults_listCollections (client : Client) (database : String) :
    Keeps Consults (attempt (client.listCollections database)) :=
  Client.keeps_listCollections (consults_useDatabase _ _) (consults_record ⟨rfl, rfl, rfl⟩)

/-- Asking for any document hands nothing over. -/
lemma consults_findOne (t : Target) : Keeps Consults (attempt (t.findOne [] none)) :=
  Target.keeps_findOne (consults_record ⟨rfl, rfl, rfl⟩)

lemma consults_connect (url : String) {options : Document}
    (h : Value.keyIds (.document options) = []) :
    Keeps Consults (attempt (Client.connect url options)) := by
  unfold Client.connect
  refine keeps_attempt_bind keeps_attempt_get fun w => ?_
  refine keeps_attempt_bind (consults_record ⟨rfl, rfl, ?_⟩) fun _ => ?_
  · simp [Call.keyIds, Call.arguments, h]
  · refine keeps_attempt_bind (consults_modifyCluster fun c => ?_) fun _ => keeps_attempt_pure _
    exact .of_database rfl fun _ => rfl

lemma consults_close (client : Client) : Keeps Consults (attempt client.close) := by
  unfold Client.close
  refine keeps_attempt_bind (consults_record ⟨rfl, rfl, rfl⟩) fun _ => ?_
  exact consults_modifyCluster fun c => .of_database rfl fun _ => rfl

lemma consults_encryptorCreate (client : Client) (keyVault : String) (standardIds : Bool) :
    Keeps Consults (attempt (Encryptor.create client keyVault standardIds)) :=
  Encryptor.keeps_create (consults_record ⟨rfl, rfl, by cases standardIds <;> rfl⟩)
    (consults_use client)

lemma consults_encryptorClose (e : Encryptor) : Keeps Consults (attempt e.close) :=
  consults_record ⟨rfl, rfl, rfl⟩

lemma consults_closeEndpoints (endpoints : List Endpoint) :
    Keeps Consults (Pool.closeEndpoints endpoints) :=
  fun w => (closes_closeEndpoints endpoints w).consults

lemma consults_announce (s : Settings) (url : String) (client : Client) :
    Keeps Consults (attempt (announce s url client)) :=
  keeps_announce_of_useDatabase url (consults_useDatabase client s.database)

end Calls

/-! ## Options without data keys -/

lemma Settings.keyIds_clientOptions (s : Settings) :
    Value.keyIds (.document s.clientOptions) = [] := by
  unfold Settings.clientOptions
  cases s.writeConcern <;>
    simp [WriteConcern.clientOptions, Mapping.update, Mapping.set, Value.keyIds,
      Value.keyIdsOfFields]

lemma Encryption.keyIds_clientOptions (s : Settings) :
    Value.keyIds (.document (Encryption.clientOptions s)) = [] := by
  unfold Encryption.clientOptions
  cases s.writeConcern <;>
    simp [WriteConcern.clientOptions, Value.keyIds, Value.keyIdsOfFields]

/-! ## Creating a context -/

/-- A preorder on worlds that activities which only consult the store respect. -/
class DataOrder (R : World → World → Prop) : Prop extends IsPreorder World R where
  of_consults : ∀ {w w' : World}, w.Consults w' → R w w'

instance (priority := low) {R : World → World → Prop} [DataOrder R] : CallOrder R where
  of_same hc hcluster hf := DataOrder.of_consults (CallOrder.of_same hc hcluster hf)

section DataOrder

variable {α : Type} {R : World → World → Prop} [DataOrder R] {s : Settings} {w w' : World}

lemma keeps_of_consults {a : StateM World α} (h : Keeps Consults a) : Keeps R a :=
  fun w => DataOrder.of_consults (h w)

namespace Encryption

/-- The collection in which the encryptor of some settings keeps data keys. -/
def vault (s : Settings) (client : Client) : Target :=
  ⟨client, (Encryptor.splitNamespace s.keyVaultNamespace).1,
    (Encryptor.splitNamespace s.keyVaultNamespace).2⟩

lemma vault_of_create {client : Client} {encryptor : Encryptor}
    (h : exec (Encryptor.create client s.keyVaultNamespace true) w = (.ok encryptor, w')) :
    encryptor.vault = vault s client := by
  rw [encryptorCreate_eq] at h
  obtain ⟨_, _, _, h⟩ := exec_bind_eq_ok h
  obtain ⟨target, _, huse, h⟩ := exec_bind_eq_ok h
  cases h
  exact use_eq_ok huse

/-- The access of some client to the key vault of some settings, before any key is known. -/
def keyVault (s : Settings) (client : Client) (encryptor : Encryptor) : KeyVault :=
  { keys := ⟨client, s.database, Settings.keyVaultCollection⟩, encryptor := encryptor }

/-- A key that was not known before is the one that was found or created. -/
lemma getOrCreate_cases {v : KeyVault} (hv : v.known = none)
    {found : Except Failure KeyId × KeyVault} (h : v.getOrCreate.run w = (found, w')) :
    ∃ r w₁, exec v.findOrCreate w = (r, w₁) ∧ Consults w₁ w' ∧
      ∀ key, found.1 = .ok key → ∃ isNew, r = .ok (key, isNew) := by
  unfold KeyVault.getOrCreate at h
  rw [hv] at h
  dsimp only at h
  rw [run_bind, run_attempt] at h
  cases hfind : exec v.findOrCreate w with
  | mk r w₁ =>
    refine ⟨r, w₁, rfl, ?_⟩
    rw [hfind] at h
    cases r with
    | error e =>
      cases h
      exact ⟨refl _, fun key hk => by cases hk⟩
    | ok pair =>
      obtain ⟨key, isNew⟩ := pair
      dsimp only at h
      split at h
      · cases h
        exact ⟨refl _, fun key' hk => by cases hk⟩
      · split at h
        · cases h
          exact ⟨keeps_log _ _ _ w₁, fun key' hk => by cases hk; exact ⟨isNew, rfl⟩⟩
        · cases h
          exact ⟨keeps_log _ _ _ w₁, fun key' hk => by cases hk; exact ⟨isNew, rfl⟩⟩

/-- With its client, the set-up looks up the key vault, takes the data key and prepares the
collection. -/
lemma setUpWith_cases {client : Client} {encryptor : Encryptor} {r : Except Failure Document}
    (h : exec (setUpWith s client encryptor) w = (r, w')) :
    (Consults w w' ∧ ∃ e, r = .error e) ∨
      ∃ w₁ found w₂, Consults w w₁ ∧
        (keyVault s client encryptor).getOrCreate.run w₁ = (found, w₂) ∧
        ((w' = w₂ ∧ ∃ e, r = .error e) ∨
          ∃ key, found.1 = .ok key ∧ exec (prepareCollection s client key) w₂ = (r, w')) := by
  unfold setUpWith at h
  cases huse : exec (client.use s.database Settings.keyVaultCollection) w with
  | mk used w₁ =>
    have h₁ : Consults w w₁ := rel_of_exec (consults_use _ _ _ w) huse
    cases used with
    | error e =>
      rw [exec_bind_of_error huse] at h
      cases h
      exact .inl ⟨h₁, e, rfl⟩
    | ok keys =>
      rw [exec_bind_of_ok huse] at h
      obtain rfl := use_eq_ok huse
      cases hrun : (keyVault s client encryptor).getOrCreate.run w₁ with
      | mk found w₂ =>
        refine .inr ⟨w₁, found, w₂, h₁, hrun, ?_⟩
        have hlift : exec (ExceptT.lift (keyVault s client encryptor).getOrCreate) w₁ =
            (.ok found, w₂) := by
          rw [← run_attempt]
          exact congrArg (fun pair => (Except.ok pair.1, pair.2)) hrun
        unfold keyVault at hlift
        dsimp only at h
        rw [exec_bind_of_ok hlift] at h
        obtain ⟨key?, v⟩ := found
        cases key? with
        | error e =>
          cases h
          exact .inl ⟨rfl, e, rfl⟩
        | ok key => exact .inr ⟨key, rfl, h⟩

/-- Looking for the data key only consults the store, and then the key may be created. -/
lemma keepsData_findOrCreate {v : KeyVault}
    (hkey : Keeps R (attempt (v.encryptor.createKey localProvider))) :
    Keeps R (attempt v.findOrCreate) :=
  KeyVault.keeps_findOrCreate (keeps_of_consults (consults_findOne _)) hkey

/-- Preparing the collection creates it and shards it at most. -/
lemma keepsData_prepareCollection {client : Client} {key : KeyId}
    (hlegacy : Keeps R (attempt (client.createCollection s.database s.collection
      [("validator", .document (Schema.remoteSchema key s.encryptedFields s.encoding))])))
    (hqueryable : Keeps R (attempt (client.createCollection s.database s.collection
      [("encryptedFields", .document (Schema.queryableFields key s.encryptedFields s.encoding
        s.contentionFactors))])))
    (hshard : Keeps R (attempt (shard s client))) :
    Keeps R (attempt (prepareCollection s client key)) := by
  refine keeps_prepareCollection ?_ (fun t => ?_) ?_ hlegacy hqueryable hshard
  · exact keeps_of_consults (consults_use _ _ _)
  · exact keeps_of_consults (Target.keeps_countDocuments (consults_record ⟨rfl, rfl, rfl⟩))
  · exact keeps_of_consults (consults_listCollections _ _)

/-- The work of the set-up with its client creates the data key and prepares the collection at
most. -/
lemma keepsData_setUpWith {client : Client} {encryptor : Encryptor}
    (hkey : Keeps R (attempt (encryptor.createKey localProvider)))
    (hprepare : ∀ key, Keeps R (attempt (prepareCollection s client key))) :
    Keeps R (attempt (setUpWith s client encryptor)) :=
  keeps_setUpWith (keeps_of_consults (consults_use _ _ _))
    (fun _ => keeps_of_consults (consults_findOne _)) hkey hprepare

/-- Around the work with its client, the set-up of the encryption only consults the store. -/
lemma keepsData_setUp (hwith : ∀ client encryptor, encryptor.vault = vault s client →
      Keeps R (attempt (setUpWith s client encryptor))) (url : String) :
    Keeps R (attempt (setUp s url)) := by
  intro w
  unfold setUp
  split
  · exact keeps_attempt_throw _ w
  · have hconnect : Keeps R (attempt (Client.connect (Url.withScheme url) (clientOptions s))) :=
      keeps_of_consults (consults_connect _ (keyIds_clientOptions s))
    refine rel_exec_bind (hconnect w) fun client w₁ _ => ?_
    refine rel_exec_bind (keeps_of_consults (consults_encryptorCreate _ _ _) w₁)
      fun encryptor w₂ h₂ => ?_
    refine rel_exec_bind (keeps_attempt_outcome (hwith client encryptor (vault_of_create h₂)) w₂)
      fun result w₃ _ => ?_
    refine rel_exec_bind (keeps_of_consults (consults_encryptorClose _) w₃) fun _ w₄ _ => ?_
    refine rel_exec_bind (keeps_of_consults (consults_close _) w₄) fun _ w₅ _ => ?_
    cases result with
    | ok _ => exact keeps_attempt_pure _ w₅
    | error _ => exact keeps_attempt_throw _ w₅

/-- A set-up that succeeds has succeeded with its client. -/
lemma setUp_eq_ok {url : String} {options : Document}
    (h : exec (setUp s url) w = (.ok options, w')) :
    ∃ client encryptor w₁ w₂, Consults w w₁ ∧ encryptor.vault = vault s client ∧
      exec (setUpWith s client encryptor) w₁ = (.ok options, w₂) ∧ Consults w₂ w' := by
  unfold setUp at h
  split at h
  · cases h
  · obtain ⟨client, w₁, h₁, h⟩ := exec_bind_eq_ok h
    obtain ⟨encryptor, w₂, h₂, h⟩ := exec_bind_eq_ok h
    obtain ⟨result, w₃, h₃, h⟩ := exec_bind_eq_ok h
    obtain ⟨_, w₄, h₄, h⟩ := exec_bind_eq_ok h
    obtain ⟨_, w₅, h₅, h⟩ := exec_bind_eq_ok h
    have hopened : Consults w w₂ := IsTrans.trans _ _ _
      (rel_of_exec (consults_connect _ (keyIds_clientOptions s) w) h₁)
      (rel_of_exec (consults_encryptorCreate _ _ _ w₁) h₂)
    have hclosed : Consults w₃ w₅ := IsTrans.trans _ _ _
      (rel_of_exec (consults_encryptorClose _ w₃) h₄) (rel_of_exec (consults_close _ w₄) h₅)
    rw [exec_outcome, Prod.mk.injEq, Except.ok.injEq] at h₃
    cases result with
    | error e => cases h
    | ok found =>
      cases h
      exact ⟨client, encryptor, w₂, w₃, hopened, vault_of_create h₂, Prod.ext h₃.1 h₃.2, hclosed⟩

end Encryption

/-- Setting up the encryption and handing its options to a client keeps a relation. -/
def HandsOver (R : World → World → Prop) (s : Settings) : Prop :=
  ∀ url options w w' client, exec (Encryption.setUp s url) w = (.ok options, w') →
    R w (w'.noted (.connect client
      (s.clientOptions.set "auto_encryption_opts" (.document options))))

/-- A client that is connected and announced is recorded with its options, and nothing else. -/
lemma rel_connectAndAnnounce {url : String} {options : Document}
    (h : ∀ client, R w (w'.noted (.connect client options))) :
    R w (exec (do announce s url (← Client.connect url options)) w').2 := by
  have hconnected : R w (exec (Client.connect url options) w').2 := by
    rcases exec_connect url options w' with ⟨f, -, he⟩ | ⟨-, hok⟩
    · rw [he]
      exact h _
    · rw [hok]
      refine IsTrans.trans _ _ _ (h (w'.cluster.nextClient url)) (DataOrder.of_consults ?_)
      exact ⟨⟨[], (List.append_nil _).symm, by simp⟩, .of_database rfl fun _ => rfl⟩
  rw [exec_bind]
  cases hconnect : exec (Client.connect url options) w' with
  | mk r w₁ =>
    rw [hconnect] at hconnected
    cases r with
    | error e => exact hconnected
    | ok client =>
      exact IsTrans.trans _ _ _ hconnected (keeps_of_consults (consults_announce s url client) w₁)

/-- An endpoint without encryption is opened by plain calls. -/
lemma keeps_openEndpoint_none (s : Settings) (server : String) :
    Keeps R (attempt (Pool.openEndpoint s none server)) := by
  intro w
  rw [openEndpoint_eq]
  refine rel_connectAndAnnounce fun client => DataOrder.of_consults ?_
  refine rel_of_exec (consults_record ⟨rfl, rfl, ?_⟩ w) (exec_record _ w)
  simp [Call.keyIds, Call.arguments, s.keyIds_clientOptions]

/-- An endpoint is opened by setting up its encryption, if there is to be any, handing over the
options and plain calls. -/
lemma keeps_openEndpoint (hsetUp : ∀ url, Keeps R (attempt (Encryption.setUp s url)))
    (hhands : HandsOver R s) (server : String) :
    Keeps R (attempt (Pool.openEndpoint s (Context.encryption s) server)) := by
  unfold Context.encryption
  split
  · intro w
    rw [openEndpoint_eq]
    have hbuild : Keeps R (attempt (endpointOptions s
        (some fun url => do return .document (← Encryption.setUp s url))
        (Url.embed server s.credentials.authority))) :=
      keeps_attempt_bind (keeps_attempt_bind (hsetUp _) fun _ => keeps_attempt_pure _)
        fun _ => keeps_attempt_pure _
    dsimp only
    rw [run_attempt, exec_bind]
    cases h : exec (endpointOptions s
        (some fun url => do return .document (← Encryption.setUp s url))
        (Url.embed server s.credentials.authority)) w with
    | mk r w₁ =>
      cases r with
      | error e => exact rel_of_exec (hbuild w) h
      | ok options =>
        obtain ⟨_, _, hvalue, hpure⟩ := exec_bind_eq_ok h
        obtain ⟨found, _, hfound, hvalue⟩ := exec_bind_eq_ok hvalue
        cases hvalue
        cases hpure
        exact rel_connectAndAnnounce fun client => hhands _ _ _ _ client hfound
  · exact keeps_openEndpoint_none s server

/-- Opening a pool keeps what opening its first endpoint keeps. -/
lemma keeps_openFrom {encryption : Option (String → Action Value)}
    (hfirst : ∀ server, Keeps R (attempt (Pool.openEndpoint s encryption server)))
    (opened : List Endpoint) (servers : List String) :
    Keeps R (attempt (Pool.openFrom s encryption opened servers)) := by
  induction servers generalizing opened with
  | nil => exact keeps_attempt_pure _
  | cons server rest ih =>
    have hopen : Keeps R (attempt
        (Pool.openEndpoint s (if opened.isEmpty then encryption else none) server)) := by
      split
      · exact hfirst server
      · exact keeps_openEndpoint_none s server
    unfold Pool.openFrom
    refine keeps_attempt_bind (keeps_attempt_outcome hopen) fun made => ?_
    cases made with
    | ok e => exact ih _
    | error f =>
      dsimp only
      split
      · refine keeps_attempt_bind (keeps_attempt_liftM ?_) fun _ => keeps_attempt_throw _
        exact keeps_of_consults (consults_closeEndpoints opened)
      · exact keeps_attempt_throw _

lemma keeps_openPool (hsetUp : ∀ url, Keeps R (attempt (Encryption.setUp s url)))
    (hhands : HandsOver R s) : Keeps R (attempt (Context.openPool s)) := by
  unfold Context.openPool Pool.create
  refine keeps_attempt_bind (keeps_attempt_outcome (keeps_attempt_bind
    (keeps_openFrom (keeps_openEndpoint hsetUp hhands) [] s.endpoints)
      fun _ => keeps_attempt_pure _)) fun made => ?_
  cases made with
  | ok p => exact keeps_attempt_pure _
  | error e =>
    dsimp only
    split
    · exact keeps_attempt_throw _
    · exact keeps_fatal _ _

/-- Creating a context keeps what setting up the encryption keeps, if it is also kept when the
options are handed over. -/
lemma keeps_create {bag : Bag} (hsetUp : ∀ s, (Settings.resolve bag).1 = .ok s →
      (∀ url, Keeps R (attempt (Encryption.setUp s url))) ∧ HandsOver R s) :
    Keeps R (attempt (Context.create bag)) := by
  intro w
  rw [run_attempt]
  have hlogged : ∀ entries, R w { w with entries := w.entries ++ entries } :=
    fun _ => CallOrder.of_same rfl rfl rfl
  cases hs : (Settings.resolve bag).1 with
  | refused problems =>
    obtain ⟨entries, hrefused⟩ := exec_create_of_refused hs w
    rw [hrefused]
    exact hlogged entries
  | ok s =>
    obtain ⟨hs₁, hs₂⟩ := hsetUp s hs
    rw [exec_create_of_resolve hs]
    refine IsTrans.trans _ _ _ (hlogged (Settings.resolve bag).2) ?_
    exact rel_exec_bind (keeps_openPool hs₁ hs₂ _) fun p w₁ _ =>
      keeps_announceContext s p w₁

/-- Handing over options is no matter where no connection is. -/
lemma handsOver_of_connect (hsetUp : ∀ url, Keeps R (attempt (Encryption.setUp s url)))
    (hconnect : ∀ client options w, R w (w.noted (.connect client options))) : HandsOver R s :=
  fun url _ w _ _ h => IsTrans.trans _ _ _ (rel_of_exec (hsetUp url w) h) (hconnect _ _ _)

/-- A first endpoint with encryption is opened after its encryption was set up. -/
lemma exists_setUp_of_openEndpoint {server : String} {e : Endpoint}
    (hmode : s.encryptionMode.isEnabled = true)
    (hconnect : ∀ client options w, R w (w.noted (.connect client options)))
    (h : exec (Pool.openEndpoint s (Context.encryption s) server) w = (.ok e, w')) :
    ∃ url options w₁, exec (Encryption.setUp s url) w = (.ok options, w₁) ∧ R w₁ w' := by
  unfold Context.encryption at h
  rw [if_pos hmode, openEndpoint_eq] at h
  obtain ⟨_, w₁, hbuild, h⟩ := exec_bind_eq_ok h
  obtain ⟨_, _, hvalue, hpure⟩ := exec_bind_eq_ok hbuild
  obtain ⟨options, _, hsetUp, hvalue⟩ := exec_bind_eq_ok hvalue
  cases hvalue
  cases hpure
  exact ⟨_, options, w₁, hsetUp,
    rel_of_exec (rel_connectAndAnnounce fun client => hconnect client _ w₁) h⟩

/-- A context with encryption is created after its encryption was set up. -/
lemma exists_setUp_of_create {bag : Bag} {c : Context} (hs : (Settings.resolve bag).1 = .ok s)
    (hmode : s.encryptionMode.isEnabled = true)
    (hsetUp : ∀ url, Keeps R (attempt (Encryption.setUp s url)))
    (hconnect : ∀ client options w, R w (w.noted (.connect client options)))
    (h : exec (Context.create bag) w = (.ok c, w')) :
    ∃ url options w₁ w₂, Consults w w₁ ∧ exec (Encryption.setUp s url) w₁ = (.ok options, w₂) ∧
      R w₂ w' := by
  rw [exec_create_of_resolve hs] at h
  obtain ⟨p, w₂, hpool, hannounce⟩ := exec_bind_eq_ok h
  obtain ⟨hopen, -⟩ := openFrom_of_openPool hpool
  obtain ⟨server, rest, hservers⟩ := List.exists_cons_of_ne_nil (Settings.endpoints_ne_nil hs)
  set w₀ : World := { w with entries := w.entries ++ (Settings.resolve bag).2 }
  have hlogged : Consults w w₀ := ⟨⟨[], by simp [w₀], by simp⟩, .refl w.cluster⟩
  rw [hservers] at hopen
  obtain ⟨e, w₁, hfirst, hothers⟩ := openFrom_cons_eq_ok hopen
  rw [if_pos List.isEmpty_nil] at hfirst
  obtain ⟨url, options, w₃, hset, hafter⟩ := exists_setUp_of_openEndpoint hmode hconnect hfirst
  have hhands := handsOver_of_connect hsetUp hconnect
  have hrest : R w₁ w₂ := rel_of_exec
    (keeps_openFrom (keeps_openEndpoint hsetUp hhands) _ rest w₁) hothers
  have hend : R w₂ w' :=
    rel_of_exec (keeps_announceContext s p w₂) hannounce
  exact ⟨url, options, w₀, w₃, hlogged, hset,
    IsTrans.trans _ _ _ hafter (IsTrans.trans _ _ _ hrest hend)⟩

end DataOrder

/-! ## Acquisitions -/

/-- A request of a run that only acquires contexts, with bags of some kind: in between contexts may
be given back, and the deployment may show other faults. -/
def Request.Acquires (accepts : Bag → Prop) : Request → Prop
  | .acquire _ bag => accepts bag
  | .release _ => True
  | .setFaults _ => True
  | _ => False

namespace Harness

variable {R : World → World → Prop} [DataOrder R]

lemma snd_step_acquire (h : Harness) (name : String) (bag : Bag) :
    (h.step (.acquire name bag)).2 = (h.acquire name bag).2.noteContexts := by
  unfold step answer
  dsimp only
  cases hacquire : h.acquire name bag with
  | mk r h' =>
    cases r with
    | error e => rfl
    | ok number =>
      dsimp only
      cases h'.contexts[number]? <;> rfl

/-- Acquiring a context keeps what creating one keeps. -/
lemma rel_acquire {bag : Bag} (hcreate : Keeps R (attempt (Context.create bag))) (h : Harness)
    (name : String) : R h.world (h.acquire name bag).2.world := by
  have hmade := hcreate h.world
  rw [run_attempt] at hmade
  cases hcontext : (h.provider name).context with
  | some number =>
    rw [acquire_of_context hcontext]
    exact refl h.world
  | none =>
    cases hrun : exec (Context.create bag) h.world with
    | mk r world =>
      rw [hrun] at hmade
      cases r with
      | error e =>
        rw [acquire_of_error hcontext hrun]
        exact hmade
      | ok c =>
        rw [acquire_of_ok hcontext hrun]
        exact hmade

/-- A run of acquisitions keeps what creating their contexts keeps. -/
lemma rel_step_of_acquires {accepts : Bag → Prop} {request : Request}
    (hrequest : request.Acquires accepts)
    (hcreate : ∀ bag, accepts bag → Keeps R (attempt (Context.create bag))) (h : Harness) :
    R h.world (h.step request).2.world := by
  cases request with
  | acquire name bag =>
    rw [snd_step_acquire]
    exact rel_acquire (hcreate bag hrequest) h name
  | release name => exact DataOrder.of_consults (closes_release h name).consults
  | setFaults faults =>
    exact DataOrder.of_consults ⟨⟨[], by simp [step, answer], by simp⟩, .refl h.world.cluster⟩
  | _ => exact hrequest.elim

end Harness

end LoadBinding
