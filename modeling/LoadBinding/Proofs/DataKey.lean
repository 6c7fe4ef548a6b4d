import LoadBinding.Proofs.Consulting
import LoadBinding.Proofs.Searching

/-!
# One data key for a set of data

Everything that is encrypted in a database is encrypted with one data key, which the first set-up
creates and every later one takes from the key vault.

`World.Provides database key? key?'` relates the world before a part of a set-up to the world after
it: the key vault held the key `key?` before, if any, and holds `key?'` after it.  A key that is
there stays, none is created then, and whatever identifier of a key has been handed over or stored
in between is that of `key?'`.  The identifier is followed from the vault through the schemas into
the options of the collection and of the client.

The main result says this of every sequence of set-ups for one database, whether they are made on
their own or to acquire a context, and whatever faults the deployment shows.
-/

namespace LoadBinding

open LoadBinding.Action World

/-! ## Identifiers in schemas and options -/

/-- The names of the fields with a payload are not the one of an identifier. -/
lemma Discrete.fieldName_ne_keyId (i : ℕ) : Discrete.fieldName i ≠ "keyId" := by
  intro h
  have hhead := congrArg (fun name => name.toList.head?) h
  have hfield : (toString "field").toList = 'f' :: "ield".toList := rfl
  simp [Discrete.fieldName, String.toList_append, hfield] at hhead

/-- A namespace has a point, and is not the name of an identifier. -/
lemma Settings.dataNamespace_ne_keyId (s : Settings) : s.dataNamespace ≠ "keyId" := by
  intro h
  have hpoint : '.' ∈ s.dataNamespace.toList := by
    simp [Settings.dataNamespace, String.toList_append]
  rw [h] at hpoint
  exact absurd hpoint (by decide)

namespace Schema

variable (key : KeyId) (count : ℤ) (encoding : Encoding)

/-- The rules of legacy encryption name no key but the one that they are made with. -/
lemma keyIds_legacySchema {id : Value}
    (h : id ∈ Value.keyIds (.document (legacySchema key count encoding))) : id = key.toValue := by
  have hrule : Value.keyIds (legacyRule key encoding) = [key.toValue] := by
    simp [legacyRule, Value.keyIds, Value.keyIdsOfFields, Value.items]
  have hfields : Value.keyIds (.document (legacySchema key count encoding)) =
      Value.keyIdsOfFields ((List.range count.toNat).map fun i =>
        (Discrete.fieldName i, legacyRule key encoding)) := by
    simp [legacySchema, legacyRules, fieldNames, Value.keyIds, Value.keyIdsOfFields,
      Function.comp_def]
  rw [hfields] at h
  obtain ⟨field, hfield, hid⟩ := Value.mem_keyIdsOfFields.mp h
  obtain ⟨i, -, rfl⟩ := List.mem_map.mp hfield
  rw [if_neg (by simpa using Discrete.fieldName_ne_keyId i), hrule] at hid
  exact List.mem_singleton.mp hid

lemma keyIds_remoteSchema {id : Value}
    (h : id ∈ Value.keyIds (.document (remoteSchema key count encoding))) : id = key.toValue := by
  have hfields : Value.keyIds (.document (remoteSchema key count encoding)) =
      Value.keyIds (.document (legacySchema key count encoding)) := by
    simp [remoteSchema, Value.keyIds, Value.keyIdsOfFields]
  exact keyIds_legacySchema key count encoding (hfields ▸ h)

/-- The fields of queryable encryption name no key but the one that they are made with. -/
lemma keyIds_queryableFields (factors : List ℤ) {id : Value}
    (h : id ∈ Value.keyIds (.document (queryableFields key count encoding factors))) :
    id = key.toValue := by
  have hquery : ∀ contention, Value.keyIdsOfFields (equalityQuery contention) = [] := by
    intro contention
    cases contention with
    | none => simp [equalityQuery, Value.keyIdsOfFields, Value.keyIds]
    | some factor =>
      unfold equalityQuery
      dsimp only
      split <;> simp [Value.keyIdsOfFields, Value.keyIds]
  have hfield : ∀ name contention,
      Value.keyIds (queryableField key encoding name contention) = [key.toValue] := by
    intro name contention
    simp [queryableField, Value.keyIds, Value.keyIdsOfFields, Value.keyIdsOfItems, Value.items,
      KeyId.toValue, hquery]
  have hfields : Value.keyIds (.document (queryableFields key count encoding factors)) =
      Value.keyIdsOfItems ((List.range count.toNat).map fun i =>
        queryableField key encoding (Discrete.fieldName i) factors[i]?) := by
    simp [queryableFields, Value.keyIds, Value.keyIdsOfFields]
  rw [hfields] at h
  obtain ⟨v, hv, hid⟩ := Value.mem_keyIdsOfItems.mp h
  obtain ⟨i, -, rfl⟩ := List.mem_map.mp hv
  rw [hfield] at hid
  exact List.mem_singleton.mp hid

end Schema

/-- A field that is written into a document adds the identifiers in its value. -/
lemma Value.mem_keyIdsOfFields_set {name : String} (hname : name ≠ "keyId") {v id : Value}
    {m : Document} (h : id ∈ Value.keyIdsOfFields (m.set name v)) :
    id ∈ v.keyIds ∨ id ∈ Value.keyIdsOfFields m := by
  obtain ⟨field, hfield, hid⟩ := Value.mem_keyIdsOfFields.mp h
  rcases Mapping.mem_set hfield with rfl | hold
  · left
    rwa [if_neg (by simpa using hname)] at hid
  · right
    exact Value.mem_keyIdsOfFields.mpr ⟨field, hold, hid⟩

/-- The options of a mode of encryption name the keys that are special to the mode. -/
lemma Encryption.keyIds_options (s : Settings) {name : String} (hname : name ≠ "keyId")
    (special : Value) :
    Value.keyIds (.document (Encryption.options s name special)) = special.keyIds := by
  have hlibrary : Value.keyIdsOfFields (Encryption.libraryOptions s) = [] := by
    unfold Encryption.libraryOptions
    split <;> simp [Value.keyIdsOfFields, Value.keyIds]
  simp [Encryption.options, Value.keyIds, Value.keyIdsOfFields, keyProviders, localProvider, hname,
    hlibrary]

/-! ## The key vault -/

/-- A data key as it is stored in the key vault. -/
def KeyId.row (key : KeyId) : Row :=
  ⟨key.toValue, [(idField, key.toValue), ("provider", .text localProvider)]⟩

/-- A data key can be stored in an empty collection. -/
lemma insert_row {x : Collection} (h : x.rows = []) (key : KeyId) :
    x.insert key.row.doc = .ok { x with rows := [key.row] } := by
  simp [Collection.insert, Collection.hasKey, h, KeyId.row, KeyId.toValue, Mapping.get?_cons,
    idField, Value.isKey]

/-- The key vault of a database holds a data key, or nothing. -/
def World.Vault (database : String) (key? : Option KeyId) (w : World) : Prop :=
  w.rows database Settings.keyVaultCollection = key?.toList.map KeyId.row

/-- The identifiers of data keys in a value are those of one key. -/
def Value.NamesOnly (key? : Option KeyId) (v : Value) : Prop :=
  ∀ id ∈ v.keyIds, id ∈ key?.map KeyId.toValue

lemma Value.NamesOnly.mono {v : Value} {key? key?' : Option KeyId} (h : v.NamesOnly key?)
    (hk : ∀ key ∈ key?, key ∈ key?') : v.NamesOnly key?' := by
  intro id hid
  obtain ⟨key, hkey, rfl⟩ := Option.mem_map.mp (h id hid)
  exact Option.mem_map.mpr ⟨key, hk key hkey, rfl⟩

/-- The options with which a collection was created. -/
def World.optionsOf (w : World) (database name : String) : Value :=
  .document (w.cluster.collection database name).options

/-- What happens between two worlds, of which the first has the data key `key?` in its key vault, if
any, and the second has `key?'`. -/
structure World.Provides (database : String) (key? key?' : Option KeyId) (w w' : World) :
    Prop where
  vault : w'.Vault database key?'
  /-- A key that is there stays. -/
  stays : ∀ key ∈ key?, key ∈ key?'
  /-- No key is created where there is one, and none is handed over but the one that is there in the
  end. -/
  calls : ∃ issued, w'.calls = w.calls ++ issued ∧
    ∀ call ∈ issued, (call.isCreateKey = true → key? = none) ∧
      ∀ v ∈ call.arguments, v.NamesOnly key?'
  options : ∀ database' name, w'.optionsOf database' name = w.optionsOf database' name ∨
    (w'.optionsOf database' name).NamesOnly key?'

namespace World

variable {database : String} {key? key?' key?'' : Option KeyId} {w w' w'' : World}

lemma Provides.trans (h : Provides database key? key?' w w')
    (h' : Provides database key?' key?'' w' w'') : Provides database key? key?'' w w'' := by
  obtain ⟨i, hi, ci⟩ := h.calls
  obtain ⟨j, hj, cj⟩ := h'.calls
  refine ⟨h'.vault, fun key hk => h'.stays key (h.stays key hk), ⟨i ++ j, ?_, ?_⟩, ?_⟩
  · rw [hj, hi, List.append_assoc]
  · intro call hcall
    rcases List.mem_append.mp hcall with hc | hc
    · exact ⟨(ci call hc).1, fun v hv => ((ci call hc).2 v hv).mono h'.stays⟩
    · refine ⟨fun hcreate => Option.eq_none_iff_forall_not_mem.mpr fun key hk => ?_, (cj call hc).2⟩
      have hnone := (cj call hc).1 hcreate
      have hstays := h.stays key hk
      rw [hnone] at hstays
      cases hstays
  · intro d n
    rcases h'.options d n with heq | hnew
    · rw [heq]
      exact (h.options d n).imp_right fun hold => hold.mono h'.stays
    · exact .inr hnew

/-- Calls that change no collection and hand over no other key than the one of the key vault. -/
lemma Provides.of_collections (hw : w.Vault database key?) {issued : List Call}
    (hi : w'.calls = w.calls ++ issued)
    (hcalls : ∀ call ∈ issued, (call.isCreateKey = true → key? = none) ∧
      ∀ v ∈ call.arguments, v.NamesOnly key?)
    (hsame : ∀ d n, w'.cluster.collection d n = w.cluster.collection d n) :
    Provides database key? key? w w' := by
  refine ⟨?_, fun _ hk => hk, ⟨issued, hi, hcalls⟩, fun d n => .inl ?_⟩
  · rw [Vault, rows, hsame]
    exact hw
  · rw [optionsOf, optionsOf, hsame]

/-- Consulting the store leaves the key vault as it is, and hands over no key. -/
lemma Provides.of_consults (hw : w.Vault database key?) (h : w.Consults w') :
    Provides database key? key? w w' := by
  obtain ⟨issued, hi, hplain⟩ := h.calls
  refine .of_collections hw hi (fun call hcall => ⟨fun hcreate => ?_, fun v hv id hid => ?_⟩)
    h.data.collection
  · rw [(hplain call hcall).createKey] at hcreate
    cases hcreate
  · have hmem : id ∈ call.keyIds := List.mem_flatMap.mpr ⟨v, hv, hid⟩
    rw [(hplain call hcall).keyIds] at hmem
    cases hmem

/-- A call that is recorded without effect. -/
lemma Provides.noted (hw : w.Vault database key?) {call : Call}
    (hcreate : call.isCreateKey = true → key? = none)
    (hnames : ∀ v ∈ call.arguments, v.NamesOnly key?) :
    Provides database key? key? w (w.noted call) := by
  refine .of_collections hw rfl (fun c hc => ?_) fun _ _ => rfl
  obtain rfl := List.mem_singleton.mp hc
  exact ⟨hcreate, hnames⟩

/-- Between two worlds a key vault provides one key, whatever it held before. -/
def Provisions (database : String) (w w' : World) : Prop :=
  ∀ key?, w.Vault database key? → ∃ key?', Provides database key? key?' w w'

instance : DataOrder (Provisions database) where
  refl w key? hw := ⟨key?, .of_consults hw (refl w)⟩
  trans := by
    intro w w' w'' h h' key? hw
    obtain ⟨key?', hk⟩ := h key? hw
    obtain ⟨key?'', hk'⟩ := h' key?' hk.vault
    exact ⟨key?'', hk.trans hk'⟩
  of_consults h key? hw := ⟨key?, .of_consults hw h⟩

end World

/-! ## Taking the data key from the key vault -/

/-- Without a point in the name of the database, the namespace of its key vault is read as meant. -/
lemma Encryptor.splitNamespace_eq {database : String} (hpoint : '.' ∉ database.toList)
    (name : String) : splitNamespace (database ++ "." ++ name) = (database, name) := by
  have hall := Text.bne_of_not_mem hpoint
  have hlist : (database ++ "." ++ name).toList = database.toList ++ '.' :: name.toList := by
    simp [String.toList_append]
  unfold splitNamespace
  rw [hlist, List.takeWhile_append_of_pos hall, List.dropWhile_append_of_pos hall]
  simp

section KeyVault

variable {database : String} {key? : Option KeyId} {w w' : World} {client : Client}

/-- The key vault of a database, as seen through a client. -/
abbrev vaultTarget (client : Client) (database : String) : Target :=
  ⟨client, database, Settings.keyVaultCollection⟩

/-- The only document of a key vault is found in it. -/
lemma findOne_vault_eq_ok {found : Option Document} (hw : w.Vault database key?)
    (h : exec ((vaultTarget client database).findOne [] none) w = (.ok found, w')) :
    found = key?.map fun key => key.row.doc := by
  unfold Target.findOne at h
  obtain ⟨_, w₁, hrecord, h⟩ := exec_bind_eq_ok h
  obtain ⟨_, _, hget, h⟩ := exec_bind_eq_ok h
  cases hget
  have hrows : ((vaultTarget client database).content w₁.cluster).rows =
      key?.toList.map KeyId.row := by
    rw [exec_record, Prod.mk.injEq] at hrecord
    rw [← hrecord.2]
    exact hw
  unfold Collection.findOne at h
  rw [hrows] at h
  cases key? <;> cases h <;> rfl

/-- A data key is stored in an empty key vault, unless that fails. -/
lemma provides_insertOne {key : KeyId} (hw : w.Vault database none) {r : Except Failure Unit}
    (h : exec ((vaultTarget client database).insertOne key.row.doc) w = (r, w')) :
    ((∃ e, r = .error e) ∧ Provides database none none w w') ∨
      (r = .ok () ∧ Provides database none (some key) w w') := by
  let t := vaultTarget client database
  have hnoted : Provides database none none w (w.noted (.insertOne t key.row.doc)) := by
    refine .noted hw (fun _ => rfl) fun v hv id hid => ?_
    obtain rfl := List.mem_singleton.mp hv
    simp [KeyId.row, KeyId.toValue, idField, Value.keyIds, Value.keyIdsOfFields] at hid
  unfold Target.insertOne at h
  cases hf : w.faults.get? (Call.insertOne t key.row.doc).address with
  | some f =>
    rw [exec_bind_of_error (exec_record_of_fault hf)] at h
    cases h
    exact .inl ⟨⟨_, rfl⟩, hnoted⟩
  | none =>
    have hinsert := insert_row (x := t.content w.cluster) hw key
    rw [exec_bind_of_ok (exec_record_of_no_fault hf), exec_bind_of_ok (exec_get _),
      World.noted_cluster, hinsert, exec_bind_of_ok (exec_ofStore_ok _ _)] at h
    let x : Collection := { t.content w.cluster with rows := [key.row] }
    obtain ⟨rfl, rfl⟩ : r = .ok () ∧ w' = (w.noted (.insertOne t key.row.doc)).put t x := by
      cases h
      exact ⟨rfl, rfl⟩
    obtain ⟨issued, hi, hc⟩ := hnoted.calls
    refine .inr ⟨rfl, ?_, by simp, ⟨issued, hi, fun call hcall => ⟨fun _ => rfl, ?_⟩⟩, ?_⟩
    · rw [Vault, rows_put, if_pos ⟨rfl, rfl⟩]
      rfl
    · exact fun v hv => ((hc call hcall).2 v hv).mono (by simp)
    · intro d n
      left
      rw [optionsOf, World.put, Cluster.collection_setCollection]
      split
      · rename_i heq
        rw [heq.1, heq.2]
        rfl
      · rfl

lemma createKey_eq (encryptor : Encryptor) :
    encryptor.createKey localProvider = (do
      record (.createKey localProvider)
      let bytes ← nextIdentifier
      encryptor.vault.insertOne (KeyId.mk bytes).row.doc
      return ⟨bytes⟩) := rfl

/-- A data key is created in an empty key vault, unless that fails. -/
lemma provides_createKey {encryptor : Encryptor}
    (hvault : encryptor.vault = vaultTarget client database) (hw : w.Vault database none)
    {r : Except Failure KeyId} (h : exec (encryptor.createKey localProvider) w = (r, w')) :
    ∃ key?', Provides database none key?' w w' ∧ ∀ key, r = .ok key → key?' = some key := by
  have hnoted : Provides database none none w (w.noted (.createKey localProvider)) :=
    .noted hw (fun _ => rfl) (by simp [Call.arguments])
  rw [createKey_eq, hvault] at h
  cases hf : w.faults.get? (Call.createKey localProvider).address with
  | some f =>
    rw [exec_bind_of_error (exec_record_of_fault hf)] at h
    cases h
    exact ⟨none, hnoted, fun key hk => by cases hk⟩
  | none =>
    rw [exec_bind_of_ok (exec_record_of_no_fault hf)] at h
    obtain ⟨bytes, w₁, hid⟩ : ∃ bytes w₁,
        exec nextIdentifier (w.noted (.createKey localProvider)) = (.ok bytes, w₁) := ⟨_, _, rfl⟩
    have hidentified : Provides database none none w w₁ := by
      refine hnoted.trans (.of_consults hnoted.vault ?_)
      cases hid
      exact ⟨⟨[], (List.append_nil _).symm, by simp⟩, .refl _⟩
    rw [exec_bind_of_ok hid] at h
    cases hinsert : exec ((vaultTarget client database).insertOne (KeyId.mk bytes).row.doc) w₁ with
    | mk stored w₂ =>
      rcases provides_insertOne hidentified.vault hinsert with ⟨⟨e, rfl⟩, h₂⟩ | ⟨rfl, h₂⟩
      · rw [exec_bind_of_error hinsert] at h
        cases h
        exact ⟨none, hidentified.trans h₂, fun key hk => by cases hk⟩
      · rw [exec_bind_of_ok hinsert] at h
        cases h
        exact ⟨some ⟨bytes⟩, hidentified.trans h₂, fun key hk => by cases hk; rfl⟩

lemma ofValue?_toValue (key : KeyId) : KeyId.ofValue? key.toValue = some key := by
  simp [KeyId.ofValue?, KeyId.toValue]

/-- The key that is found in the key vault or created in it is the one that it holds then. -/
lemma provides_findOrCreate {v : KeyVault} (hkeys : v.keys = vaultTarget client database)
    {client' : Client} (hvault : v.encryptor.vault = vaultTarget client' database)
    (hw : w.Vault database key?) {r : Except Failure (KeyId × Bool)}
    (h : exec v.findOrCreate w = (r, w')) :
    ∃ key?', Provides database key? key?' w w' ∧
      ∀ key isNew, r = .ok (key, isNew) → key?' = some key := by
  unfold KeyVault.findOrCreate at h
  rw [hkeys] at h
  cases hfind : exec ((vaultTarget client database).findOne [] none) w with
  | mk found w₁ =>
    have h₁ : Provides database key? key? w w₁ :=
      .of_consults hw (rel_of_exec (consults_findOne _ w) hfind)
    cases found with
    | error e =>
      rw [exec_bind_of_error hfind] at h
      cases h
      exact ⟨key?, h₁, fun key isNew hk => by cases hk⟩
    | ok found =>
      rw [exec_bind_of_ok hfind] at h
      obtain rfl := findOne_vault_eq_ok hw hfind
      cases key? with
      | some key =>
        have hid : Collection.keyOf key.row.doc = key.toValue := rfl
        dsimp only [Option.map_some] at h
        rw [hid, ofValue?_toValue] at h
        cases h
        exact ⟨some key, h₁, fun key' isNew hk => by cases hk; rfl⟩
      | none =>
        dsimp only [Option.map_none] at h
        cases hcreate : exec (v.encryptor.createKey localProvider) w₁ with
        | mk created w₂ =>
          obtain ⟨key?', h₂, hkey⟩ := provides_createKey hvault h₁.vault hcreate
          refine ⟨key?', ?_⟩
          cases created with
          | error e =>
            rw [exec_bind_of_error hcreate] at h
            cases h
            exact ⟨h₁.trans h₂, fun key isNew hk => by cases hk⟩
          | ok key =>
            rw [exec_bind_of_ok hcreate] at h
            cases h
            exact ⟨h₁.trans h₂, fun key' isNew hk => by cases hk; exact hkey key rfl⟩

/-- The key that the set-up is given is the one that the key vault holds then. -/
lemma provides_getOrCreate {s : Settings} {encryptor : Encryptor}
    (hvault : encryptor.vault = vaultTarget client s.database)
    (hw : w.Vault s.database key?) {found : Except Failure KeyId × KeyVault}
    (h : (Encryption.keyVault s client encryptor).getOrCreate.run w = (found, w')) :
    ∃ key?', Provides s.database key? key?' w w' ∧ ∀ key, found.1 = .ok key → key?' = some key := by
  obtain ⟨r, w₁, hfind, hlog, hfound⟩ := Encryption.getOrCreate_cases rfl h
  obtain ⟨key?', h₁, hkey⟩ := provides_findOrCreate rfl hvault hw hfind
  refine ⟨key?', h₁.trans (.of_consults h₁.vault hlog), fun key hk => ?_⟩
  obtain ⟨isNew, hr⟩ := hfound key hk
  exact hkey key isNew hr

end KeyVault

/-! ## Preparing the collection -/

/-- Between two worlds no key was created or handed over but the one that the key vault holds all
the time. -/
def World.Works (database : String) (key : KeyId) (w w' : World) : Prop :=
  w.Vault database (some key) → Provides database (some key) (some key) w w'

section Preparing

variable {database : String} {key : KeyId} {w w' : World}

instance : DataOrder (Works database key) where
  refl w hw := .of_consults hw (refl w)
  trans _ _ _ h h' hw := (h hw).trans (h' (h hw).vault)
  of_consults h hw := .of_consults hw h

/-- A collection that is created with options that name the key. -/
lemma works_createCollection (client : Client) (database' name : String) {options : Document}
    (hnames : (Value.document options).NamesOnly (some key)) :
    Keeps (Works database key) (attempt (client.createCollection database' name options)) := by
  intro w hw
  rw [run_attempt]
  have hnoted : Provides database (some key) (some key) w
      ((w.inDatabase database').noted (.createCollection database' name options)) := by
    refine .of_collections hw rfl (fun call hcall => ?_) fun _ _ =>
      Cluster.collection_useDatabase ..
    obtain rfl := List.mem_singleton.mp hcall
    refine ⟨fun hcreate => absurd hcreate Bool.false_ne_true, fun v hv => ?_⟩
    obtain rfl := List.mem_singleton.mp hv
    exact hnames
  rcases exec_createCollection client database' name options w with ⟨e, he⟩ | ⟨c, hc, hok⟩
  · rw [he]
    exact hnoted
  · rw [hok]
    have hread := Cluster.collection_of_createCollection hc
    refine ⟨?_, fun _ hk => hk, hnoted.calls, fun d n => ?_⟩
    · have hvault := hnoted.vault
      rw [Vault, rows] at hvault ⊢
      rw [← hvault, hread]
      split
      · rename_i heq
        rw [heq.1, heq.2]
        rfl
      · rfl
    · rw [optionsOf, hread]
      split
      · exact .inr hnames
      · exact hnoted.options d n

lemma works_command (client : Client) (name : String) (arguments : List String)
    {options : Document} (hnames : Value.keyIds (.document options) = []) :
    Keeps (Works database key) (attempt (client.command name arguments options)) := by
  have hcall : ∀ call ∈ [Call.command name arguments options],
      (call.isCreateKey = true → some key = none) ∧
        ∀ v ∈ call.arguments, v.NamesOnly (some key) := by
    intro call hcall
    obtain rfl := List.mem_singleton.mp hcall
    refine ⟨fun hcreate => absurd hcreate Bool.false_ne_true, fun v hv id hid => ?_⟩
    rcases List.mem_pair.mp hv with rfl | rfl
    · rw [Value.keyIds_texts] at hid
      cases hid
    · rw [hnames] at hid
      cases hid
  intro w hw
  rw [run_attempt]
  rcases exec_command client name arguments options w with ⟨e, he⟩ | ⟨w', hok, hi, hcluster⟩
  · rw [he]
    exact .of_collections hw rfl hcall fun _ _ => Cluster.collection_useDatabase ..
  · rw [hok]
    refine .of_collections hw hi hcall fun d n => ?_
    rw [hcluster]
    exact Cluster.collection_useDatabase ..

variable {s : Settings} {client : Client}

/-- Options that name no key but one. -/
lemma namesOnly_of_forall {v : Value} (h : ∀ id ∈ v.keyIds, id = key.toValue) :
    v.NamesOnly (some key) :=
  fun id hid => Option.mem_some_iff.mpr (h id hid).symm

/-- The options of a document with one field name the keys in its value. -/
lemma keyIds_single {name : String} (hname : name ≠ "keyId") (doc : Document) :
    Value.keyIds (.document [(name, .document doc)]) = Value.keyIds (.document doc) := by
  simp [Value.keyIds, Value.keyIdsOfFields, hname]

/-- Preparing the collection needs no key but the one that it is given. -/
lemma works_prepareCollection (s : Settings) (client : Client) (key : KeyId) :
    Keeps (Works database key) (attempt (Encryption.prepareCollection s client key)) := by
  have hvalidated : (Value.document [("validator",
      .document (Schema.remoteSchema key s.encryptedFields s.encoding))]).NamesOnly (some key) := by
    refine namesOnly_of_forall fun id hid => ?_
    rw [keyIds_single (by decide)] at hid
    exact Schema.keyIds_remoteSchema key _ _ hid
  have hqueryable : (Value.document [("encryptedFields", .document (Schema.queryableFields key
      s.encryptedFields s.encoding s.contentionFactors))]).NamesOnly (some key) := by
    refine namesOnly_of_forall fun id hid => ?_
    rw [keyIds_single (by decide)] at hid
    exact Schema.keyIds_queryableFields key _ _ _ hid
  exact Encryption.keepsData_prepareCollection (works_createCollection _ _ _ hvalidated)
    (works_createCollection _ _ _ hqueryable)
    (Encryption.keeps_shard (works_command _ _ _ rfl) (works_command _ _ _ rfl))

lemma createQueryable_eq_ok {fields : Document}
    (h : exec (Encryption.createQueryable s client key) w = (.ok fields, w')) :
    fields = Schema.queryableFields key s.encryptedFields s.encoding s.contentionFactors := by
  unfold Encryption.createQueryable at h
  dsimp only at h
  obtain ⟨_, _, _, h⟩ := exec_bind_eq_ok h
  obtain ⟨_, _, _, h⟩ := exec_bind_eq_ok h
  split at h
  · obtain ⟨_, _, _, h⟩ := exec_bind_eq_ok h
    cases h
    rfl
  · cases h
    rfl

/-- The options for the client name no key but the one that they are made with. -/
lemma namesOnly_of_prepareCollection {options : Document}
    (h : exec (Encryption.prepareCollection s client key) w = (.ok options, w')) :
    (Value.document options).NamesOnly (some key) := by
  refine namesOnly_of_forall fun id hid => ?_
  unfold Encryption.prepareCollection at h
  split at h
  · unfold Encryption.setUpQueryable at h
    obtain ⟨_, _, _, h⟩ := exec_bind_eq_ok h
    split at h
    · obtain ⟨_, _, _, h⟩ := exec_bind_eq_ok h
      cases h
      rw [Encryption.keyIds_options s (by decide)] at hid
      cases hid
    · obtain ⟨fields, _, hcreate, h⟩ := exec_bind_eq_ok h
      cases h
      rw [Encryption.keyIds_options s (by decide), keyIds_single s.dataNamespace_ne_keyId,
        createQueryable_eq_ok hcreate] at hid
      exact Schema.keyIds_queryableFields key _ _ _ hid
  · have hoptions : options = Encryption.options s "schema_map" (.document [(s.dataNamespace,
        .document (Schema.legacySchema key s.encryptedFields s.encoding))]) := by
      unfold Encryption.setUpLegacy at h
      dsimp only at h
      split at h
      · obtain ⟨_, _, _, h⟩ := exec_bind_eq_ok h
        cases h
        rfl
      · cases h
        rfl
    rw [hoptions, Encryption.keyIds_options s (by decide),
      keyIds_single s.dataNamespace_ne_keyId] at hid
    exact Schema.keyIds_legacySchema key _ _ hid

end Preparing

/-! ## The set-up -/

section SetUp

variable {key? : Option KeyId} {s : Settings} {w w' : World}

/-- What the set-up does with its client, and the options that it returns. -/
lemma provides_setUpWith {client : Client} {encryptor : Encryptor}
    (hvault : encryptor.vault = vaultTarget client s.database) (hw : w.Vault s.database key?)
    {r : Except Failure Document} (h : exec (Encryption.setUpWith s client encryptor) w = (r, w')) :
    ∃ key?', Provides s.database key? key?' w w' ∧
      ∀ options, r = .ok options → (Value.document options).NamesOnly key?' := by
  rcases Encryption.setUpWith_cases h with ⟨h₁, e, rfl⟩ | ⟨w₁, found, w₂, h₁, hrun, hend⟩
  · exact ⟨key?, .of_consults hw h₁, fun options hr => by cases hr⟩
  · have hused : Provides s.database key? key? w w₁ := .of_consults hw h₁
    obtain ⟨key?', h₂, hkey⟩ := provides_getOrCreate hvault hused.vault hrun
    refine ⟨key?', ?_⟩
    rcases hend with ⟨rfl, e, rfl⟩ | ⟨key, hfound, hprepare⟩
    · exact ⟨hused.trans h₂, fun options hr => by cases hr⟩
    · obtain rfl := hkey key hfound
      have h₃ := rel_of_exec (works_prepareCollection s client key w₂) hprepare h₂.vault
      refine ⟨(hused.trans h₂).trans h₃, ?_⟩
      rintro options rfl
      exact namesOnly_of_prepareCollection hprepare

variable (hpoint : '.' ∉ s.database.toList)

include hpoint

lemma vault_eq_vaultTarget (client : Client) :
    Encryption.vault s client = vaultTarget client s.database := by
  have hsplit := Encryptor.splitNamespace_eq hpoint Settings.keyVaultCollection
  unfold Encryption.vault Settings.keyVaultNamespace
  rw [hsplit]

lemma provisions_setUp (url : String) :
    Keeps (Provisions s.database) (attempt (Encryption.setUp s url)) := by
  refine Encryption.keepsData_setUp ?_ url
  intro client encryptor hvault w key? hw
  rw [vault_eq_vaultTarget hpoint] at hvault
  cases h : exec (Encryption.setUpWith s client encryptor) w with
  | mk r w' =>
    obtain ⟨key?', hprovides, -⟩ := provides_setUpWith hvault hw h
    rw [run_attempt, h]
    exact ⟨key?', hprovides⟩

/-- The options that a set-up returns name no key but the one that the key vault holds. -/
lemma provides_setUp {url : String} {options : Document} (hw : w.Vault s.database key?)
    (h : exec (Encryption.setUp s url) w = (.ok options, w')) :
    ∃ key?', Provides s.database key? key?' w w' ∧ (Value.document options).NamesOnly key?' := by
  obtain ⟨client, encryptor, w₁, w₂, h₁, hvault, hwith, h₂⟩ := Encryption.setUp_eq_ok h
  rw [vault_eq_vaultTarget hpoint] at hvault
  have hopened : Provides s.database key? key? w w₁ := .of_consults hw h₁
  obtain ⟨key?', hprovides, hnames⟩ := provides_setUpWith hvault hopened.vault hwith
  exact ⟨key?', (hopened.trans hprovides).trans (.of_consults hprovides.vault h₂),
    hnames options rfl⟩

/-- The first client of a pool is connected with options that name the key of the key vault. -/
lemma handsOver_provisions : HandsOver (Provisions s.database) s := by
  intro url options w w' client h key? hw
  obtain ⟨key?', hprovides, hnames⟩ := provides_setUp hpoint hw h
  refine ⟨key?', hprovides.trans (.noted hprovides.vault (fun hcreate => by cases hcreate) ?_)⟩
  intro v hv id hid
  obtain rfl := List.mem_singleton.mp hv
  rcases Value.mem_keyIdsOfFields_set (by decide) hid with hid | hid
  · exact hnames id hid
  · have hnone : Value.keyIdsOfFields s.clientOptions = [] := s.keyIds_clientOptions
    rw [hnone] at hid
    cases hid

end SetUp

/-! ## Set-ups one after the other -/

/-- A phase of the work on some data: a request to a harness, or a set-up of the encryption on its
own. -/
inductive Phase
  | request (r : Request)
  | setUp (s : Settings) (url : String)

/-- Whatever encryption a phase sets up is that of one database. -/
def Phase.Concerns (database : String) : Phase → Prop
  | .request r =>
    r.Acquires fun bag => ∀ s, (Settings.resolve bag).1 = .ok s → s.database = database
  | .setUp s _ => s.database = database

namespace Harness

/-- The options that a set-up on its own returns, and the harness after a phase. -/
def perform (h : Harness) : Phase → Option Document × Harness
  | .request r => (none, (h.step r).2)
  | .setUp s url =>
    let (made, h) := h.onWorld (attempt (Encryption.setUp s url))
    (made.toOption, h)

/-- The options that were returned in a sequence of phases, and the harness after them. -/
def performAll (h : Harness) : List Phase → List Document × Harness
  | [] => ([], h)
  | phase :: phases =>
    let (made, h) := h.perform phase
    let (others, h) := h.performAll phases
    (made.toList ++ others, h)

/-- The documents in the key vault of a database. -/
def dataKeys (h : Harness) (database : String) : List Document :=
  (h.world.cluster.collection database Settings.keyVaultCollection).docs

/-- An identifier of a data key has been produced since a cluster was found: it was handed over with
a call, is part of options that were returned, or of options with which a collection was created. -/
inductive Produced (cluster : Cluster) (made : List Document) (w : World) (id : Value) : Prop
  | call (call : Call) (hcall : call ∈ w.calls) (v : Value) (hv : v ∈ call.arguments)
      (hid : id ∈ v.keyIds)
  | options (doc : Document) (hdoc : doc ∈ made) (hid : id ∈ Value.keyIds (.document doc))
  | metadata (database name : String)
      (hnew : w.optionsOf database name ≠ .document (cluster.collection database name).options)
      (hid : id ∈ (w.optionsOf database name).keyIds)

variable {database : String} {cluster : Cluster} {made : List Document} {key? key?' : Option KeyId}
  {h h' : Harness} {phase : Phase}

/-- What holds between the phases: the key vault holds at most one key, and no other has been
produced. -/
structure Keyed (database : String) (cluster : Cluster) (made : List Document)
    (key? : Option KeyId) (h : Harness) : Prop where
  vault : h.world.Vault database key?
  produced : ∀ id, Produced cluster made h.world id → id ∈ key?.map KeyId.toValue

/-- A phase leaves the key of the key vault in its place. -/
lemma provides_perform (hpoint : '.' ∉ database.toList) (hphase : phase.Concerns database)
    (hw : h.world.Vault database key?) :
    ∃ key?', Provides database key? key?' h.world (h.perform phase).2.world ∧
      ∀ options ∈ (h.perform phase).1, (Value.document options).NamesOnly key?' := by
  cases phase with
  | request r =>
    have hcreate : ∀ bag, (∀ s, (Settings.resolve bag).1 = .ok s → s.database = database) →
        Keeps (Provisions database) (attempt (Context.create bag)) := by
      intro bag hbag
      refine keeps_create fun s hs => ?_
      obtain rfl := hbag s hs
      exact ⟨provisions_setUp hpoint, handsOver_provisions hpoint⟩
    obtain ⟨key?', hprovides⟩ := rel_step_of_acquires hphase hcreate h key? hw
    exact ⟨key?', hprovides, fun options ho => by cases ho⟩
  | setUp s url =>
    obtain rfl : s.database = database := hphase
    cases hrun : exec (Encryption.setUp s url) h.world with
    | mk r w =>
      have hperform : h.perform (.setUp s url) = (r.toOption, { h with world := w }) := by
        unfold perform onWorld
        dsimp only
        rw [run_attempt, hrun]
      rw [hperform]
      cases r with
      | error e =>
        obtain ⟨key?', hprovides⟩ :=
          rel_of_exec (provisions_setUp hpoint url h.world) hrun key? hw
        exact ⟨key?', hprovides, fun options ho => by cases ho⟩
      | ok options =>
        obtain ⟨key?', hprovides, hnames⟩ := provides_setUp hpoint hw hrun
        refine ⟨key?', hprovides, fun options' ho => ?_⟩
        cases ho
        exact hnames

/-- What holds between the phases still holds after one more. -/
lemma Keyed.perform (hh : h.Keyed database cluster made key?)
    (hprovides : Provides database key? key?' h.world h'.world) {options? : Option Document}
    (hnames : ∀ options ∈ options?, (Value.document options).NamesOnly key?') :
    h'.Keyed database cluster (made ++ options?.toList) key?' := by
  have hold : ∀ id, Produced cluster made h.world id → id ∈ key?'.map KeyId.toValue := by
    intro id hid
    obtain ⟨key, hkey, rfl⟩ := Option.mem_map.mp (hh.produced id hid)
    exact Option.mem_map.mpr ⟨key, hprovides.stays key hkey, rfl⟩
  refine ⟨hprovides.vault, fun id hid => ?_⟩
  cases hid with
  | call call hcall v hv hid =>
    obtain ⟨issued, hi, hissued⟩ := hprovides.calls
    rw [hi] at hcall
    rcases List.mem_append.mp hcall with hcall | hcall
    · exact hold id (.call call hcall v hv hid)
    · exact (hissued call hcall).2 v hv id hid
  | options doc hdoc hid =>
    rcases List.mem_append.mp hdoc with hdoc | hdoc
    · exact hold id (.options doc hdoc hid)
    · exact hnames doc (Option.mem_toList.mp hdoc) id hid
  | metadata d n hnew hid =>
    rcases hprovides.options d n with hsame | hnames'
    · rw [hsame] at hnew hid
      exact hold id (.metadata d n hnew hid)
    · exact hnames' id hid

/-- What holds between the phases holds after any sequence of them. -/
lemma Keyed.performAll (hpoint : '.' ∉ database.toList) {phases : List Phase}
    (hphases : ∀ phase ∈ phases, phase.Concerns database)
    (hh : h.Keyed database cluster made key?) :
    ∃ key?', (h.performAll phases).2.Keyed database cluster
      (made ++ (h.performAll phases).1) key?' := by
  induction phases generalizing h made key? with
  | nil => exact ⟨key?, by simpa [Harness.performAll] using hh⟩
  | cons phase rest ih =>
    obtain ⟨key?', hprovides, hnames⟩ :=
      provides_perform hpoint (hphases phase List.mem_cons_self) hh.vault
    obtain ⟨key?'', hrest⟩ :=
      ih (fun p hp => hphases p (List.mem_cons_of_mem _ hp)) (hh.perform hprovides hnames)
    refine ⟨key?'', ?_⟩
    rw [List.append_assoc] at hrest
    exact hrest

/-- Set-ups of the encryption of one database, on their own or to acquire contexts, one after the
other, in a deployment whose key vault is empty, whatever faults it shows in between: there is never
more than one data key, no key is created when there is one, and every identifier that is produced
is that of this key. -/
theorem one_data_key (hpoint : '.' ∉ database.toList) {draws : Draws} {faults : Faults}
    (hempty : (cluster.collection database Settings.keyVaultCollection).rows = [])
    {phases : List Phase} (hphases : ∀ phase ∈ phases, phase.Concerns database)
    (hrun : (start cluster draws faults "" []).performAll phases = (made, h)) :
    (h.dataKeys database).length ≤ 1 ∧
      (h.dataKeys database ≠ [] → ∀ phase : Phase, phase.Concerns database →
        ∀ call ∈ (h.perform phase).2.world.calls.drop h.world.calls.length,
          call.isCreateKey = false) ∧
      ∀ id, Produced cluster made h.world id →
        ∃ doc bytes, h.dataKeys database = [doc] ∧ doc.get? idField = some id ∧
          id = .binary 4 bytes := by
  have hstart : (start cluster draws faults "" []).Keyed database cluster [] none := by
    refine ⟨hempty, fun id hid => ?_⟩
    cases hid with
    | call call hcall => cases hcall
    | options doc hdoc => cases hdoc
    | metadata d n hnew => exact absurd rfl hnew
  obtain ⟨key?, hkeyed⟩ := hstart.performAll hpoint hphases
  rw [hrun, List.nil_append] at hkeyed
  have hkeys : h.dataKeys database = key?.toList.map fun key => key.row.doc := by
    have hvault := hkeyed.vault
    rw [Vault, rows] at hvault
    rw [dataKeys, Collection.docs, hvault, List.map_map]
    rfl
  refine ⟨?_, fun hne phase hphase call hcall => ?_, fun id hid => ?_⟩
  · rw [hkeys]
    cases key? <;> simp
  · obtain ⟨key?', hprovides, -⟩ := provides_perform hpoint hphase hkeyed.vault
    obtain ⟨issued, hi, hissued⟩ := hprovides.calls
    rw [hi, List.drop_left] at hcall
    by_contra hcreate
    have hnone : key? = none := (hissued call hcall).1 (by simpa using hcreate)
    rw [hkeys, hnone] at hne
    exact hne rfl
  · obtain ⟨key, hkey, rfl⟩ := Option.mem_map.mp (hkeyed.produced id hid)
    obtain rfl := Option.mem_def.mp hkey
    exact ⟨key.row.doc, key.bytes, hkeys, rfl, rfl⟩

/-- A set-up of legacy encryption, and after a change of faults a context with queryable
encryption. -/
def mixedPhases : List Phase :=
  [.setUp { useLegacy := true } "localhost", .request (.setFaults []),
    .request (.acquire "p" [("mongodb.qe", .text "true")])]

/-- The first set-up stores a data key before it fails to close the encryptor.  The second one
produces the identifier of that key. -/
theorem one_data_key_mixedPhases :
    ∃ made h,
      (start {} {} [("close_encryption:", ⟨.unreachable, "lost"⟩)] "" []).performAll mixedPhases =
        (made, h) ∧
      ∃ id, Produced {} made h.world id ∧
        ∃ doc bytes, h.dataKeys "ycsb" = [doc] ∧ doc.get? idField = some id ∧
          id = .binary 4 bytes := by
  have hproduced : ((start {} {} [("close_encryption:", ⟨.unreachable, "lost"⟩)] "" []).performAll
      mixedPhases).2.world.calls.any (fun call => call.arguments.any fun v => !v.keyIds.isEmpty) =
        true := by decide +kernel
  have hdatabase : (Settings.resolve [("mongodb.qe", .text "true")]).1.value?.map
      (fun s => s.database) = some "ycsb" := by decide +kernel
  cases hrun : (start {} {} [("close_encryption:", ⟨.unreachable, "lost"⟩)] "" []).performAll
      mixedPhases with
  | mk made h =>
    rw [hrun] at hproduced
    refine ⟨made, h, rfl, ?_⟩
    have hphases : ∀ phase ∈ mixedPhases, phase.Concerns "ycsb" := by
      intro phase hphase
      rcases List.mem_cons.mp hphase with rfl | hphase
      · rfl
      rcases List.mem_pair.mp hphase with rfl | rfl
      · trivial
      · intro s hs
        rw [hs] at hdatabase
        exact Option.some.inj hdatabase
    obtain ⟨call, hcall, hany⟩ := List.any_eq_true.mp hproduced
    obtain ⟨v, hv, hne⟩ := List.any_eq_true.mp hany
    obtain ⟨id, hid⟩ := List.exists_mem_of_ne_nil v.keyIds (by simpa using hne)
    have hmade : Produced {} made h.world id := .call call hcall v hv hid
    exact ⟨id, hmade, (one_data_key (by decide) rfl hphases hrun).2.2 id hmade⟩

end Harness

end LoadBinding
