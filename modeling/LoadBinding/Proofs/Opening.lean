import LoadBinding.Proofs.Keeping
import LoadBinding.Proofs.Resolution

/-!
# Opening a context

A context that has been created has a pool of clients of its own.  This file shows what a reader of
the record of calls can rely on, whatever faults the deployment shows: setting up a context closes
no connection that was there before (`opens_create`), and of a context that was created every client
is connected and has not been closed (`Context.Opened`).

The set-up of the encryption connects a client and closes it again; everything that it does in
between neither connects nor closes.
-/

namespace LoadBinding

open LoadBinding.Action World

variable {α : Type} {base : ℕ} {R : World → World → Prop}

/-! ## Activities that neither connect nor close -/

/-- A collection is created without a connection. -/
lemma Cluster.connections_createCollection {c c' : Cluster} {database name : String}
    {options : Document} (h : c.createCollection database name options = .ok c') :
    c'.connections = c.connections := by
  unfold Cluster.createCollection at h
  dsimp only at h
  split at h
  · cases h
  · cases h
    rfl

/-- An encryptor works on the collection that the namespace of the key vault names. -/
lemma encryptorCreate_eq (client : Client) (keyVault : String) (standardIds : Bool) :
    Encryptor.create client keyVault standardIds = (do
      record (.openEncryption keyVault keyProviders standardIds)
      let vault ← client.use (Encryptor.splitNamespace keyVault).1
        (Encryptor.splitNamespace keyVault).2
      return ⟨vault⟩) :=
  rfl

namespace ConnectionOrder

variable [ConnectionOrder R]

lemma keeps_modifyCluster {f : Cluster → Cluster} (h : ∀ c, (f c).connections = c.connections) :
    Keeps R (attempt (modifyCluster f)) :=
  fun w => ConnectionOrder.of_silent rfl (h w.cluster) rfl rfl rfl

/-- A call keeps every order of connections if it neither connects nor closes. -/
lemma keeps_record {call : Call} (hn : call.isConnect = false) (hc : call.isClose = false) :
    Keeps R (attempt (record call)) := by
  intro w
  rw [run_attempt, exec_record]
  exact ConnectionOrder.of_noted w hn hc

lemma keeps_useDatabase (client : Client) (database : String) :
    Keeps R (attempt (client.useDatabase database)) :=
  keeps_modifyCluster fun _ => rfl

lemma keeps_use (client : Client) (database name : String) :
    Keeps R (attempt (client.use database name)) :=
  Client.keeps_use (keeps_useDatabase _ _) (keeps_record rfl rfl) (keeps_modifyCluster fun _ => rfl)

lemma keeps_createCollection (client : Client) (database name : String)
    (options : Document) :
    Keeps R (attempt (client.createCollection database name options)) := by
  unfold Client.createCollection
  refine keeps_attempt_bind (keeps_useDatabase client database) fun _ => ?_
  refine keeps_attempt_bind (keeps_record rfl rfl) fun _ => ?_
  intro w
  rw [run_attempt, exec_bind_of_ok (exec_get w)]
  cases h : w.cluster.createCollection database name options with
  | error e =>
    rw [exec_bind_of_error (exec_ofStore_error e w)]
    exact refl w
  | ok cluster =>
    rw [exec_bind_of_ok (exec_ofStore_ok cluster w), exec_modifyCluster]
    have hn : cluster.connections = w.cluster.connections :=
      Cluster.connections_createCollection h
    exact ConnectionOrder.of_silent rfl hn rfl rfl rfl

lemma keeps_command (client : Client) (name : String) (arguments : List String)
    (options : Document) :
    Keeps R (attempt (client.command name arguments options)) := by
  unfold Client.command
  refine keeps_attempt_bind (keeps_useDatabase client _) fun _ => ?_
  refine keeps_attempt_bind (keeps_record rfl rfl) fun _ => ?_
  exact keeps_modifyCluster fun _ => rfl

/-! ### The set-up of the encryption -/

lemma keeps_encryptorCreate (client : Client) (keyVault : String) (standardIds : Bool) :
    Keeps R (attempt (Encryptor.create client keyVault standardIds)) :=
  Encryptor.keeps_create (keeps_record rfl rfl) (keeps_use client)

/-- A data key is created without a connection. -/
lemma keeps_createKey (e : Encryptor) (provider : String) :
    Keeps R (attempt (e.createKey provider)) :=
  Encryptor.keeps_createKey (keeps_record rfl rfl) fun _ =>
    Target.keeps_insertOne (keeps_record rfl rfl) fun _ => keeps_modifyCluster fun _ => rfl

/-- The collection is prepared without a connection, in either mode. -/
lemma keeps_prepareCollection (s : Settings) (client : Client) (key : KeyId) :
    Keeps R (attempt (Encryption.prepareCollection s client key)) := by
  refine Encryption.keeps_prepareCollection (keeps_use _ _ _) (fun t => ?_) ?_
    (keeps_createCollection _ _ _ _) (keeps_createCollection _ _ _ _) ?_
  · exact Target.keeps_countDocuments (keeps_record rfl rfl)
  · exact Client.keeps_listCollections (keeps_useDatabase _ _) (keeps_record rfl rfl)
  · exact Encryption.keeps_shard (keeps_command _ _ _ _) (keeps_command _ _ _ _)

/-- What is done with the client of the set-up neither connects nor closes. -/
lemma keeps_setUpWith (s : Settings) (client : Client) (encryptor : Encryptor) :
    Keeps R (attempt (Encryption.setUpWith s client encryptor)) :=
  Encryption.keeps_setUpWith (keeps_use _ _ _)
    (fun _ => Target.keeps_findOne (keeps_record rfl rfl)) (keeps_createKey _ _)
    (keeps_prepareCollection s client)

lemma keeps_encryptorClose (e : Encryptor) : Keeps R (attempt e.close) :=
  keeps_record rfl rfl

end ConnectionOrder

/-! ## Connecting and closing -/

/-- A connection that a fault refuses leaves nothing but the record of the call. -/
lemma exec_connect (url : String) (options : Document) (w : World) :
    (∃ f, w.faults.get? (Call.connect (w.cluster.nextClient url) options).address = some f ∧
      exec (Client.connect url options) w =
        (.error (.fault f), w.noted (.connect (w.cluster.nextClient url) options))) ∨
    w.faults.get? (Call.connect (w.cluster.nextClient url) options).address = none ∧
      exec (Client.connect url options) w =
        (.ok (w.cluster.nextClient url),
          { w.noted (.connect (w.cluster.nextClient url) options) with
            cluster := w.cluster.connect url }) := by
  unfold Client.connect
  rw [exec_bind_of_ok (exec_get w)]
  dsimp only
  cases hf : w.faults.get? (Call.connect (w.cluster.nextClient url) options).address with
  | some f => exact .inl ⟨f, rfl, exec_bind_of_error (exec_record_of_fault hf) _⟩
  | none =>
    refine .inr ⟨rfl, ?_⟩
    rw [exec_bind_of_ok (exec_record_of_no_fault hf), exec_bind_of_ok (exec_modifyCluster _ _)]
    rfl

/-- Connecting closes nothing, whether or not a fault refuses it. -/
lemma opens_connect (url : String) (options : Document) :
    Keeps (Opens base) (attempt (Client.connect url options)) := by
  intro w
  have noted : Opens base w (w.noted (.connect (w.cluster.nextClient url) options)) :=
    Opens.of_noted w fun client h => by cases h
  rw [run_attempt]
  rcases exec_connect url options w with ⟨f, -, h⟩ | ⟨-, h⟩
  · rw [h]
    exact noted
  · rw [h]
    refine IsTrans.trans _ _ _ noted ?_
    exact ⟨⟨[], by simp, by simp⟩, by simp [Cluster.connect], rfl, rfl, rfl⟩

/-- The client of a connection has the number of connections before, and is then connected. -/
lemma connect_eq_ok {url : String} {options : Document} {w w' : World} {client : Client}
    (h : exec (Client.connect url options) w = (.ok client, w')) :
    client.number = w.cluster.connections.length ∧
      w'.cluster.connections.length = w.cluster.connections.length + 1 ∧
      w'.calls = w.calls ++ [.connect client options] := by
  rcases exec_connect url options w with ⟨f, -, he⟩ | ⟨-, hok⟩
  · rw [he] at h
    cases h
  · rw [hok] at h
    cases h
    exact ⟨rfl, by simp [Cluster.connect], rfl⟩

/-- A client that a fault keeps from closing stays as it is, though the call is recorded. -/
lemma exec_close (client : Client) (w : World) :
    (∃ e, exec client.close w = (.error e, w.noted (.close client))) ∨
    exec client.close w =
      (.ok (), { w.noted (.close client) with cluster := w.cluster.close client }) := by
  unfold Client.close
  cases hf : w.faults.get? (Call.close client).address with
  | some f =>
    left
    exact ⟨_, exec_bind_of_error (exec_record_of_fault hf) _⟩
  | none =>
    right
    rw [exec_bind_of_ok (exec_record_of_no_fault hf), exec_modifyCluster]
    rfl

/-- Closing a client that was connected later than the first `base` clients leaves those alone. -/
lemma opens_close {client : Client} {w : World} (hb : base ≤ client.number)
    (hlt : client.number < w.cluster.connections.length) :
    Opens base w (exec client.close w).2 := by
  have noted : Opens base w (w.noted (.close client)) := by
    refine Opens.of_noted w fun c hc => ?_
    cases hc
    exact ⟨hb, hlt⟩
  rcases exec_close client w with ⟨e, h⟩ | h
  · rw [h]
    exact noted
  · rw [h]
    refine IsTrans.trans _ _ _ noted ?_
    exact ⟨⟨[], by simp, by simp⟩, by simp [Cluster.close], rfl, rfl, rfl⟩

/-- Connections are never taken back, so a number that belongs to one keeps doing so. -/
lemma lt_connections_of_keeps {a : StateM World α} (ha : Keeps (Opens 0) a) {w w' : World} {x : α}
    (h : a.run w = (x, w')) {n : ℕ} (hn : n < w.cluster.connections.length) :
    n < w'.cluster.connections.length := by
  have hw := (ha w).connections
  rw [h] at hw
  exact hn.trans_le hw

/-- The set-up of the encryption closes at most the client that it has connected. -/
lemma opens_setUp (s : Settings) (url : String) (w : World) :
    Opens w.cluster.connections.length w (exec (Encryption.setUp s url) w).2 := by
  unfold Encryption.setUp
  split
  · exact refl w
  · refine rel_exec_bind (opens_connect _ _ w) fun client w₁ h₁ => ?_
    obtain ⟨hnumber, hlength, -⟩ := connect_eq_ok h₁
    have hbase : w.cluster.connections.length ≤ client.number := hnumber.ge
    have hlt₁ : client.number < w₁.cluster.connections.length := by omega
    refine rel_exec_bind (ConnectionOrder.keeps_encryptorCreate client _ _ w₁)
      fun encryptor w₂ h₂ => ?_
    have hlt₂ := lt_connections_of_keeps (ConnectionOrder.keeps_encryptorCreate client _ _) h₂ hlt₁
    have keeps (n : ℕ) :
        Keeps (Opens n) (attempt (outcome (Encryption.setUpWith s client encryptor))) :=
      keeps_attempt_outcome (ConnectionOrder.keeps_setUpWith s client encryptor)
    refine rel_exec_bind (keeps _ w₂) fun result w₃ h₃ => ?_
    have hlt₃ := lt_connections_of_keeps (keeps 0) h₃ hlt₂
    refine rel_exec_bind (ConnectionOrder.keeps_encryptorClose encryptor w₃) fun _ w₄ h₄ => ?_
    have hlt₄ := lt_connections_of_keeps (ConnectionOrder.keeps_encryptorClose encryptor) h₄ hlt₃
    refine rel_exec_bind (opens_close hbase hlt₄) fun _ w₅ _ => ?_
    split
    · exact keeps_attempt_pure _ w₅
    · exact keeps_attempt_throw _ w₅

/-! ## Endpoints -/

/-- The client of an endpoint is connected and has not been closed. -/
def Endpoint.Connected (w : World) (e : Endpoint) : Prop :=
  e.client.number < w.cluster.connections.length ∧ Call.close e.client ∉ w.calls

/-- An endpoint stays connected as long as only newer clients are closed. -/
lemma Endpoint.Connected.of_opens {w w' : World} {e : Endpoint} (h : e.Connected w)
    (hw : Opens w.cluster.connections.length w w') : e.Connected w' :=
  ⟨h.1.trans_le hw.connections, hw.not_closed h.1 h.2⟩

/-- What provides the encryption of an endpoint closes only what it has connected. -/
def ClosesOwn (encryption : Option (String → Action Value)) : Prop :=
  ∀ build, encryption = some build → ∀ url w,
    Opens w.cluster.connections.length w (exec (build url) w).2

/-- The set-up of the encryption provides options in this way. -/
lemma closesOwn_encryption (s : Settings) : ClosesOwn (Context.encryption s) := by
  intro build hb url w
  unfold Context.encryption at hb
  split at hb
  · cases hb
    exact rel_exec_bind (opens_setUp s url w) fun _ w' _ => keeps_attempt_pure _ w'
  · cases hb

/-- The options of an endpoint, with those of its encryption. -/
def endpointOptions (s : Settings) (encryption : Option (String → Action Value)) (url : String) :
    Action Document :=
  match encryption with
  | none => pure s.clientOptions
  | some build => do return s.clientOptions.set "auto_encryption_opts" (← build url)

lemma opens_endpointOptions {encryption : Option (String → Action Value)}
    (he : ClosesOwn encryption) (s : Settings) (url : String) (w : World) :
    Opens w.cluster.connections.length w (exec (endpointOptions s encryption url) w).2 := by
  unfold endpointOptions
  split
  · exact keeps_attempt_pure _ w
  · rename_i build
    exact rel_exec_bind (he build rfl url w) fun _ w' _ => keeps_attempt_pure _ w'

/-- Announcing an endpoint and looking up its database. -/
def announce (s : Settings) (url : String) (client : Client) : Action Endpoint := do
  let display := Url.mask url s.username s.credentials.authority
  if Url.isFull url then log .info Pool.logSource s!"mongo connection created to {display}"
  else log .debug Pool.logSource s!"mongo server connection to {display}"
  client.useDatabase s.database
  return ⟨display, client⟩

/-- An endpoint is opened by making its options, connecting and announcing it. -/
lemma openEndpoint_eq (s : Settings) (encryption : Option (String → Action Value))
    (server : String) :
    Pool.openEndpoint s encryption server = (do
      let url := Url.embed server s.credentials.authority
      let options ← endpointOptions s encryption url
      let client ← Client.connect url options
      announce s url client) := by
  cases encryption with
  | none => rfl
  | some build => simp only [Pool.openEndpoint, endpointOptions, bind_assoc, pure_bind, announce]

/-- Announcing an endpoint changes nothing but the log once its database is looked up. -/
lemma keeps_announce_of_useDatabase [QuietOrder R] {s : Settings} {client : Client} (url : String)
    (h : Keeps R (attempt (client.useDatabase s.database))) :
    Keeps R (attempt (announce s url client)) := by
  have finish : Keeps R (attempt (do
      client.useDatabase s.database
      return ⟨Url.mask url s.username s.credentials.authority, client⟩ : Action Endpoint)) :=
    keeps_attempt_bind h fun _ => keeps_attempt_pure _
  unfold announce
  dsimp only
  split
  · exact keeps_attempt_bind (keeps_attempt_liftM (keeps_log _ _ _)) fun _ => finish
  · exact keeps_attempt_bind (keeps_attempt_liftM (keeps_log _ _ _)) fun _ => finish

lemma ConnectionOrder.keeps_announce [ConnectionOrder R] (s : Settings) (url : String)
    (client : Client) :
    Keeps R (attempt (announce s url client)) :=
  keeps_announce_of_useDatabase url (keeps_useDatabase client s.database)

/-- Announcing an endpoint does not fail. -/
lemma announce_eq {s : Settings} {url : String} {client : Client} {w w' : World}
    {r : Except Failure Endpoint} (h : exec (announce s url client) w = (r, w')) :
    r = .ok ⟨Url.mask url s.username s.credentials.authority, client⟩ := by
  unfold announce at h
  dsimp only at h
  split at h <;> cases h <;> rfl

/-- Opening an endpoint closes nothing that was connected before it. -/
lemma opens_openEndpoint {encryption : Option (String → Action Value)}
    (he : ClosesOwn encryption) (s : Settings) (server : String) (w : World) :
    Opens w.cluster.connections.length w (exec (Pool.openEndpoint s encryption server) w).2 := by
  rw [openEndpoint_eq]
  refine rel_exec_bind (opens_endpointOptions he s _ w) fun _ w₁ _ => ?_
  refine rel_exec_bind (opens_connect _ _ w₁) fun _ w₂ _ => ?_
  exact ConnectionOrder.keeps_announce _ _ _ w₂

/-- The client of an endpoint that was opened is a new one, and nothing has closed it. -/
lemma connected_openEndpoint {encryption : Option (String → Action Value)}
    (he : ClosesOwn encryption) {s : Settings} {server : String} {w w' : World} {e : Endpoint}
    (hw : w.Tidy) (h : exec (Pool.openEndpoint s encryption server) w = (.ok e, w')) :
    w.cluster.connections.length ≤ e.client.number ∧ e.Connected w' := by
  rw [openEndpoint_eq] at h
  obtain ⟨options, w₁, h₁, h⟩ := exec_bind_eq_ok h
  obtain ⟨client, w₂, h₂, h⟩ := exec_bind_eq_ok h
  obtain ⟨hnumber, hlength, hcalls⟩ := connect_eq_ok h₂
  have hopts := rel_of_exec (opens_endpointOptions he s _ w) h₁
  -- The number is new, so no earlier call can have closed this client.
  have hfresh : Call.close client ∉ w₂.calls := by
    intro hm
    rw [hcalls, List.mem_append] at hm
    rcases hm with hm | hm
    · have := hopts.tidy hw client hm
      omega
    · simp at hm
  have hannounce : Opens w₂.cluster.connections.length w₂ w' :=
    rel_of_exec (ConnectionOrder.keeps_announce s _ client w₂) h
  have hclient : e.client = client := by rw [Except.ok.inj (announce_eq h)]
  have hopen : e.Connected w₂ := by
    rw [Endpoint.Connected, hclient]
    exact ⟨by omega, hfresh⟩
  exact ⟨by rw [hclient, hnumber]; exact hopts.connections, hopen.of_opens hannounce⟩

/-- Closing endpoints closes connections that there are. -/
lemma opens_closeEndpoints {endpoints : List Endpoint} {w : World}
    (h : ∀ e ∈ endpoints, base ≤ e.client.number ∧
      e.client.number < w.cluster.connections.length) :
    Opens base w ((Pool.closeEndpoints endpoints).run w).2 := by
  induction endpoints generalizing w with
  | nil => exact refl w
  | cons e rest ih =>
    obtain ⟨hb, hlt⟩ := h e List.mem_cons_self
    have rest_lt : ∀ {w'}, Opens base w w' → Opens base w' ((Pool.closeEndpoints rest).run w').2 :=
      fun hw' => ih fun e he => ⟨(h e (List.mem_cons_of_mem _ he)).1,
        (h e (List.mem_cons_of_mem _ he)).2.trans_le hw'.connections⟩
    unfold Pool.closeEndpoints
    rw [run_bind, run_attempt]
    cases h₁ : exec e.client.close w with
    | mk r w₁ =>
      have hclose := rel_of_exec (opens_close hb hlt) h₁
      cases r with
      | ok _ => exact IsTrans.trans _ _ _ hclose (rest_lt hclose)
      | error f =>
        have hlog := IsTrans.trans _ _ _ hclose (keeps_log .warning Pool.logSource
          s!"Error closing connection to {e.display}: '{f.message}'" w₁)
        exact IsTrans.trans _ _ _ hlog (rest_lt hlog)

section OpenFrom

variable {s : Settings} {encryption : Option (String → Action Value)} {opened : List Endpoint}
  {server : String} {w w' : World}

/-- After an endpoint that was opened come those that remain. -/
lemma openFrom_of_ok {e : Endpoint}
    (h : exec (Pool.openEndpoint s (if opened.isEmpty then encryption else none) server) w =
      (.ok e, w')) (rest : List String) :
    exec (Pool.openFrom s encryption opened (server :: rest)) w =
      exec (Pool.openFrom s encryption (opened ++ [e]) rest) w' := by
  rw [Pool.openFrom, exec_bind_of_ok (exec_outcome _ w), h]

/-- When an endpoint could not be opened, those before it are closed, unless the run is over. -/
lemma openFrom_of_error {f : Failure}
    (h : exec (Pool.openEndpoint s (if opened.isEmpty then encryption else none) server) w =
      (.error f, w')) (rest : List String) :
    exec (Pool.openFrom s encryption opened (server :: rest)) w =
      (.error f, if f.isExit then w' else ((Pool.closeEndpoints opened).run w').2) := by
  rw [Pool.openFrom, exec_bind_of_ok (exec_outcome _ w), h]
  cases hexit : f.isExit <;> simp only [hexit] <;> rfl

/-- A pool that was opened begins with its first endpoint. -/
lemma openFrom_cons_eq_ok {rest : List String} {endpoints : List Endpoint}
    (h : exec (Pool.openFrom s encryption opened (server :: rest)) w = (.ok endpoints, w')) :
    ∃ e w₁, exec (Pool.openEndpoint s (if opened.isEmpty then encryption else none) server) w =
        (.ok e, w₁) ∧
      exec (Pool.openFrom s encryption (opened ++ [e]) rest) w₁ = (.ok endpoints, w') := by
  cases hopen : exec
      (Pool.openEndpoint s (if opened.isEmpty then encryption else none) server) w with
  | mk r w₁ =>
    cases r with
    | error f =>
      rw [openFrom_of_error hopen] at h
      cases h
    | ok e =>
      rw [openFrom_of_ok hopen] at h
      exact ⟨e, w₁, rfl, h⟩

end OpenFrom

/-- The endpoints of a pool are opened one after the other; when one fails, those before it are
closed. -/
lemma opens_openFrom {encryption : Option (String → Action Value)} (he : ClosesOwn encryption)
    (s : Settings) {servers : List String} {opened : List Endpoint} {w : World} (hw : w.Tidy)
    (hbase : base ≤ w.cluster.connections.length)
    (hopened : ∀ e ∈ opened, base ≤ e.client.number ∧ e.Connected w) :
    Opens base w (exec (Pool.openFrom s encryption opened servers) w).2 ∧
      ∀ endpoints w', exec (Pool.openFrom s encryption opened servers) w = (.ok endpoints, w') →
        endpoints.length = opened.length + servers.length ∧ ∀ e ∈ endpoints, e.Connected w' := by
  induction servers generalizing opened w with
  | nil =>
    refine ⟨refl w, fun endpoints w' h => ?_⟩
    cases h
    exact ⟨rfl, fun e he => (hopened e he).2⟩
  | cons server rest ih =>
    have hown : ClosesOwn (if opened.isEmpty then encryption else none) := by
      split
      · exact he
      · intro build hb
        cases hb
    cases h₁ : exec
        (Pool.openEndpoint s (if opened.isEmpty then encryption else none) server) w with
    | mk r w₁ =>
      have hstep := rel_of_exec (opens_openEndpoint hown s server w) h₁
      have hopened₁ : ∀ e ∈ opened, base ≤ e.client.number ∧ e.Connected w₁ :=
        fun e he => ⟨(hopened e he).1, (hopened e he).2.of_opens hstep⟩
      have hstep' : Opens base w w₁ := hstep.mono hbase
      cases r with
      | error f =>
        rw [openFrom_of_error h₁]
        constructor
        · refine IsTrans.trans _ _ _ hstep' ?_
          dsimp only
          split
          · exact refl w₁
          · exact opens_closeEndpoints fun e he => ⟨(hopened₁ e he).1, (hopened₁ e he).2.1⟩
        · intro endpoints w' h
          cases h
      | ok e =>
        rw [openFrom_of_ok h₁]
        obtain ⟨hge, hnew⟩ := connected_openEndpoint hown hw h₁
        have hopened₂ : ∀ e' ∈ opened ++ [e], base ≤ e'.client.number ∧ e'.Connected w₁ := by
          intro e' he'
          rcases List.mem_append.mp he' with he' | he'
          · exact hopened₁ e' he'
          · obtain rfl := List.mem_singleton.mp he'
            exact ⟨hbase.trans hge, hnew⟩
        obtain ⟨hopens, hok⟩ := ih (hstep.tidy hw) (hbase.trans hstep.connections) hopened₂
        refine ⟨IsTrans.trans _ _ _ hstep' hopens, fun endpoints w' h => ?_⟩
        obtain ⟨hlength, hconnected⟩ := hok endpoints w' h
        refine ⟨?_, hconnected⟩
        rw [hlength, List.length_append, List.length_singleton, List.length_cons]
        omega

/-! ## Contexts -/

/-- A context as it is after its creation: its settings were accepted, it is open, and it has a
connected client for every endpoint of the settings. -/
structure Context.Opened (bag : Bag) (w : World) (c : Context) : Prop where
  settings : (Settings.resolve bag).1 = .ok c.settings
  generators : c.generators = Discrete.forFields c.settings.cardinalities
  isOpen : c.isOpen = true
  poolIsOpen : c.pool.isOpen = true
  length_endpoints : c.pool.endpoints.length = c.settings.endpoints.length
  connected : ∀ e ∈ c.pool.endpoints, e.Connected w

/-- A context that was created has an endpoint. -/
lemma Context.Opened.endpoints_ne_nil {bag : Bag} {w : World} {c : Context}
    (h : c.Opened bag w) : c.pool.endpoints ≠ [] := by
  intro hnil
  have hlength := h.length_endpoints
  rw [hnil, List.length_nil, eq_comm, List.length_eq_zero_iff] at hlength
  exact Settings.endpoints_ne_nil h.settings hlength

/-- Opening the pool of some settings closes no connection that was there before. -/
lemma opens_openPool (s : Settings) {w : World} (hw : w.Tidy) :
    Opens w.cluster.connections.length w (exec (Context.openPool s) w).2 := by
  unfold Context.openPool Pool.create
  refine rel_exec_bind ?_ fun made w₁ _ => ?_
  · rw [exec_outcome]
    refine rel_exec_bind ?_ fun _ w₁ _ => keeps_attempt_pure _ w₁
    exact (opens_openFrom (closesOwn_encryption s) s hw le_rfl (by simp)).1
  · split
    · exact keeps_attempt_pure _ w₁
    · split
      · exact keeps_attempt_throw _ w₁
      · exact keeps_fatal _ _ w₁

/-- A pool that could be opened is a new one, of the endpoints that were opened for it. -/
lemma pool_of_openPool {s : Settings} {w w' : World} {p : Pool}
    (h : exec (Context.openPool s) w = (.ok p, w')) :
    exec (Pool.openFrom s (Context.encryption s) [] s.endpoints) w = (.ok p.endpoints, w') ∧
      p = { endpoints := p.endpoints } := by
  unfold Context.openPool at h
  rw [exec_bind_of_ok (exec_outcome _ w)] at h
  cases hmade : exec (Pool.create s (Context.encryption s)) w with
  | mk r w₁ =>
    rw [hmade] at h
    cases r with
    | error e =>
      dsimp only at h
      split at h
      · cases h
      · obtain ⟨_, _, _, h⟩ := exec_bind_eq_ok h
        cases h
    | ok made =>
      cases h
      obtain ⟨endpoints, _, hopen, hmade⟩ := exec_bind_eq_ok hmade
      cases hmade
      exact ⟨hopen, rfl⟩

lemma openFrom_of_openPool {s : Settings} {w w' : World} {p : Pool}
    (h : exec (Context.openPool s) w = (.ok p, w')) :
    exec (Pool.openFrom s (Context.encryption s) [] s.endpoints) w = (.ok p.endpoints, w') ∧
      p.isOpen = true := by
  obtain ⟨hopen, hpool⟩ := pool_of_openPool h
  exact ⟨hopen, by rw [hpool]⟩

/-- The pool of some settings has a connected client for each of their endpoints. -/
lemma openPool_eq_ok {s : Settings} {w w' : World} {p : Pool} (hw : w.Tidy)
    (h : exec (Context.openPool s) w = (.ok p, w')) :
    p.isOpen = true ∧ p.endpoints.length = s.endpoints.length ∧
      ∀ e ∈ p.endpoints, e.Connected w' := by
  obtain ⟨hopen, hisOpen⟩ := openFrom_of_openPool h
  obtain ⟨hlength, hconnected⟩ :=
    (opens_openFrom (closesOwn_encryption s) s hw le_rfl (by simp)).2 p.endpoints _ hopen
  exact ⟨hisOpen, by simpa using hlength, hconnected⟩

/-- A bag that is resolved gives its settings. -/
lemma resolve_eq_ok {bag : Bag} {s : Settings} {w w' : World}
    (h : exec (Context.resolve bag) w = (.ok s, w')) : (Settings.resolve bag).1 = .ok s := by
  unfold Context.resolve at h
  dsimp only at h
  obtain ⟨_, _, _, h⟩ := exec_bind_eq_ok h
  split at h
  · rename_i hs
    cases h
    exact hs
  · cases h

/-- A bag is resolved into its settings, and what there is to say about it is logged. -/
lemma exec_resolve_of_ok {bag : Bag} {s : Settings} (hs : (Settings.resolve bag).1 = .ok s)
    (w : World) : exec (Context.resolve bag) w =
      (.ok s, { w with entries := w.entries ++ (Settings.resolve bag).2 }) := by
  unfold Context.resolve
  dsimp only
  rw [exec_bind_of_ok (exec_liftM _ _), hs, run_logAll]
  rfl

/-- A bag that is refused fails with its problems, after what there is to say has been logged. -/
lemma exec_resolve_of_refused {bag : Bag} {problems : List Problem}
    (hs : (Settings.resolve bag).1 = .refused problems) (w : World) :
    exec (Context.resolve bag) w =
      (.error (.settings problems),
        { w with entries := w.entries ++ (Settings.resolve bag).2 }) := by
  unfold Context.resolve
  dsimp only
  rw [exec_bind_of_ok (exec_liftM _ _), hs, run_logAll]
  rfl

/-- The settings that a context is created with; a bag that is refused ends the run. -/
def acceptedSettings (r : Except Failure Settings) : Action Settings :=
  match r with
  | .ok s => pure s
  | .error e => fatal "Invalid binding configuration" (some e.message)

lemma keeps_acceptedSettings [QuietOrder R] (r : Except Failure Settings) :
    Keeps R (attempt (acceptedSettings r)) := by
  cases r with
  | ok s => exact keeps_attempt_pure s
  | error e => exact keeps_fatal _ _

/-- The context of a pool, announced in the log. -/
def announceContext (s : Settings) (p : Pool) : Action Context := do
  log .info Context.logSource <|
    s!"Binding context ready: {p.endpoints.length} endpoint(s), " ++
      s!"database '{s.database}', encryption '{s.encryptionMode.word}'"
  return { settings := s, pool := p, generators := Discrete.forFields s.cardinalities }

/-- A context is created from the settings of its bag and a pool opened with them. -/
lemma create_eq (bag : Bag) :
    Context.create bag = (do
      let r ← outcome (Context.resolve bag)
      let s ← acceptedSettings r
      let p ← Context.openPool s
      announceContext s p) := by
  unfold Context.create
  refine bind_congr fun r => ?_
  cases r <;> rfl

/-- Once its bag is resolved, creating a context comes to opening a pool. -/
lemma exec_create_of_resolve {bag : Bag} {s : Settings} (hs : (Settings.resolve bag).1 = .ok s)
    (w : World) :
    exec (Context.create bag) w = exec (do
      let p ← Context.openPool s
      announceContext s p) { w with entries := w.entries ++ (Settings.resolve bag).2 } := by
  rw [create_eq, exec_bind_of_ok (exec_outcome _ w), exec_resolve_of_ok hs]
  rfl

/-- A bag that is refused ends the run before the store is asked for anything. -/
lemma exec_create_of_refused {bag : Bag} {problems : List Problem}
    (hs : (Settings.resolve bag).1 = .refused problems) (w : World) :
    ∃ entries, exec (Context.create bag) w =
      (.error (.exit 1), { w with entries := w.entries ++ entries }) := by
  let said : Log.Entry :=
    ⟨.critical, "mongobench.helpers",
      Failure.under "Invalid binding configuration" (some (Failure.settings problems).message)⟩
  refine ⟨(Settings.resolve bag).2 ++ [said], ?_⟩
  rw [create_eq, exec_bind_of_ok (exec_outcome _ w), exec_resolve_of_refused hs,
    ← List.append_assoc]
  rfl

lemma keeps_announceContext [QuietOrder R] (s : Settings) (p : Pool) :
    Keeps R (attempt (announceContext s p)) :=
  keeps_attempt_bind (keeps_attempt_liftM (keeps_log _ _ _)) fun _ => keeps_attempt_pure _

/-- Creating a context closes no connection that was there before, whether or not it succeeds. -/
theorem opens_create (bag : Bag) {w : World} (hw : w.Tidy) :
    Opens w.cluster.connections.length w (exec (Context.create bag) w).2 := by
  rw [create_eq]
  have keeps : Keeps (Opens w.cluster.connections.length)
      (attempt (outcome (Context.resolve bag))) := keeps_attempt_outcome (keeps_resolve bag)
  refine rel_exec_bind (keeps w) fun r w₁ h₁ => ?_
  have hresolve := rel_of_exec (keeps w) h₁
  refine rel_exec_bind (keeps_acceptedSettings r w₁) fun s w₂ h₂ => ?_
  have haccepted : Opens w.cluster.connections.length w₁ w₂ :=
    rel_of_exec (keeps_acceptedSettings r w₁) h₂
  refine rel_exec_bind ?_ fun p w₃ _ => keeps_announceContext s p w₃
  exact (opens_openPool s (haccepted.tidy (hresolve.tidy hw))).mono
    (hresolve.connections.trans haccepted.connections)

/-- A context that was created is open, with a connected client for every endpoint. -/
theorem opened_of_create {bag : Bag} {w w' : World} {c : Context} (hw : w.Tidy)
    (h : exec (Context.create bag) w = (.ok c, w')) : c.Opened bag w' := by
  rw [create_eq] at h
  obtain ⟨r, w₁, h₁, h⟩ := exec_bind_eq_ok h
  obtain ⟨s, w₂, h₂, h⟩ := exec_bind_eq_ok h
  obtain ⟨p, w₃, h₃, h⟩ := exec_bind_eq_ok h
  have hresolve : Opens 0 w w₁ :=
    rel_of_exec (keeps_attempt_outcome (keeps_resolve bag) w) h₁
  have haccepted : Opens 0 w₁ w₂ := rel_of_exec (keeps_acceptedSettings r w₁) h₂
  have hlog : Opens w₃.cluster.connections.length w₃ w' :=
    rel_of_exec (keeps_announceContext s p w₃) h
  obtain ⟨hopen, hlength, hconnected⟩ := openPool_eq_ok (haccepted.tidy (hresolve.tidy hw)) h₃
  obtain rfl : c =
      { settings := s, pool := p, generators := Discrete.forFields s.cardinalities } := by
    cases h
    rfl
  refine ⟨?_, rfl, rfl, hopen, hlength, fun e he => (hconnected e he).of_opens hlog⟩
  cases r with
  | error e =>
    obtain ⟨_, _, _, h₂⟩ := exec_bind_eq_ok h₂
    cases h₂
  | ok s' =>
    cases h₂
    have hrun : exec (Context.resolve bag) w = (.ok s, w₁) := by
      rw [exec_outcome, Prod.mk.injEq, Except.ok.injEq] at h₁
      exact Prod.ext h₁.1 h₁.2
    exact resolve_eq_ok hrun

end LoadBinding
